import FillInStory.Dictionary
import FillInStory.Json.Parser

/-! # Form parameters in a request body

A form is sent as pairs of a name and a value, with `&` between the pairs and `=` inside them. A plus sign
stands for a space and a percent sign with two hexadecimal digits for a byte; a percent sign before
anything else stands for itself. What is then no UTF-8 is replaced.
-/

namespace FillInStory.Urlencoded

def hexByte? (b : UInt8) : Option Nat := Json.hexDigit? (Char.ofNat b.toNat)

/-- Replaces plus signs by spaces and percent signs with two digits by bytes. -/
def unescape : List UInt8 → List UInt8
  | [] => []
  | 37 :: a :: b :: rest =>
    match hexByte? a, hexByte? b with
    | some high, some low => UInt8.ofNat (high * 16 + low) :: unescape rest
    | _, _ => 37 :: unescape (a :: b :: rest)
  | b :: rest => (if b = 43 then 32 else b) :: unescape rest

def decodePart (bytes : List UInt8) : Text := Text.ofUtf8Lossy (unescape bytes)

/-- A name and its value, which is empty if there is no equals sign. -/
def decodePair (bytes : List UInt8) : Text × Text :=
  (decodePart (bytes.takeWhile (· != 61)), decodePart ((bytes.dropWhile (· != 61)).drop 1))

/-- The pairs of a body in order; empty stretches between ampersands are none. -/
def pairs (body : List UInt8) : List (Text × Text) :=
  ((pieces 38 body).filter (!·.isEmpty)).map decodePair

/-- The parameters of a body; of several with one name the last counts. -/
def parameters (body : List UInt8) : Dictionary Text Text := Dictionary.ofList (pairs body)

end FillInStory.Urlencoded
