import FillInStory.Text.Basic

/-! # Reading decimal numerals

Ports and template numbers are written in decimal, with an optional plus sign in front, and must not
exceed a limit. Reading goes from left to right and reports the first thing that is wrong: a character
that is no digit, or a number that has just grown too large.
-/

namespace FillInStory

/-- What is wrong with a numeral. -/
inductive NumeralError where
  | empty
  | invalidDigit
  | tooLarge
  deriving DecidableEq, Repr

namespace NumeralError

def message : NumeralError → Text
  | .empty => "cannot parse integer from empty string"
  | .invalidDigit => "invalid digit found in string"
  | .tooLarge => "number too large to fit in target type"

end NumeralError

def digit? (c : Char) : Option Nat := if c.isDigit then some (c.toNat - '0'.toNat) else none

namespace Text

/-- Continues the number `value` with the digits of a text, as long as it stays within the limit. -/
def readDigits (limit : Nat) : Nat → Text → Except NumeralError Nat
  | value, [] => .ok value
  | value, c :: rest =>
    match digit? c with
    | none => .error .invalidDigit
    | some d => if value * 10 + d ≤ limit then readDigits limit (value * 10 + d) rest else .error .tooLarge

/-- Reads an optional plus sign and one or more digits as a number up to the limit. -/
def readNumeral (limit : Nat) : Text → Except NumeralError Nat
  | [] => .error .empty
  | '+' :: c :: rest => readDigits limit 0 (c :: rest)
  | t => readDigits limit 0 t

end Text

end FillInStory
