import FillInStory.Json.Value
import FillInStory.Text.Numeral
import FillInStory.Text.Utf8

/-! # Reading JSON

The grammar of JSON without extensions. Nesting is limited, a number that is no integer of 64 bits is read
in binary floating point and refused if it is too large, and the escapes of surrogates must come in pairs.
Each reader returns what it read with the rest of the text.
-/

namespace FillInStory.Json

def skipSpace (t : Text) : Text := t.dropWhile fun c => c = ' ' || c = '\t' || c = '\n' || c = '\r'

/-! ## Strings -/

/-- A character between the quotes of a string: itself, or a 16-bit unit given by its number. -/
inductive StringUnit where
  | char (c : Char)
  | code (n : Nat)
  deriving DecidableEq, Repr

def hexDigit? (c : Char) : Option Nat :=
  if c.isDigit then some (c.toNat - '0'.toNat)
  else if 'a' ≤ c && c ≤ 'f' then some (c.toNat - 'a'.toNat + 10)
  else if 'A' ≤ c && c ≤ 'F' then some (c.toNat - 'A'.toNat + 10)
  else none

def hexFour? (a b c d : Char) : Option Nat := do
  some ((((← hexDigit? a) * 16 + (← hexDigit? b)) * 16 + (← hexDigit? c)) * 16 + (← hexDigit? d))

/-- The character that a letter after a backslash stands for. -/
def escaped? (c : Char) : Option Char :=
  match c with
  | '"' => some '"'
  | '\\' => some '\\'
  | '/' => some '/'
  | 'b' => some '\x08'
  | 'f' => some '\x0C'
  | 'n' => some '\n'
  | 'r' => some '\r'
  | 't' => some '\t'
  | _ => none

/-- The units up to the closing quote, with the text after it. -/
def stringUnits : Text → Option (List StringUnit × Text)
  | [] => none
  | '"' :: rest => some ([], rest)
  | '\\' :: 'u' :: a :: b :: c :: d :: rest => do
    let n ← hexFour? a b c d
    let (units, rest) ← stringUnits rest
    some (.code n :: units, rest)
  | '\\' :: c :: rest => do
    let e ← escaped? c
    let (units, rest) ← stringUnits rest
    some (.char e :: units, rest)
  | c :: rest =>
    if c.toNat < 0x20 then none
    else do
      let (units, rest) ← stringUnits rest
      some (.char c :: units, rest)

/-- Joins the units of surrogate pairs; a surrogate alone is refused. -/
def joinSurrogates : List StringUnit → Option Text
  | [] => some []
  | .code n :: .code m :: rest =>
    if 0xD800 ≤ n && n < 0xDC00 then
      if 0xDC00 ≤ m && m < 0xE000 then
        (joinSurrogates rest).map (Char.ofNat (0x10000 + (n - 0xD800) * 0x400 + (m - 0xDC00)) :: ·)
      else none
    else if 0xDC00 ≤ n && n < 0xE000 then none
    else (joinSurrogates (.code m :: rest)).map (Char.ofNat n :: ·)
  | .code n :: rest =>
    if 0xD800 ≤ n && n < 0xE000 then none else (joinSurrogates rest).map (Char.ofNat n :: ·)
  | .char c :: rest => (joinSurrogates rest).map (c :: ·)

def readString (t : Text) : Option (Text × Text) := do
  let (units, rest) ← stringUnits t
  some (← joinSurrogates units, rest)

/-! ## Numbers -/

def naturalLimit : Nat := Nat.pow 2 64 - 1

/-- Appends digits to a number as long as it stays within 64 bits, and counts the digits left over. -/
def appendDigits (value : Nat) : Text → Nat × Nat
  | [] => (value, 0)
  | c :: rest =>
    let longer := value * 10 + (c.toNat - '0'.toNat)
    if longer ≤ naturalLimit then appendDigits longer rest else (value, rest.length + 1)

def digitsValue (digits : Text) : Nat := digits.foldl (fun n c => n * 10 + (c.toNat - '0'.toNat)) 0

def signedDigits (t : Text) : Option (Int × Text) :=
  let (minus, t) : Bool × Text :=
    match t with
    | '+' :: rest => (false, rest)
    | '-' :: rest => (true, rest)
    | _ => (false, t)
  let digits := t.takeWhile Char.isDigit
  if digits.isEmpty then none
  else
    let value : Int := digitsValue digits
    some (if minus then -value else value, t.dropWhile Char.isDigit)

def exponentPart : Text → Option (Option Int × Text)
  | 'e' :: rest => (signedDigits rest).map fun (e, rest) => (some e, rest)
  | 'E' :: rest => (signedDigits rest).map fun (e, rest) => (some e, rest)
  | t => some (none, t)

def fractionPart : Text → Option (Option Text × Text)
  | '.' :: rest =>
    let digits := rest.takeWhile Char.isDigit
    if digits.isEmpty then none else some (some digits, rest.dropWhile Char.isDigit)
  | t => some (none, t)

def floatNumber (minus : Bool) (whole fraction : Text) (exponent : Int) : Option JsonNumber :=
  let (value, left) := appendDigits 0 whole
  let (value, unread) := appendDigits value fraction
  let scale : Int := left - (fraction.length - unread : Nat) + exponent
  (Binary64.ofDecimal? value scale).map (.float minus)

def wholeNumber (minus : Bool) (whole : Text) : Option JsonNumber :=
  let n := digitsValue whole
  if naturalLimit < n then floatNumber minus whole [] 0
  else if !minus then some (.natural n)
  else if n = 0 || Nat.pow 2 63 < n then floatNumber minus whole [] 0
  else some (.negative n)

def readNumber (minus : Bool) (t : Text) : Option (JsonNumber × Text) := do
  let whole := t.takeWhile Char.isDigit
  if whole.isEmpty || (whole.head? = some '0' && whole.length ≠ 1) then none
  else
    let (fraction, rest) ← fractionPart (t.dropWhile Char.isDigit)
    let (exponent, rest) ← exponentPart rest
    let n ←
      match fraction, exponent with
      | none, none => wholeNumber minus whole
      | _, _ => floatNumber minus whole (fraction.getD []) (exponent.getD 0)
    some (n, rest)

/-! ## Values -/

/-- The items up to a closing character, of which there is at least one; commas stand between them. -/
def items {α : Type} (item : Text → Option (α × Text)) (close : Char) :
    (fuel : Nat) → Text → Option (List α × Text)
  | 0, _ => none
  | fuel + 1, t => do
    let (first, rest) ← item t
    match skipSpace rest with
    | [] => none
    | c :: rest =>
      if c = ',' then
        let (others, rest) ← items item close fuel rest
        some (first :: others, rest)
      else if c = close then some ([first], rest)
      else none

/-- The items up to a closing character, of which there may be none. -/
def itemsOrNone {α : Type} (item : Text → Option (α × Text)) (close : Char) (t : Text) :
    Option (List α × Text) :=
  match skipSpace t with
  | [] => none
  | c :: rest => if c = close then some ([], rest) else items item close (t.length + 1) t

def namedItem {α : Type} (item : Text → Option (α × Text)) (t : Text) : Option ((Text × α) × Text) :=
  match skipSpace t with
  | '"' :: rest => do
    let (name, rest) ← readString rest
    match skipSpace rest with
    | ':' :: rest => do
      let (value, rest) ← item rest
      some ((name, value), rest)
    | _ => none
  | _ => none

/-- A value, in which arrays and objects may be nested less deep than the limit. -/
def readValue : (limit : Nat) → Text → Option (Json × Text)
  | 0, _ => none
  | limit + 1, t =>
    match skipSpace t with
    | 'n' :: 'u' :: 'l' :: 'l' :: rest => some (.null, rest)
    | 't' :: 'r' :: 'u' :: 'e' :: rest => some (.bool true, rest)
    | 'f' :: 'a' :: 'l' :: 's' :: 'e' :: rest => some (.bool false, rest)
    | '"' :: rest => (readString rest).map fun (s, rest) => (.string s, rest)
    | '[' :: rest => (itemsOrNone (readValue limit) ']' rest).bind fun (found, rest) =>
        if limit = 0 then none else some (.array found, rest)
    | '{' :: rest => (itemsOrNone (namedItem (readValue limit)) '}' rest).bind fun (found, rest) =>
        if limit = 0 then none else some (.object found, rest)
    | '-' :: rest => (readNumber true rest).map fun (n, rest) => (.number n, rest)
    | other => (readNumber false other).map fun (n, rest) => (.number n, rest)

/-- Arrays and objects may be nested less than this many times. -/
def nestingLimit : Nat := 128

def parse? (t : Text) : Option Json :=
  match readValue nestingLimit t with
  | some (j, rest) => if (skipSpace rest).isEmpty then some j else none
  | none => none

def ofBytes? (bytes : List UInt8) : Option Json := (Text.ofUtf8? bytes).bind parse?

end FillInStory.Json
