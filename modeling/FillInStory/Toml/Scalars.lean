import FillInStory.Toml.Strings

/-! # Numbers and dates in TOML

Integers have 64 bits and may be written in four bases, with underscores between digits. Numbers with a
fraction or an exponent and dates are checked but not kept, as no setting is one.
-/

namespace FillInStory.Toml

inductive Value where
  | string (t : Text)
  | integer (n : Int)
  | boolean (b : Bool)
  | float
  | dateTime
  | array
  | inlineTable
  deriving DecidableEq, Repr

/-! ## Numbers -/

/-- The digits at the start of a text, each of which but the first may have an underscore before it. -/
def spanDigits (isDigit : Char → Bool) : Text → Text × Text
  | [] => ([], [])
  | c :: rest =>
    if isDigit c then
      let (digits, rest) := spanDigits isDigit rest
      (c :: digits, rest)
    else
      match rest with
      | d :: others =>
        if c = '_' && isDigit d then
          let (digits, rest) := spanDigits isDigit others
          (d :: digits, rest)
        else ([], c :: rest)
      | [] => ([], c :: rest)

def digits? (isDigit : Char → Bool) (t : Text) : Option (Text × Text) :=
  if t.head?.any isDigit then some (spanDigits isDigit t) else none

def valueInBase (base : Nat) (digits : Text) : Nat :=
  digits.foldl (fun n c => n * base + (Json.hexDigit? c).getD 0) 0

def integerLimit : Nat := Nat.pow 2 63 - 1

/-- An integer in a base after the mark of the base. -/
def basedInteger (base : Nat) (t : Text) : Option (Value × Text) := do
  let (digits, rest) ← digits? (fun c => (Json.hexDigit? c).any (· < base)) t
  if valueInBase base digits ≤ integerLimit then some (.integer (valueInBase base digits), rest) else none

/-- An optional sign, and whether it is a minus. -/
def readSign : Text → Bool × Text
  | '-' :: rest => (true, rest)
  | '+' :: rest => (false, rest)
  | t => (false, t)

/-- The whole part of a number: a zero alone, or digits that begin with none. -/
def wholePart : Text → Option (Text × Text)
  | '0' :: rest => some (['0'], rest)
  | t => digits? Char.isDigit t

def fractionPart : Text → Option (Text × Text)
  | '.' :: rest => digits? Char.isDigit rest
  | _ => none

def exponentPart : Text → Option (Int × Text)
  | c :: rest =>
    if c = 'e' || c = 'E' then do
      let (minus, rest) := readSign rest
      let (digits, rest) ← digits? Char.isDigit rest
      let n : Int := valueInBase 10 digits
      some (if minus then -n else n, rest)
    else none
  | [] => none

/-- Whether `digits * 10 ^ exponent` lies beyond the largest number in binary floating point. -/
def overflows (digits : Text) (exponent : Int) : Bool :=
  let significant := digits.dropWhile (· = '0')
  let magnitude := significant.length + exponent
  if significant.isEmpty || magnitude < 300 then false
  else if 320 < magnitude then true
  else
    let n := valueInBase 10 digits
    (Binary64.ofRatio? (n * tenTo exponent.toNat) (tenTo (-exponent).toNat)).isNone

/-- A number with a fraction or an exponent, where `whole` stands before them. Too large a number is
refused unless it is below zero. -/
def floatAfter (minus : Bool) (whole : Text) (t : Text) : Option (Value × Text) :=
  match fractionPart t, exponentPart t with
  | some (fraction, rest), _ =>
    let (exponent, rest) := (exponentPart rest).getD (0, rest)
    if !minus && overflows (whole ++ fraction) (exponent - fraction.length) then none else some (.float, rest)
  | none, some (exponent, rest) => if !minus && overflows whole exponent then none else some (.float, rest)
  | none, none => none

def decimalNumber (minus : Bool) (t : Text) : Option (Value × Text) :=
  match t with
  | 'i' :: 'n' :: 'f' :: rest => some (.float, rest)
  | 'n' :: 'a' :: 'n' :: rest => some (.float, rest)
  | _ => do
    let (whole, rest) ← wholePart t
    if (fractionPart rest).isSome || (exponentPart rest).isSome then floatAfter minus whole rest
    else
      let n := valueInBase 10 whole
      if n ≤ integerLimit then some (.integer (if minus then -n else n), rest)
      else if minus && n = integerLimit + 1 then some (.integer (-n), rest)
      else none

def readNumber : Text → Option (Value × Text)
  | '0' :: 'x' :: rest => basedInteger 16 rest
  | '0' :: 'o' :: rest => basedInteger 8 rest
  | '0' :: 'b' :: rest => basedInteger 2 rest
  | t => decimalNumber (readSign t).1 (readSign t).2

/-! ## Dates and times -/

def twoDigits (low high : Nat) : Text → Option (Nat × Text)
  | a :: b :: rest =>
    let n := valueInBase 10 [a, b]
    if a.isDigit && b.isDigit && low ≤ n && n ≤ high then some (n, rest) else none
  | _ => none

def afterChar (c : Char) : Text → Option Text
  | d :: rest => if d = c then some rest else none
  | [] => none

def daysIn (year month : Nat) : Nat :=
  if month = 2 then if year % 4 = 0 && (year % 100 ≠ 0 || year % 400 = 0) then 29 else 28
  else if month = 4 || month = 6 || month = 9 || month = 11 then 30
  else 31

def afterDate : Text → Option Text
  | a :: b :: c :: d :: '-' :: rest =>
    if [a, b, c, d].all Char.isDigit then do
      let (month, rest) ← twoDigits 1 12 rest
      let rest ← afterChar '-' rest
      let (_, rest) ← twoDigits 1 (daysIn (valueInBase 10 [a, b, c, d]) month) rest
      some rest
    else none
  | _ => none

/-- The text after a fraction of a second, which may be missing. -/
def afterSecondFraction : Text → Text
  | '.' :: c :: rest => if c.isDigit then rest.dropWhile Char.isDigit else '.' :: c :: rest
  | t => t

def afterTime (t : Text) : Option Text := do
  let (_, rest) ← twoDigits 0 23 t
  let rest ← afterChar ':' rest
  let (_, rest) ← twoDigits 0 59 rest
  let rest ← afterChar ':' rest
  let (_, rest) ← twoDigits 0 60 rest
  some (afterSecondFraction rest)

/-- The text after a distance from universal time, which may be missing. -/
def afterOffset : Text → Text
  | [] => []
  | c :: rest =>
    if c = 'Z' || c = 'z' then rest
    else if c = '+' || c = '-' then
      let offset : Option Text := do
        let (_, rest) ← twoDigits 0 23 rest
        let rest ← afterChar ':' rest
        let (_, rest) ← twoDigits 0 59 rest
        some rest
      offset.getD (c :: rest)
    else c :: rest

def afterDateTime (t : Text) : Option Text :=
  match afterDate t with
  | none => afterTime t
  | some [] => some []
  | some (c :: rest) =>
    if c = 'T' || c = 't' || c = ' ' then some (((afterTime rest).map afterOffset).getD (c :: rest))
    else some (c :: rest)

end FillInStory.Toml
