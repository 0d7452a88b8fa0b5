import FillInStory.Number.Shortest

/-! # JSON values -/

namespace FillInStory

/-- A number in a JSON text: a natural number or a negative integer of 64 bits, or any other number in
binary floating point. -/
inductive JsonNumber where
  | natural (n : Nat)
  /-- The integer below zero at this distance from it. -/
  | negative (n : Nat)
  | float (minus : Bool) (magnitude : Binary64)
  deriving DecidableEq, Repr

namespace JsonNumber

def text : JsonNumber → Text
  | .natural n => Text.decimal n
  | .negative n => '-' :: Text.decimal n
  | .float minus magnitude => (if minus then ['-'] else []) ++ magnitude.text

end JsonNumber

/-- A JSON value. Objects keep all their members in the order in which they are written. -/
inductive Json where
  | null
  | bool (b : Bool)
  | number (n : JsonNumber)
  | string (t : Text)
  | array (items : List Json)
  | object (members : List (Text × Json))
  deriving Repr

namespace Json

/-- The text of a string, number or truth value, as a single value is taken to be. -/
def scalarText? : Json → Option Text
  | .string t => some t
  | .number n => some n.text
  | .bool true => some "true"
  | .bool false => some "false"
  | _ => none

/-- The value of the last member with a name. -/
def member? (members : List (Text × Json)) (name : Text) : Option Json :=
  (members.reverse.find? fun m => m.1 = name).map Prod.snd

end Json

end FillInStory
