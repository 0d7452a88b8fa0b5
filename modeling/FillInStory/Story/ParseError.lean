import FillInStory.Text.Basic

/-! # Defects of story templates

Positions are counted in UTF-8 bytes from the start of the template's text.
-/

namespace FillInStory

/-- Why a text is no story template. -/
inductive ParseError where
  /-- A field that closes at this position has a blank name. -/
  | emptyField (close : Nat)
  /-- A closing brace at this position belongs to no field. -/
  | unmatchedClose (close : Nat)
  /-- The field that begins at this position does not end; the rest of the text begins with its brace. -/
  | unterminated (start : Nat) (rest : Text)
  /-- An opening brace stands inside the field that began at `start`. -/
  | nestedField (inner start : Nat)
  /-- A text without fields where fields are required. -/
  | noFields
  deriving DecidableEq, Repr

namespace ParseError

def message : ParseError → Text
  | .emptyField close => "Empty field at offset " ++ Text.decimal close ++ "."
  | .unmatchedClose close => "\x7d with no matching \x7b at offset " ++ Text.decimal close ++ "."
  | .unterminated start rest =>
    "Field began at offset " ++ Text.decimal start ++ " but didn't end: " ++ rest
  | .nestedField inner start =>
    "\x7b at offset " ++ Text.decimal inner ++ " is nested inside the field that began at offset "
      ++ Text.decimal start ++ "."
  | .noFields => "Story template should have at least one field."

end ParseError

end FillInStory
