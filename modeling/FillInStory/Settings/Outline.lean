import FillInStory.Text.Quoted

/-! # Outlines of settings

The program shows its settings as an outline: named records with named fields, quoted texts and optional
values. An outline is written on one line, or over several lines with every level indented by four spaces.
-/

namespace FillInStory

/-- A value to be shown. -/
inductive Outline where
  | plain (t : Text)
  | absent
  | present (o : Outline)
  | record (name : Text) (fields : List (Text × Outline))

namespace Outline

def text (t : Text) : Outline := .plain (Text.quoted t)

def number (n : Nat) : Outline := .plain (Text.decimal n)

def truth (b : Bool) : Outline := .plain (if b then "true" else "false")

def optional {α : Type} (f : α → Outline) : Option α → Outline
  | none => .absent
  | some a => .present (f a)

def compact : Outline → Text
  | .plain t => t
  | .absent => "None"
  | .present o => "Some(" ++ o.compact ++ ")"
  | .record name fields => name ++ " \x7b " ++ compactFields fields ++ " \x7d"
where
  /-- The fields on one line. -/
  compactFields : List (Text × Outline) → Text
    | [] => []
    | [(name, o)] => name ++ ": " ++ o.compact
    | (name, o) :: rest => name ++ ": " ++ o.compact ++ ", " ++ compactFields rest

/-- The lines of a part, indented, with a label before the first and a comma after the last. -/
def part (label : Text) : List Text → List Text
  | [] => []
  | [line] => ["    ".toList ++ label ++ line ++ [',']]
  | line :: rest => ("    ".toList ++ label ++ line) :: part.others rest
where
  /-- The lines after the first. -/
  others : List Text → List Text
    | [] => []
    | [line] => ["    ".toList ++ line ++ [',']]
    | line :: rest => ("    ".toList ++ line) :: others rest

def lines : Outline → List Text
  | .plain t => [t]
  | .absent => ["None"]
  | .present o => ("Some(" : Text) :: (part [] o.lines ++ [[')']])
  | .record name fields => (name ++ " \x7b" : Text) :: (fieldLines fields ++ [['}']])
where
  /-- The lines of the fields. -/
  fieldLines : List (Text × Outline) → List Text
    | [] => []
    | (name, o) :: rest => part (name ++ ": ") o.lines ++ fieldLines rest

def pretty (o : Outline) : Text := List.intercalate ['\n'] o.lines

end Outline

end FillInStory
