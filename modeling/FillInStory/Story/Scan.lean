import FillInStory.Story.Field
import FillInStory.Story.ParseError

/-! # Scanning a story template

A template is read once from left to right, character by character. The scan counts the bytes that it has
read, collects the fields that were closed and remembers the field that is open, if one is. A brace that
does not fit ends the scan with a defect, and so does a name without a visible character.
-/

namespace FillInStory

/-- A field that has begun: where its opening brace stands, and its name so far, read backwards. -/
structure OpenField where
  start : Nat
  reversed : Text
  deriving DecidableEq, Repr

/-- How far the reading of a template has come. -/
structure Scan where
  position : Nat
  fields : FieldSet
  opened : Option OpenField
  deriving DecidableEq, Repr

namespace OpenField

def name (field : OpenField) : Text := field.reversed.reverse

/-- What has been read since the field began, with its brace. -/
def text (field : OpenField) : Text := '{' :: field.name

end OpenField

namespace Scan

def start : Scan := ⟨0, FieldSet.empty, none⟩

def step (scan : Scan) (c : Char) : Except ParseError Scan :=
  match scan.opened with
  | none =>
    if c = '{' then .ok ⟨scan.position + c.utf8Size, scan.fields, some ⟨scan.position, []⟩⟩
    else if c = '}' then .error (.unmatchedClose scan.position)
    else .ok ⟨scan.position + c.utf8Size, scan.fields, none⟩
  | some field =>
    if c = '{' then .error (.nestedField scan.position field.start)
    else if c = '}' then
      if field.name.blank then .error (.emptyField scan.position)
      else .ok ⟨scan.position + c.utf8Size, scan.fields.insert ⟨field.name⟩, none⟩
    else .ok ⟨scan.position + c.utf8Size, scan.fields, some ⟨field.start, c :: field.reversed⟩⟩

def run (scan : Scan) (t : Text) : Except ParseError Scan := t.foldlM step scan

/-- The fields that were closed, unless one is open at the end. -/
def finish (scan : Scan) : Except ParseError FieldSet :=
  match scan.opened with
  | none => .ok scan.fields
  | some field => .error (.unterminated field.start field.text)

end Scan

/-- The fields of a text, or the leftmost defect in it. -/
def FieldSet.parse (t : Text) : Except ParseError FieldSet := (Scan.start.run t).bind Scan.finish

end FillInStory
