import FillInStory.Story.Collection
import FillInStory.Text.Blank
import FillInStory.Text.Numeral
import FillInStory.Web.FormPage

/-! # Filled-in forms

The parameters of a filled-in form are read one after another, in whatever order they come: the hidden
input gives the number of a template, and every other input that was not left empty gives a value to the
field with its name in braces. A number that cannot be read ends the reading at once.
-/

namespace FillInStory

def templateNumberLimit : Nat := Nat.pow 2 64 - 1

/-- Reads a template number, which may stand between blanks. -/
def readTemplateNumber (t : Text) : Except NumeralError Nat :=
  Text.readNumeral templateNumberLimit (Text.trim t)

/-- Why the parameters are no filled-in form. -/
inductive FormError where
  | missingTemplate
  | invalidNumber (value : Text)
  deriving DecidableEq, Repr

namespace FormError

def message : FormError → Text
  | .missingTemplate => "Missing " ++ templateParameter ++ " parameter."
  | .invalidNumber value => "Invalid template number: " ++ value

end FormError

/-- The number of a template and the values for its fields. -/
structure FilledForm where
  number : Nat
  fieldMap : FieldMap

/-- What the parameters read so far have given. -/
structure FormReading where
  number : Option Nat
  fieldMap : FieldMap

namespace FormReading

def start : FormReading := ⟨none, Dictionary.empty⟩

def step (reading : FormReading) (parameter : Text × Text) : Except FormError FormReading :=
  let (name, value) := parameter
  if name = templateParameter then
    match readTemplateNumber value with
    | .error _ => .error (.invalidNumber value)
    | .ok number => .ok { reading with number := some number }
  else if value.isEmpty then .ok reading
  else .ok { reading with fieldMap := reading.fieldMap.insert (braced name) value }

def run (reading : FormReading) (parameters : List (Text × Text)) : Except FormError FormReading :=
  parameters.foldlM step reading

def finish (reading : FormReading) : Except FormError FilledForm :=
  match reading.number with
  | none => .error .missingTemplate
  | some number => .ok ⟨number, reading.fieldMap⟩

end FormReading

/-- The form that parameters fill in. -/
def FilledForm.ofParameters (parameters : Dictionary Text Text) : Except FormError FilledForm :=
  (FormReading.start.run parameters.entries).bind FormReading.finish

end FillInStory
