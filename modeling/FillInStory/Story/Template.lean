import FillInStory.Story.Scan
import FillInStory.Story.Substitution

/-! # Story templates

A story template is a text together with the fields that were found in it. Both are fixed when the
template is made, which is possible only from a text that parses.
-/

namespace FillInStory

/-- One input of the form in which a reader fills in a template. -/
structure FormInput where
  label : Text
  name : Text
  deriving DecidableEq, Repr

/-- A text that parses, with its fields. -/
structure Template where
  text : Text
  fields : FieldSet
  parsed : FieldSet.parse text = .ok fields

namespace Template

/-- Makes a template of a text. When fields are required, a text without any is refused. -/
def ofText (requireFields : Bool) (text : Text) : Except ParseError Template :=
  match parsed : FieldSet.parse text with
  | .error e => .error e
  | .ok fields =>
    if requireFields && fields.isEmpty then .error .noFields else .ok ⟨text, fields, parsed⟩

/-- The story, with the values in place of the fields that they name. -/
def populate (template : Template) (values : FieldMap) : Text := values.substitute template.text

/-- One input for each field, labelled and named with the field's name. -/
def formInputs (template : Template) : List FormInput :=
  template.fields.toList.map fun f => ⟨f.name, f.name⟩

end Template

end FillInStory
