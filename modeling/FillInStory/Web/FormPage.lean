import FillInStory.Story.Template
import FillInStory.Text.Entity

/-! # The page with the form for a template

The page asks for the values of a template's fields. A hidden input carries the template's number; its
name has braces, so it is never the name of a field.
-/

namespace FillInStory

/-- The name of the hidden input that carries the template's number. -/
def templateParameter : Text := braced "TEMPLATE"

namespace FormPage

def inputLine (input : FormInput) : Text :=
  "<label>" ++ Text.escapeEntities input.label ++ ": <input type=text name=\""
    ++ Text.escapeEntities input.name ++ "\"></label><br>\n"

def render (number : Nat) (template : Template) : Text :=
  "<!DOCTYPE html>\n<title>Story Teller</title>\n<form method=POST>\n<input type=hidden name=\""
    ++ Text.escapeEntities templateParameter ++ "\" value=\"" ++ Text.decimal number ++ "\">\n"
    ++ template.formInputs.flatMap inputLine
    ++ "<button type=submit>Tell me a story!</button></form>\n"

end FormPage

end FillInStory
