import FillInStory.Text.Basic

/-! # Entities in markup

Text is put into markup with entities for the characters that markup could take for its own.
-/

namespace FillInStory.Text

/-- A character as it is written in markup. -/
def entity (c : Char) : Text :=
  match c with
  | '&' => "&amp;"
  | '<' => "&lt;"
  | '>' => "&gt;"
  | '"' => "&quot;"
  | '\'' => "&#x27;"
  | '/' => "&#x2F;"
  | _ => [c]

def escapeEntities (t : Text) : Text := t.flatMap entity

end FillInStory.Text
