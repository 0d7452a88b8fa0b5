import FillInStory.Json.Value
import FillInStory.Story.Collection

/-! # Calls for a story

A call for a story names a template and gives values for the names of its fields. It comes as a JSON
object, where an empty value is a value, unlike in a form.
-/

namespace FillInStory

/-- A template's number, and values by the names of fields. -/
structure StoryCall where
  number : Nat
  values : Dictionary Text Text

/-- The field map that gives values to fields by their names. -/
def FieldMap.ofNames (values : Dictionary Text Text) : FieldMap where
  entries := values.entries.map fun entry => (braced entry.1, entry.2)
  nodup_keys := by
    have mapped : (values.entries.map fun entry => (braced entry.1, entry.2)).map Prod.fst =
        (values.entries.map Prod.fst).map braced := by simp
    rw [mapped]
    exact List.Pairwise.map braced (fun _ _ differ same => differ (braced_injective same)) values.nodup_keys

namespace StoryCall

def fieldMap (call : StoryCall) : FieldMap := FieldMap.ofNames call.values

/-- The call that a JSON value makes, if it is an object with a natural number and an object of texts,
numbers and truth values, which are taken as their texts. Of members with the same name only the last
counts, whatever the others are. -/
def ofJson? : Json → Option StoryCall
  | .object members => do
    let number ← match ← Json.member? members "template_num" with
      | .number (.natural n) => some n
      | _ => none
    let values ← match ← Json.member? members "values" with
      | .object values => some (Dictionary.ofList values).entries
      | _ => none
    let values ← values.mapM fun (name, value) => (Json.scalarText? value).map (name, ·)
    some ⟨number, Dictionary.ofList values⟩
  | _ => none

/-- What the log says about a call: the number and the names in byte order, but none of the values. -/
def summary (call : StoryCall) : Text :=
  let names := call.values.keys.mergeSort fun m n => FileName.le (Text.utf8 m) (Text.utf8 n)
  "  Request body:\n    template_num: " ++ Text.decimal call.number ++ "\n    values: "
    ++ names.flatMap (fun name => "\n      ".toList ++ name) ++ "\n"

def tell (call : StoryCall) (stories : Collection) : Except StoryError Text :=
  stories.populate call.number call.fieldMap

end StoryCall

end FillInStory
