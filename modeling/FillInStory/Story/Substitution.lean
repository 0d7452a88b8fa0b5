import FillInStory.Dictionary
import FillInStory.Story.Field

/-! # Substitution

Values are put into a text for the literals in it that a field map names. The text is read once from left
to right: at each opening brace the shortest stretch up to a closing brace is looked up as a whole, and if
the map does not name it the brace is copied and reading goes on just after it. Values go into the result
as they are and are not read again.
-/

namespace FillInStory

/-- Gives literals of fields their values. -/
abbrev FieldMap := Dictionary Text Text

/-- The shortest literal that an opening brace before `rest` begins, with the text after it. -/
def firstLiteral? (rest : Text) : Option (Text × Text) :=
  match rest.dropWhile (· != '}') with
  | [] => none
  | _ :: after => some (braced (rest.takeWhile (· != '}')), after)

namespace FieldMap

/-- The value of the literal that an opening brace before `rest` begins, with the text after it. -/
def hit? (values : FieldMap) (rest : Text) : Option (Text × Text) :=
  (firstLiteral? rest).bind fun found => (values.get? found.1).map (·, found.2)

theorem length_lt_of_hit? {values : FieldMap} {rest value after : Text}
    (hit : values.hit? rest = some (value, after)) : after.length < rest.length := by
  simp only [hit?, firstLiteral?, Option.bind_eq_some_iff, Option.map_eq_some_iff] at hit
  obtain ⟨⟨literal, tail⟩, found, _, _, same⟩ := hit
  have short := (List.dropWhile_suffix (· != '}') (l := rest)).length_le
  split at found
  · simp at found
  · next dropped =>
    simp only [Option.some.injEq, Prod.mk.injEq] at found same
    rw [dropped, List.length_cons, found.2, same.2] at short
    omega

/-- Puts the values into a text, reading it from left to right. -/
def fill (values : FieldMap) : Text → Text
  | [] => []
  | c :: rest =>
    if c = '{' then
      match _hit : values.hit? rest with
      | some (value, after) => value ++ fill values after
      | none => c :: fill values rest
    else c :: fill values rest
termination_by t => t.length
decreasing_by
  · exact Nat.lt_succ_of_lt (length_lt_of_hit? _hit)
  · exact Nat.lt_succ_self _
  · exact Nat.lt_succ_self _

/-- Puts the values into a text; without values there is nothing to read. -/
def substitute (values : FieldMap) (t : Text) : Text := if values.isEmpty then t else values.fill t

end FieldMap

end FillInStory
