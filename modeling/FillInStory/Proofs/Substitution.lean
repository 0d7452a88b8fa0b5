import FillInStory.Proofs.Scan
import FillInStory.Story.Template
import Mathlib.Data.List.TakeWhile

/-! # What substitution does to a template

The scan and the substitution read a text independently of each other: the one keeps a state, the other
looks ahead to the next closing brace and goes back after a miss. On a text that is spelled by segments they
agree about where the fields are, whatever keys and values the field map has, so a story is the template
with each segment told by itself.
-/

namespace FillInStory

/-- A segment with the value of its field put in, where the field has one. -/
def Segment.filledBy (value : Field → Option Text) : Segment → Text
  | .plain c => [c]
  | .field f => (value f).getD f.literal

/-- Only the values of the fields that occur matter. -/
theorem Segment.flatMap_filledBy_congr {segments : List Segment} {v w : Field → Option Text}
    (same : ∀ f ∈ fields segments, v f = w f) :
    segments.flatMap (filledBy v) = segments.flatMap (filledBy w) := by
  apply List.flatMap_congr
  intro s member
  cases s with
  | plain c => rfl
  | field f => simp only [filledBy, same f (mem_fields.mpr member)]

/-- A name without a closing brace is all that the look ahead finds before the first one. -/
theorem firstLiteral?_name {name : Text} (noClose : '}' ∉ name) (rest : Text) :
    firstLiteral? (name ++ '}' :: rest) = some (braced name, rest) := by
  have letters : ∀ c ∈ name, (c != '}') = true := by
    intro c member
    simpa using fun same : c = '}' => noClose (same ▸ member)
  have dropped : (name ++ '}' :: rest).dropWhile (· != '}') = '}' :: rest := by
    rw [List.dropWhile_append_of_pos letters]
    rfl
  have taken : (name ++ '}' :: rest).takeWhile (· != '}') = name := by
    rw [List.takeWhile_append_of_pos letters]
    simp
  simp only [firstLiteral?, dropped, taken]

/-- The look ahead takes everything up to the first closing brace. -/
theorem firstLiteral?_eq_some_iff (rest literal after : Text) :
    firstLiteral? rest = some (literal, after) ↔
      ∃ name, '}' ∉ name ∧ rest = name ++ '}' :: after ∧ literal = braced name := by
  constructor
  · intro found
    by_cases closing : '}' ∈ rest
    · obtain ⟨name, tail, rfl, noClose⟩ := List.eq_append_cons_of_mem closing
      rw [firstLiteral?_name noClose] at found
      cases found
      exact ⟨name, noClose, rfl, rfl⟩
    · have dropped : rest.dropWhile (· != '}') = [] :=
        List.dropWhile_eq_nil_iff.mpr fun c member => bne_iff_ne.mpr fun same => closing (same ▸ member)
      simp [firstLiteral?, dropped] at found
  · rintro ⟨name, noClose, rfl, rfl⟩
    exact firstLiteral?_name noClose after

namespace FieldMap

variable (values : FieldMap)

@[simp] theorem fill_nil : values.fill [] = [] := by rw [fill]

theorem fill_cons_of_ne {c : Char} (other : c ≠ '{') (rest : Text) :
    values.fill (c :: rest) = c :: values.fill rest := by
  rw [fill, if_neg other]

theorem fill_of_hit {rest value after : Text} (hit : values.hit? rest = some (value, after)) :
    values.fill ('{' :: rest) = value ++ values.fill after := by
  rw [fill, if_pos rfl]
  split
  · next found =>
    obtain ⟨rfl, rfl⟩ : _ = value ∧ _ = after := by simpa using found.symm.trans hit
    rfl
  · next missed => simp [hit] at missed

theorem fill_of_miss {rest : Text} (miss : values.hit? rest = none) :
    values.fill ('{' :: rest) = '{' :: values.fill rest := by
  rw [fill, if_pos rfl]
  split
  · next found => simp [miss] at found
  · rfl

/-- Without an opening brace there is nothing to look up. -/
theorem fill_append_of_notMem {s : Text} (noOpen : '{' ∉ s) (rest : Text) :
    values.fill (s ++ rest) = s ++ values.fill rest := by
  induction s with
  | nil => rfl
  | cons c s ih =>
    simp only [List.mem_cons, not_or] at noOpen
    rw [List.cons_append, fill_cons_of_ne values (Ne.symm noOpen.1), ih noOpen.2, List.cons_append]

theorem hit?_name {name : Text} (noClose : '}' ∉ name) (rest : Text) :
    values.hit? (name ++ '}' :: rest) = (values.get? (braced name)).map (·, rest) := by
  rw [hit?, firstLiteral?_name noClose]
  rfl

/-- A hit is a key up to the first closing brace. -/
theorem hit?_eq_some_iff (rest value after : Text) :
    values.hit? rest = some (value, after) ↔
      ∃ name, '}' ∉ name ∧ rest = name ++ '}' :: after ∧ values.get? (braced name) = some value := by
  simp only [hit?, Option.bind_eq_some_iff, Option.map_eq_some_iff, Prod.exists, firstLiteral?_eq_some_iff,
    Prod.mk.injEq]
  constructor
  · rintro ⟨_, _, ⟨name, noClose, rfl, rfl⟩, _, found, rfl, rfl⟩
    exact ⟨name, noClose, rfl, found⟩
  · rintro ⟨name, noClose, rfl, found⟩
    exact ⟨_, _, ⟨name, noClose, rfl, rfl⟩, _, found, rfl, rfl⟩

/-- A key at the head of a text is replaced as a whole. -/
theorem fill_braced_append {name value : Text} (noClose : '}' ∉ name)
    (found : values.get? (braced name) = some value) (rest : Text) :
    values.fill (braced name ++ rest) = value ++ values.fill rest := by
  have spread : braced name ++ rest = '{' :: (name ++ '}' :: rest) := by simp [braced]
  have hit := (values.hit?_eq_some_iff _ value rest).mpr ⟨name, noClose, rfl, found⟩
  rw [spread, fill_of_hit values hit]

/-- One segment at the head of a text is told by itself, whatever follows. On a miss the substitution goes
back into the field, but finds no opening brace there. -/
theorem fill_literal_append {s : Segment} (proper : s.Proper) (rest : Text) :
    values.fill (s.literal ++ rest) =
      s.filledBy (fun f => values.get? f.literal) ++ values.fill rest := by
  cases s with
  | plain c => exact fill_cons_of_ne values proper.1 rest
  | field f =>
    obtain ⟨noOpen, noClose, -⟩ := proper
    cases found : values.get? f.literal with
    | some value =>
      have told : (Segment.field f).filledBy (fun f => values.get? f.literal) = value := by
        simp [Segment.filledBy, found]
      rw [told]
      exact values.fill_braced_append noClose found rest
    | none =>
      have spread : (Segment.field f).literal ++ rest = '{' :: (f.name ++ '}' :: rest) := by
        simp [Segment.literal, Field.literal, braced]
      have miss : values.hit? (f.name ++ '}' :: rest) = none := by
        rw [hit?_name values noClose, ← Field.literal, found]
        rfl
      have told : (Segment.field f).filledBy (fun f => values.get? f.literal) = f.literal := by
        simp [Segment.filledBy, found]
      rw [spread, fill_of_miss values miss, fill_append_of_notMem values noOpen,
        fill_cons_of_ne values (by decide), told]
      simp [Field.literal, braced]

/-- The segments of a text are told one by one. -/
theorem fill_write {segments : List Segment} (proper : ∀ s ∈ segments, s.Proper) :
    values.fill (Segment.write segments) =
      segments.flatMap (Segment.filledBy fun f => values.get? f.literal) := by
  induction segments with
  | nil => exact fill_nil values
  | cons s rest ih =>
    rw [Segment.write_cons, fill_literal_append values (proper s (List.mem_cons_self ..)),
      ih fun x member => proper x (List.mem_cons_of_mem _ member), List.flatMap_cons]

/-- No key that can be found in a text has another value than itself. -/
def Neutral (values : FieldMap) (t : Text) : Prop :=
  ∀ name value, '}' ∉ name → braced name <:+: t → values.get? (braced name) = some value → value = braced name

theorem Neutral.of_infix {values : FieldMap} {part t : Text} (neutral : values.Neutral t) (within : part <:+: t) :
    values.Neutral part :=
  fun name value noClose occurs => neutral name value noClose (occurs.trans within)

/-- A hit puts back what it has taken out, so the text is copied. -/
theorem Neutral.fill_eq {values : FieldMap} {t : Text} (neutral : values.Neutral t) : values.fill t = t := by
  fun_induction fill values t with
  | case1 => rfl
  | case2 rest value after hit ih =>
    obtain ⟨name, noClose, rfl, found⟩ := (values.hit?_eq_some_iff rest value after).mp hit
    have spread : '{' :: (name ++ '}' :: after) = braced name ++ after := by simp [braced]
    rw [spread] at neutral ⊢
    have same := neutral name value noClose (List.prefix_append _ after).isInfix found
    rw [same, ih (neutral.of_infix (List.suffix_append _ after).isInfix)]
  | case3 rest miss ih => rw [ih (neutral.of_infix (List.suffix_cons _ rest).isInfix)]
  | case4 c rest other ih => rw [ih (neutral.of_infix (List.suffix_cons c rest).isInfix)]

/-- Without values the text is copied. -/
theorem fill_of_isEmpty (empty : values.isEmpty) (t : Text) : values.fill t = t := by
  have neutral : values.Neutral t := fun name value _ _ found => by
    simp [Dictionary.get?, List.isEmpty_iff.mp empty, Dictionary.find?] at found
  exact neutral.fill_eq

/-- The short way for a map without values changes nothing. -/
theorem substitute_eq_fill (t : Text) : values.substitute t = values.fill t := by
  unfold substitute
  split
  · next empty => exact (fill_of_isEmpty values empty t).symm
  · rfl

/-- Only the values of names without a closing brace can matter, for no other key is ever looked up. -/
theorem fill_congr_of_names {m n : FieldMap}
    (same : ∀ name, '}' ∉ name → m.get? (braced name) = n.get? (braced name)) (t : Text) : m.fill t = n.fill t := by
  have hits (rest : Text) : m.hit? rest = n.hit? rest := by
    apply Option.ext
    rintro ⟨value, after⟩
    rw [hit?_eq_some_iff, hit?_eq_some_iff]
    exact exists_congr fun name => and_congr_right fun noClose => by rw [same name noClose]
  fun_induction fill m t with
  | case1 => exact (fill_nil n).symm
  | case2 rest value after hit ih => rw [ih, fill_of_hit n ((hits rest).symm.trans hit)]
  | case3 rest miss ih => rw [ih, fill_of_miss n ((hits rest).symm.trans miss)]
  | case4 c rest other ih => rw [ih, fill_cons_of_ne n other]

/-- Only the look-ups of a field map matter, not the order of its entries. -/
theorem fill_congr {m n : FieldMap} (same : ∀ k, m.get? k = n.get? k) (t : Text) : m.fill t = n.fill t :=
  fill_congr_of_names (fun name _ => same (braced name)) t

theorem substitute_congr {m n : FieldMap} (same : ∀ k, m.get? k = n.get? k) (t : Text) :
    m.substitute t = n.substitute t := by
  rw [substitute_eq_fill, substitute_eq_fill, fill_congr same]

theorem substitute_of_spells {segments : List Segment} {t : Text} (spelled : Segment.Spells segments t) :
    values.substitute t = segments.flatMap (Segment.filledBy fun f => values.get? f.literal) := by
  rw [substitute_eq_fill, ← spelled.written, fill_write values spelled.proper]

end FieldMap

namespace Template

theorem text_of_ofText {requireFields : Bool} {t : Text} {template : Template}
    (made : ofText requireFields t = .ok template) : template.text = t := by
  unfold ofText at made
  split at made
  · contradiction
  · split_ifs at made
    cases made
    rfl

/-- The fields of a template are those of its segments. -/
theorem mem_fields_iff (template : Template) {segments : List Segment}
    (spelled : Segment.Spells segments template.text) (f : Field) :
    f ∈ template.fields.toList ↔ f ∈ Segment.fields segments := by
  obtain ⟨others, spelledToo, same⟩ := (FieldSet.parse_eq_ok_iff _ _).mp template.parsed
  obtain rfl := spelledToo.unique spelled
  rw [same]
  exact (FieldSet.firstOccurrences_ofList _).mem_iff f

theorem proper_of_mem_fields (template : Template) {f : Field} (member : f ∈ template.fields.toList) :
    f.Proper := by
  obtain ⟨segments, spelled, -⟩ := (FieldSet.parse_eq_ok_iff _ _).mp template.parsed
  rw [template.mem_fields_iff spelled, Segment.mem_fields] at member
  exact spelled.proper _ member

/-- A template's text has exactly one spelling. -/
theorem exists_spelling (template : Template) :
    ∃ segments, ∀ others, Segment.Spells others template.text ↔ others = segments := by
  obtain ⟨segments, spelled, -⟩ := (FieldSet.parse_eq_ok_iff _ _).mp template.parsed
  refine ⟨segments, fun others => ⟨fun also => also.unique spelled, ?_⟩⟩
  rintro rfl
  exact spelled

/-- The story of a template is its text with every field that the map names replaced by its value, as it
is, and every other segment unchanged. -/
theorem populate_eq_filled {requireFields : Bool} {t : Text} {template : Template}
    (made : ofText requireFields t = .ok template) (values : FieldMap) :
    ∃ segments, (∀ others, Segment.Spells others t ↔ others = segments) ∧
      template.populate values = segments.flatMap (Segment.filledBy fun f => values.get? f.literal) := by
  obtain ⟨segments, spelling⟩ := template.exists_spelling
  have spelled := (spelling segments).mpr rfl
  rw [← text_of_ofText made]
  exact ⟨segments, spelling, values.substitute_of_spells spelled⟩

/-- A value that looks like a field is not filled in again, and an empty value leaves nothing. -/
theorem populate_eq_filled_adjacent :
    ∃ template, ofText true "{a} {b}{a}" = .ok template ∧
      template.populate (Dictionary.ofList [("{a}", "{b}"), ("{b}", ""), ("a", "x")]) = "{b} {b}".toList := by
  let values : FieldMap := Dictionary.ofList [("{a}", "{b}"), ("{b}", ""), ("a", "x")]
  have made : ofText true "{a} {b}{a}" =
      .ok ⟨"{a} {b}{a}", ⟨[⟨"a"⟩, ⟨"b"⟩], by decide⟩, by decide⟩ := rfl
  obtain ⟨segments, spelling, story⟩ := populate_eq_filled made values
  have same : ([.field ⟨"a"⟩, .plain ' ', .field ⟨"b"⟩, .field ⟨"a"⟩] : List Segment) = segments :=
    (spelling _).mp (by decide)
  refine ⟨_, made, story.trans ?_⟩
  rw [← same]
  decide

end Template

end FillInStory
