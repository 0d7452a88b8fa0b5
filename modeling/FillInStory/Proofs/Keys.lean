import FillInStory.Proofs.Cutting

/-! # Which keys count

A key that is not an opening brace, a name without a closing brace and a closing brace is never looked up.
Of the other keys those with an opening brace in the name are nested in a way that no field of a template
is, and yet they are found in a text. They do no harm only where their value is what the other keys make
of them. A key that is its own value changes nothing wherever it is found.
-/

namespace FillInStory

/-- A name without braces, between braces. -/
def Text.Bracketed (k : Text) : Prop := ∃ name : Text, ('{' ∉ name ∧ '}' ∉ name) ∧ k = braced name

instance (k : Text) : Decidable k.Bracketed :=
  decidable_of_iff (('{' ∉ k.tail.dropLast ∧ '}' ∉ k.tail.dropLast) ∧ k = braced k.tail.dropLast)
    (exists_braced_iff (fun name => '{' ∉ name ∧ '}' ∉ name) k).symm

/-- Every opening brace has a closing brace behind it. -/
def Text.Closing (t : Text) : Prop := ∀ before rest : Text, t = before ++ '{' :: rest → '}' ∈ rest

theorem Text.Closing.tail {c : Char} {t : Text} (closing : Text.Closing (c :: t)) : t.Closing :=
  fun before rest same => closing (c :: before) rest (congrArg (c :: ·) same)

theorem Text.Closing.of_append {s t : Text} (closing : Text.Closing (s ++ t)) : t.Closing :=
  fun before rest same => closing (s ++ before) rest (by rw [same, List.append_assoc])

theorem closing_braced (name : Text) : (braced name).Closing := by
  intro before rest same
  rcases List.eq_nil_or_concat' rest with rfl | ⟨others, c, rfl⟩
  · have ends : ('{' :: name) ++ ['}'] = before ++ ['{'] := same
    simpa using List.append_inj_right' ends rfl
  · have ends : ('{' :: name) ++ ['}'] = (before ++ '{' :: others) ++ [c] := by simpa [braced] using same
    exact List.mem_append_right others (List.append_inj_right' ends rfl ▸ List.mem_singleton_self _)

namespace FieldMap

variable (values : FieldMap)

/-- The values for keys that end with their first closing brace. -/
def delimited : FieldMap := values.filter fun k _ => decide k.Delimited

/-- The values for names without braces between braces. -/
def bracketed : FieldMap := values.filter fun k _ => decide k.Bracketed

/-- The name with an opening brace of a key whose value is not what the bracketed keys make of the key. -/
def Intrudes (name : Text) : Prop :=
  '{' ∈ name ∧ '}' ∉ name ∧
    ∃ value, values.get? (braced name) = some value ∧ value ≠ values.bracketed.substitute (braced name)

theorem get?_delimited {name : Text} (noClose : '}' ∉ name) :
    values.delimited.get? (braced name) = values.get? (braced name) :=
  (values.get?_filter_keys _ _).trans (if_pos ⟨name, noClose, rfl⟩)

theorem get?_bracketed {name : Text} (noOpen : '{' ∉ name) (noClose : '}' ∉ name) :
    values.bracketed.get? (braced name) = values.get? (braced name) :=
  (values.get?_filter_keys _ _).trans (if_pos ⟨name, ⟨noOpen, noClose⟩, rfl⟩)

/-- Behind a text in which every opening brace is closed the substitution begins anew. -/
theorem fill_append_of_closing {s : Text} (closing : s.Closing) (t : Text) :
    values.fill (s ++ t) = values.fill s ++ values.fill t := by
  fun_induction fill values s with
  | case1 => rfl
  | case2 rest value after hit ih =>
    obtain ⟨name, noClose, rfl, found⟩ := (values.hit?_eq_some_iff rest value after).mp hit
    have longer : values.hit? (name ++ '}' :: after ++ t) = some (value, after ++ t) :=
      (values.hit?_eq_some_iff ..).mpr ⟨name, noClose, by simp, found⟩
    have later : Text.Closing after := closing.tail.of_append.tail
    rw [List.cons_append, fill_of_hit values longer, ih later, List.append_assoc]
  | case3 rest miss ih =>
    -- the closing brace that the look ahead finds is there already without what is appended
    obtain ⟨name, after, rfl, noClose⟩ := List.eq_append_cons_of_mem (closing [] rest rfl)
    have longer : values.hit? (name ++ '}' :: after ++ t) = none := by
      rw [hit?_name values noClose, Option.map_eq_none_iff] at miss
      rw [List.append_assoc, List.cons_append, hit?_name values noClose, miss, Option.map_none]
    rw [List.cons_append, fill_of_miss values longer, ih closing.tail, List.cons_append]
  | case4 c rest other ih =>
    rw [List.cons_append, fill_cons_of_ne values other, ih closing.tail, List.cons_append]

/-- Where no intruding key occurs only the bracketed keys count. -/
theorem fill_eq_fill_bracketed {t : Text} (clean : ∀ name, values.Intrudes name → ¬ braced name <:+: t) :
    values.fill t = values.bracketed.fill t := by
  fun_induction fill values t with
  | case1 => rw [fill_nil]
  | case2 rest value after hit ih =>
    obtain ⟨name, noClose, rfl, found⟩ := (values.hit?_eq_some_iff rest value after).mp hit
    have spread : '{' :: (name ++ '}' :: after) = braced name ++ after := by simp [braced]
    have later : values.fill after = values.bracketed.fill after := by
      apply ih
      intro other intrudes occurs
      apply clean other intrudes
      rw [spread]
      exact occurs.trans (List.suffix_append (braced name) after).isInfix
    by_cases nested : '{' ∈ name
    · -- the key does not intrude, so the bracketed keys make of it the value that it has
      have told : value = values.bracketed.substitute (braced name) := by
        by_contra differs
        apply clean name ⟨nested, noClose, value, found, differs⟩
        rw [spread]
        exact (List.prefix_append (braced name) after).isInfix
      rw [spread, fill_append_of_closing _ (closing_braced name), told, substitute_eq_fill, later]
    · have same := (values.get?_bracketed nested noClose).trans found
      rw [spread, fill_braced_append _ noClose same, later]
  | case3 rest miss ih =>
    have missed : values.bracketed.hit? rest = none := by
      rw [hit?_eq_none_iff] at miss ⊢
      intro name after noClose same known
      exact miss name after noClose same (values.keys_filter_subset _ known)
    have later : ∀ name, values.Intrudes name → ¬ braced name <:+: rest :=
      fun name intrudes occurs => clean name intrudes (List.infix_cons occurs)
    rw [fill_of_miss _ missed, ih later]
  | case4 c rest other ih =>
    have later : ∀ name, values.Intrudes name → ¬ braced name <:+: rest :=
      fun name intrudes occurs => clean name intrudes (List.infix_cons occurs)
    rw [fill_cons_of_ne _ other, ih later]

/-- No key counts that does not end with its first closing brace. Of the others those with an opening brace
in the name count as well: a text in which an intruding key occurs may be told otherwise than by the
bracketed keys alone, as the key itself is, and every other text is told by these. -/
theorem substitute_bracketed :
    (∀ t, values.substitute t = values.delimited.substitute t) ∧
      (∀ t, (∀ name, values.Intrudes name → ¬ braced name <:+: t) →
        values.substitute t = values.bracketed.substitute t) ∧
      ∀ name, values.Intrudes name →
        values.substitute (braced name) ≠ values.bracketed.substitute (braced name) := by
  refine ⟨?_, ?_, ?_⟩
  · intro t
    rw [substitute_eq_fill, substitute_eq_fill]
    apply fill_congr_of_names
    intro name noClose
    exact (values.get?_delimited noClose).symm
  · intro t clean
    rw [substitute_eq_fill, substitute_eq_fill, values.fill_eq_fill_bracketed clean]
  · rintro name ⟨-, noClose, value, found, differs⟩
    have whole := values.fill_braced_append noClose found []
    rw [List.append_nil, fill_nil, List.append_nil] at whole
    rwa [values.substitute_eq_fill, whole]

/-- A key with an opening brace inside, and the key that stands at its end. -/
def nested : FieldMap := Dictionary.ofList [("\x7ba{b}", "whole"), ("{b}", "bee")]

/-- A key with an opening brace inside is found, and hides the bracketed key at its end. -/
theorem substitute_ne_bracketed_nested :
    nested.bracketed.entries = [("{b}".toList, "bee".toList)] ∧
      nested.substitute "\x7ba{b}" = "whole".toList ∧ nested.bracketed.substitute "\x7ba{b}" = "\x7babee".toList ∧
        ¬ ∀ (values : FieldMap) (t : Text), values.substitute t = values.bracketed.substitute t := by
  have kept : nested.bracketed.entries = [("{b}".toList, "bee".toList)] := by decide
  have hidden : nested.substitute "\x7ba{b}" = "whole".toList := by decide +kernel
  have shown : nested.bracketed.substitute "\x7ba{b}" = "\x7babee".toList := by decide +kernel
  refine ⟨kept, hidden, shown, ?_⟩
  intro agree
  exact absurd (hidden.symm.trans ((agree nested "\x7ba{b}").trans shown)) (by decide)

/-- A map whose keys are their own values where they occur in a text leaves the text as it is, and to read a text
without any values is no different from not reading it. Nothing but the keys that end with their first closing brace
matters: a text and all of its parts are left as they are exactly if each of these keys that occurs in the text is
its own value. -/
theorem substitute_neutral (t : Text) :
    ((∀ k value, values.get? k = some value → value = k ∨ ¬ k <:+: t) →
        values.substitute t = t ∧ values.fill t = t) ∧
      (values.isEmpty → values.substitute t = t ∧ values.fill t = values.substitute t) ∧
      ((∀ part, part <:+: t → values.substitute part = part) ↔
        ∀ k value : Text, k.Delimited → k <:+: t → values.get? k = some value → value = k) := by
  refine ⟨fun own => ?_, fun empty => ?_, fun same => ?_, fun own part within => ?_⟩
  · have neutral : values.Neutral t := fun name value _ occurs found =>
      (own _ value found).resolve_right (not_not_intro occurs)
    exact ⟨(values.substitute_eq_fill t).trans neutral.fill_eq, neutral.fill_eq⟩
  · exact ⟨if_pos empty, (values.substitute_eq_fill t).symm⟩
  · rintro k value ⟨name, noClose, rfl⟩ occurs found
    -- the key is a part of the text that is replaced as a whole
    have whole := values.fill_braced_append noClose found []
    rw [List.append_nil, fill_nil, List.append_nil, ← substitute_eq_fill, same _ occurs] at whole
    exact whole.symm
  · have neutral : values.Neutral t := fun name value noClose => own _ value ⟨name, noClose, rfl⟩
    exact (values.substitute_eq_fill part).trans (neutral.of_infix within).fill_eq

/-- A key that is its own value, and one with another value. -/
def mirror : FieldMap := Dictionary.ofList [("{a}", "{a}"), ("{c}", "x")]

/-- Where only the first key occurs nothing changes, whether the braces of the text match or not. -/
theorem substitute_neutral_mirror :
    (∀ k value, mirror.get? k = some value → value = k ∨ ¬ k <:+: "\x7b{a} {c {b}}".toList) ∧
      mirror.substitute "\x7b{a} {c {b}}" = "\x7b{a} {c {b}}".toList := by
  have own : ∀ k value, mirror.get? k = some value → value = k ∨ ¬ k <:+: "\x7b{a} {c {b}}".toList := by
    intro k value found
    have each : ∀ entry ∈ mirror.entries, entry.2 = entry.1 ∨ ¬ entry.1 <:+: "\x7b{a} {c {b}}".toList := by
      decide +kernel
    exact each (k, value) ((mirror.get?_eq_some_iff k value).mp found)
  exact ⟨own, ((substitute_neutral mirror _).1 own).1⟩

end FieldMap

end FillInStory
