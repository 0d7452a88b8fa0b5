import FillInStory.Proofs.Keys

/-! # Substitution is local

The look ahead for a closing brace may leave the text that an opening brace stands in. It does not where no
opening brace comes after the last closing one: such a text is told by itself, whatever follows. There is no
other way in which one text depends on the next. Behind a brace that is left open there is a text that ends a
key, and the two texts together are told otherwise than each alone.
-/

namespace FillInStory

namespace Text

/-- No opening brace comes after the last closing brace, or there is no opening brace at all. -/
def Settled (t : Text) : Prop :=
  '{' ∉ t ∨ ∃ before after : Text, t = before ++ '}' :: after ∧ '}' ∉ after ∧ '{' ∉ after

/-- A character that occurs has a last occurrence. -/
theorem exists_last_occurrence {c : Char} {t : Text} (member : c ∈ t) :
    ∃ before after : Text, t = before ++ c :: after ∧ c ∉ after := by
  obtain ⟨after, before, split, absent⟩ := List.eq_append_cons_of_mem (List.mem_reverse.mpr member)
  refine ⟨before.reverse, after.reverse, ?_, ?_⟩
  · simpa using congrArg List.reverse split
  · rwa [List.mem_reverse]

theorem closing_cons_iff (c : Char) (t : Text) : Closing (c :: t) ↔ (c = '{' → '}' ∈ t) ∧ t.Closing := by
  constructor
  · intro closing
    refine ⟨?_, closing.tail⟩
    rintro rfl
    exact closing [] t rfl
  · rintro ⟨first, others⟩ before rest same
    cases before with
    | nil =>
      obtain ⟨rfl, rfl⟩ := List.cons.inj same
      exact first rfl
    | cons d before => exact others before rest (List.cons.inj same).2

theorem closing_of_notMem {t : Text} (noOpen : '{' ∉ t) : t.Closing := by
  rintro before rest rfl
  exact absurd (List.mem_append_right before List.mem_cons_self) noOpen

/-- A closing brace closes all that was opened before it. -/
theorem closing_append_cons (s : Text) {t : Text} (noOpen : '{' ∉ t) : Closing (s ++ '}' :: t) := by
  induction s with
  | nil => exact closing_of_notMem (by simpa using noOpen)
  | cons c s ih => exact (closing_cons_iff c _).mpr ⟨fun _ => by simp, ih⟩

/-- A text is settled exactly when each of its opening braces has a closing one behind it. -/
theorem settled_iff_closing (t : Text) : t.Settled ↔ t.Closing := by
  constructor
  · rintro (noOpen | ⟨before, after, rfl, -, noOpen⟩)
    · exact closing_of_notMem noOpen
    · exact closing_append_cons before noOpen
  · intro closing
    by_cases noOpen : '{' ∉ t
    · exact Or.inl noOpen
    · obtain ⟨opened, rest, split⟩ := List.append_of_mem (not_not.mp noOpen)
      have closed : '}' ∈ t := by
        rw [split]
        exact List.mem_append_right opened (List.mem_cons_of_mem _ (closing opened rest split))
      obtain ⟨before, after, rfl, noClose⟩ := exists_last_occurrence closed
      refine Or.inr ⟨before, after, rfl, noClose, ?_⟩
      intro member
      -- an opening brace behind the last closing one would have to be closed there
      obtain ⟨between, tail, rfl⟩ := List.append_of_mem member
      have behind := closing (before ++ '}' :: between) tail (by simp)
      exact noClose (List.mem_append_right between (List.mem_cons_of_mem _ behind))

/-- Where a brace is left open there is a first one that is. -/
theorem exists_first_open {t : Text} (unsettled : ¬ t.Closing) :
    ∃ before rest : Text, t = before ++ '{' :: rest ∧ before.Closing ∧ '}' ∉ rest := by
  induction t with
  | nil => exact absurd (closing_of_notMem List.not_mem_nil) unsettled
  | cons c t ih =>
    rw [closing_cons_iff, not_and_or, Classical.not_imp] at unsettled
    by_cases first : c = '{' ∧ '}' ∉ t
    · obtain ⟨rfl, noClose⟩ := first
      exact ⟨[], t, rfl, closing_of_notMem List.not_mem_nil, noClose⟩
    · obtain ⟨before, rest, rfl, closing, noClose⟩ := ih (unsettled.resolve_left first)
      refine ⟨c :: before, rest, rfl, (closing_cons_iff c before).mpr ⟨?_, closing⟩, noClose⟩
      rintro rfl
      -- what closes the brace stands before the one that is left open
      have closed : '}' ∈ before ++ '{' :: rest := by_contra fun absent => first ⟨rfl, absent⟩
      simpa [noClose] using closed

end Text

namespace FieldMap

/-- Without a closing brace there is nothing to look up. -/
theorem fill_of_unclosed (values : FieldMap) {t : Text} (noClose : '}' ∉ t) : values.fill t = t := by
  have spares : values.Spares t [] := by
    rintro before rest rfl name after - same
    have closed : '}' ∈ rest ++ [] := same ▸ List.mem_append_right name List.mem_cons_self
    rw [List.append_nil] at closed
    exact absurd (List.mem_append_right before (List.mem_cons_of_mem _ closed)) noClose
  simpa using fill_append_of_spares spares

/-- A brace that is left open makes a difference: the text behind it may end a key. -/
theorem exists_fill_append_ne {s : Text} (unsettled : ¬ s.Closing) :
    ∃ (values : FieldMap) (t : Text), values.fill (s ++ t) ≠ values.fill s ++ values.fill t := by
  obtain ⟨before, rest, rfl, closing, noClose⟩ := Text.exists_first_open unsettled
  let values : FieldMap := Dictionary.ofList [(braced rest, [])]
  have found : values.get? (braced rest) = some [] :=
    (Dictionary.get?_eq_some_iff _ _ _).mpr (List.mem_singleton_self _)
  refine ⟨values, ['}'], ?_⟩
  have whole : values.fill (before ++ '{' :: rest ++ ['}']) = values.fill before := by
    have joined : before ++ '{' :: rest ++ ['}'] = before ++ (braced rest ++ []) := by simp [braced]
    rw [joined, fill_append_of_closing values closing, values.fill_braced_append noClose found]
    simp
  have parts : values.fill (before ++ '{' :: rest) = values.fill before ++ '{' :: rest := by
    have unclosed : '}' ∉ '{' :: rest := by simpa using noClose
    rw [fill_append_of_closing values closing, values.fill_of_unclosed unclosed]
  rw [whole, parts]
  simp

/-- A text may be told by itself, whatever the field map and whatever follows it, exactly if it has no opening
brace after its last closing one, or none at all. -/
theorem substitute_append_iff (s : Text) :
    (∀ (values : FieldMap) (t : Text),
      values.substitute (s ++ t) = values.substitute s ++ values.substitute t) ↔ s.Settled := by
  simp only [substitute_eq_fill]
  rw [Text.settled_iff_closing]
  constructor
  · intro apart
    by_contra unsettled
    obtain ⟨values, t, differs⟩ := exists_fill_append_ne unsettled
    exact differs (apart values t)
  · intro closing values t
    exact fill_append_of_closing values closing t

end FieldMap

end FillInStory
