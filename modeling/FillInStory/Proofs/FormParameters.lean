import FillInStory.Proofs.FilledForm

/-! # How the parameters of a form are split

The parameters of a form come in some order that nobody has chosen. What the form says can be read off the
parameters without one: a template number is wanted, it must stand for a number of 64 bits, and every other
parameter that was answered gives its value to the field with its name in braces. The main statement says this
of the loop over the parameters, whatever their order, with the messages for the two ways to fail.
-/

namespace FillInStory

theorem readTemplateNumber_eq_ok_iff (t : Text) (n : Nat) :
    readTemplateNumber t = .ok n ↔ n < UInt64.size ∧ t.StandsFor n := by
  have limit : n ≤ templateNumberLimit ↔ n < UInt64.size := Nat.le_sub_one_iff_lt (by decide)
  rw [readTemplateNumber, Text.readNumeral_trim_eq_ok_iff, limit, and_comm]

namespace FormError

/-- The two ways to fail are told apart by what they say. -/
theorem message_injective : Function.Injective message := by
  intro first second same
  cases first with
  | missingTemplate =>
    cases second with
    | missingTemplate => rfl
    | invalidNumber value => cases same
  | invalidNumber value =>
    cases second with
    | missingTemplate => cases same
    | invalidNumber other => exact congrArg invalidNumber (List.append_cancel_left same)

theorem mapError_message_iff {α : Type} (outcome : Except FormError α) (e : FormError) :
    outcome.mapError message = .error e.message ↔ outcome = .error e := by
  cases outcome with
  | ok a => simp [Except.mapError]
  | error d => simp [Except.mapError, message_injective.eq_iff]

end FormError

/-- The parameters that give values to fields: those that have one, but for the template's number. -/
theorem entries_answered_otherParameters (parameters : Dictionary Text Text) :
    (answered (otherParameters parameters)).entries =
      parameters.entries.filter fun p => p.1 ≠ templateParameter ∧ p.2 ≠ [] := by
  simp only [answered, otherParameters, Dictionary.filter, List.filter_filter]
  refine List.filter_congr fun p _ => ?_
  rw [Bool.eq_iff_iff]
  simp [and_comm]

/-- No two parameters share a key. -/
theorem FieldMap.length_keys_ofNames_answered (parameters : Dictionary Text Text) :
    (Dictionary.keys (FieldMap.ofNames (answered (otherParameters parameters)))).length =
      (parameters.entries.filter fun p => p.1 ≠ templateParameter ∧ p.2 ≠ []).length := by
  rw [← entries_answered_otherParameters]
  simp [Dictionary.keys, FieldMap.ofNames]

namespace FilledForm

variable {order parameters : Dictionary Text Text}

theorem ofParameters_eq_missing_iff (parameters : Dictionary Text Text) :
    ofParameters parameters = .error .missingTemplate ↔ templateParameter ∉ parameters.keys := by
  rw [← Dictionary.get?_eq_none_iff, ofParameters_eq]
  cases parameters.get? templateParameter with
  | none => simp
  | some raw => cases read : readTemplateNumber raw <;> simp [read]

theorem ofParameters_eq_invalid_iff (parameters : Dictionary Text Text) (raw : Text) :
    ofParameters parameters = .error (.invalidNumber raw) ↔
      parameters.get? templateParameter = some raw ∧ ¬ ∃ n < UInt64.size, raw.StandsFor n := by
  have unread (t : Text) : (¬ ∃ n < UInt64.size, t.StandsFor n) ↔ ∀ n, readTemplateNumber t ≠ .ok n := by
    simp [readTemplateNumber_eq_ok_iff]
  rw [ofParameters_eq, unread]
  cases parameters.get? templateParameter with
  | none => simp
  | some other =>
    cases read : readTemplateNumber other with
    | error e =>
      simp only [read, Except.error.injEq, FormError.invalidNumber.injEq, Option.some.injEq, iff_self_and]
      rintro rfl n success
      cases read.symm.trans success
    | ok n =>
      simp only [read, reduceCtorEq, Option.some.injEq, false_iff, not_and, not_forall, not_not]
      rintro rfl
      exact ⟨n, read⟩

theorem ofParameters_eq_ok_iff (parameters : Dictionary Text Text) (form : FilledForm) :
    ofParameters parameters = .ok form ↔
      (form.number < UInt64.size ∧
        ∃ raw, parameters.get? templateParameter = some raw ∧ raw.StandsFor form.number) ∧
      form.fieldMap = FieldMap.ofNames (answered (otherParameters parameters)) := by
  obtain ⟨number, fieldMap⟩ := form
  rw [ofParameters_eq]
  cases parameters.get? templateParameter with
  | none => simp
  | some raw =>
    simp only [Option.some.injEq, exists_eq_left', ← readTemplateNumber_eq_ok_iff]
    cases read : readTemplateNumber raw with
    | error e => simp
    | ok n => simp [eq_comm]

/-- The form that parameters fill in, in whatever order they come. Without a template number, or with a value
for it that does not stand for a number of 64 bits, there is none, and the message says so. Otherwise it has
that number, and a field map that gives the names in braces of all other parameters their values, so far as
these are not empty, and has no other keys. No two parameters share a key, so that there are as many keys as
such parameters. Every number is read back from its decimal digits. -/
theorem ofParameters_splits (same : order.entries.Perm parameters.entries) :
    ((ofParameters order).mapError FormError.message = .error "Missing {TEMPLATE} parameter." ↔
      templateParameter ∉ parameters.keys) ∧
    (∀ raw, (ofParameters order).mapError FormError.message = .error ("Invalid template number: ".toList ++ raw) ↔
      parameters.get? templateParameter = some raw ∧ ¬ ∃ n < UInt64.size, raw.StandsFor n) ∧
    (∀ n, (∃ fieldMap, ofParameters order = .ok ⟨n, fieldMap⟩) ↔
      n < UInt64.size ∧ ∃ raw, parameters.get? templateParameter = some raw ∧ raw.StandsFor n) ∧
    (∀ n fieldMap, ofParameters order = .ok ⟨n, fieldMap⟩ →
      (∀ k v, fieldMap.get? k = some v ↔ ∃ name, k = braced name ∧ name ≠ templateParameter ∧
        parameters.get? name = some v ∧ v ≠ []) ∧
      fieldMap.keys.length =
        (parameters.entries.filter fun p => p.1 ≠ templateParameter ∧ p.2 ≠ []).length) ∧
    ∀ n < UInt64.size, parameters.get? templateParameter = some (Text.decimal n) →
      ∃ fieldMap, ofParameters order = .ok ⟨n, fieldMap⟩ := by
  have look : order.get? templateParameter = parameters.get? templateParameter :=
    Dictionary.get?_eq_of_perm same templateParameter
  refine ⟨?_, ?_, ?_, ?_, ?_⟩
  · exact (FormError.mapError_message_iff _ .missingTemplate).trans
      ((ofParameters_eq_missing_iff order).trans (not_congr (same.map Prod.fst).mem_iff))
  · intro raw
    have invalid := ofParameters_eq_invalid_iff order raw
    rw [look] at invalid
    exact (FormError.mapError_message_iff _ (.invalidNumber raw)).trans invalid
  · intro n
    simp only [ofParameters_eq_ok_iff, look, exists_and_left, exists_eq, and_true]
  · intro n fieldMap success
    obtain ⟨-, rfl⟩ := (ofParameters_eq_ok_iff order ⟨n, fieldMap⟩).mp success
    constructor
    · intro k v
      rw [FieldMap.get?_ofNames_eq_some_iff, entries_answered_otherParameters]
      simp only [List.mem_filter, same.mem_iff, ← Dictionary.get?_eq_some_iff, decide_eq_true_eq]
      exact exists_congr fun name => and_congr_right fun _ => and_left_comm
    · exact (FieldMap.length_keys_ofNames_answered order).trans (same.filter _).length_eq
  · intro n small given
    exact ⟨_, (ofParameters_eq_ok_iff order ⟨n, _⟩).mpr
      ⟨⟨small, _, look.trans given, Text.standsFor_decimal n⟩, rfl⟩⟩

/-- A number with a sign, zeros and a blank around it, names that are or hold braces, and an answer that is
empty, in two orders. -/
theorem ofParameters_splits_signed :
    let parameters : Dictionary Text Text :=
      ⟨[("{TEMPLATE}", "\u2003+007\n"), ("TEMPLATE", "x"), ("\x7ba", "1"), ("a\x7d", "")], by decide⟩
    let order : Dictionary Text Text :=
      ⟨[("a\x7d", ""), ("\x7ba", "1"), ("{TEMPLATE}", "\u2003+007\n"), ("TEMPLATE", "x")], by decide⟩
    order.entries.Perm parameters.entries ∧
      ∃ fieldMap, ofParameters order = .ok ⟨7, fieldMap⟩ ∧ fieldMap.get? "{TEMPLATE}" = some "x" ∧
        fieldMap.get? "\x7b\x7ba\x7d" = some "1" ∧ fieldMap.keys.length = 2 := by
  intro parameters order
  have same : order.entries.Perm parameters.entries := by decide
  obtain ⟨-, -, read, fields, -⟩ := ofParameters_splits same
  have seven : Text.StandsFor "\u2003+007\n" 7 :=
    ⟨"\u2003", "+007", "\n", rfl, rfl, rfl, "+", "007", rfl, Or.inr rfl, by decide, by simp, rfl⟩
  obtain ⟨fieldMap, success⟩ := (read 7).mpr ⟨by decide, _, rfl, seven⟩
  obtain ⟨entries, count⟩ := fields 7 fieldMap success
  refine ⟨same, fieldMap, success, ?_, ?_, count⟩
  · exact (entries _ _).mpr ⟨"TEMPLATE", rfl, by decide, rfl, by decide⟩
  · exact (entries _ _).mpr ⟨"\x7ba", rfl, by decide, rfl, by decide⟩

end FilledForm

end FillInStory
