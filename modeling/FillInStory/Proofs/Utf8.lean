import FillInStory.Text.Utf8

/-! # Reading UTF-8 strictly is the inverse of writing it

The bytes that are read as a text are those that the text is written as, and no others. So a file
gives its text exactly when its contents are the whole encoding of that text, and two texts never share
their bytes.
-/

namespace FillInStory.Text

/-- A byte below 128 is the whole encoding of a character, and stands in no other one. -/
theorem toNat_of_mem_utf8EncodeChar {c : Char} {b : UInt8} (member : b ∈ String.utf8EncodeChar c)
    (ascii : b.toNat < 128) : c.toNat = b.toNat := by
  change c.val.toNat = b.toNat
  -- every byte of a longer encoding has its highest bit set
  have high (n : Nat) (low : 128 ≤ n) (bound : n < 256) : b ≠ UInt8.ofNat n := by
    rintro rfl
    simp only [UInt8.toNat_ofNat'] at ascii
    omega
  simp only [String.utf8EncodeChar] at member
  split at member
  · obtain rfl := List.mem_singleton.mp member
    simp only [UInt8.toNat_ofNat']
    omega
  · exfalso
    split at member
    · simp only [List.mem_cons, List.not_mem_nil, or_false] at member
      exact member.elim (high _ (by omega) (by omega)) (high _ (by omega) (by omega))
    · split at member <;> simp only [List.mem_cons, List.not_mem_nil, or_false] at member
      · exact member.elim (high _ (by omega) (by omega)) fun member =>
          member.elim (high _ (by omega) (by omega)) (high _ (by omega) (by omega))
      · exact member.elim (high _ (by omega) (by omega)) fun member =>
          member.elim (high _ (by omega) (by omega)) fun member =>
            member.elim (high _ (by omega) (by omega)) (high _ (by omega) (by omega))

/-- The bytes begin with a character exactly when they begin with its whole encoding. -/
theorem leadingChar?_eq_some_iff (bytes : List UInt8) (c : Char) :
    leadingChar? bytes = some c ↔ ∃ rest, bytes = String.utf8EncodeChar c ++ rest := by
  unfold leadingChar?
  constructor
  · intro leads
    obtain ⟨l, whole⟩ := ByteArray.exists_of_utf8DecodeChar?_eq_some leads
    have taken : bytes.take 4 = String.utf8EncodeChar c ++ l.data.toList := by
      simpa using congrArg (fun b => b.data.toList) whole
    exact ⟨l.data.toList ++ bytes.drop 4, by rw [← List.append_assoc, ← taken, List.take_append_drop]⟩
  · rintro ⟨rest, rfl⟩
    have short : (String.utf8EncodeChar c).length ≤ 4 := by
      simpa using c.utf8Size_le_four
    have taken : (⟨((String.utf8EncodeChar c ++ rest).take 4).toArray⟩ : ByteArray) =
        (String.utf8EncodeChar c).toByteArray ++
          ⟨(rest.take (4 - (String.utf8EncodeChar c).length)).toArray⟩ := by
      ext1
      simp [List.take_append, List.take_of_length_le short]
    rw [taken]
    exact ByteArray.utf8DecodeChar?_utf8EncodeChar_append

/-- The bytes that are still ahead of the last character are passed over. -/
theorem decodeFrom_eq_decode_drop (ahead : Nat) (bytes : List UInt8) :
    decodeFrom ahead bytes = decode (bytes.drop ahead) := by
  induction ahead generalizing bytes with
  | zero => rfl
  | succ ahead ih =>
    cases bytes with
    | nil => rfl
    | cons b rest => simpa [decodeFrom] using ih rest

/-- An encoded character is read as that character, and what follows it is read on its own. -/
theorem decode_utf8EncodeChar_append (c : Char) (rest : List UInt8) :
    decode (String.utf8EncodeChar c ++ rest) = some c :: decode rest := by
  have leads := (leadingChar?_eq_some_iff _ c).mpr ⟨rest, rfl⟩
  have size := String.length_utf8EncodeChar c
  cases written : String.utf8EncodeChar c with
  | nil => exact absurd (written ▸ size) (by simpa using Nat.ne_of_lt c.utf8Size_pos)
  | cons first others =>
    rw [written] at leads size
    simp only [List.length_cons] at size
    simp only [decode, List.cons_append] at leads ⊢
    simp only [decodeFrom, leads, decodeFrom_eq_decode_drop, ← size, Nat.add_sub_cancel,
      List.drop_left]
    rfl

theorem decode_utf8 (t : Text) : decode (utf8 t) = t.map some := by
  induction t with
  | nil => rfl
  | cons c t ih => rw [utf8_cons, decode_utf8EncodeChar_append, ih, List.map_cons]

/-- Bytes whose first part is a character begin with that character's encoding. -/
theorem eq_append_of_decode_eq_cons {bytes : List UInt8} {c : Char} {parts : List (Option Char)}
    (read : decode bytes = some c :: parts) :
    ∃ rest, bytes = String.utf8EncodeChar c ++ rest ∧ decode rest = parts := by
  cases bytes with
  | nil => cases read
  | cons first others =>
    cases leads : leadingChar? (first :: others) with
    | none => simp [decode, decodeFrom, leads] at read
    | some d =>
      obtain ⟨rest, begins⟩ := (leadingChar?_eq_some_iff _ d).mp leads
      rw [begins, decode_utf8EncodeChar_append, List.cons.injEq, Option.some.injEq] at read
      obtain ⟨rfl, tail⟩ := read
      exact ⟨rest, begins, tail⟩

theorem utf8_of_decode {bytes : List UInt8} {t : Text} (read : decode bytes = t.map some) :
    utf8 t = bytes := by
  induction t generalizing bytes with
  | nil =>
    cases bytes with
    | nil => rfl
    | cons first others => simp only [decode, decodeFrom] at read; split at read <;> cases read
  | cons c t ih =>
    obtain ⟨rest, rfl, tail⟩ := eq_append_of_decode_eq_cons read
    rw [utf8_cons, ih tail]

/-- Parts without a mark are those of their characters. -/
theorem map_some_filterMap_id {parts : List (Option Char)} (unmarked : parts.all Option.isSome) :
    (parts.filterMap id).map some = parts := by
  induction parts with
  | nil => rfl
  | cons part parts ih =>
    cases part with
    | none => simp at unmarked
    | some c => simpa using ih (by simpa using unmarked)

/-- Bytes are read as a text exactly when they are what the text is written as. -/
theorem ofUtf8?_eq_some_iff (bytes : List UInt8) (t : Text) : ofUtf8? bytes = some t ↔ utf8 t = bytes := by
  unfold ofUtf8?
  constructor
  · intro read
    obtain ⟨unmarked, same⟩ := Option.ite_none_right_eq_some.mp read
    obtain rfl := Option.some.inj same
    exact utf8_of_decode (map_some_filterMap_id unmarked).symm
  · rintro rfl
    simp [decode_utf8, Function.comp_def]

@[simp] theorem ofUtf8?_utf8 (t : Text) : ofUtf8? (utf8 t) = some t :=
  (ofUtf8?_eq_some_iff _ t).mpr rfl

/-- Texts with the same bytes are the same. -/
theorem utf8_injective : Function.Injective utf8 := fun s t same =>
  Option.some.inj ((ofUtf8?_utf8 s).symm.trans (same ▸ ofUtf8?_utf8 t))

/-- Bytes are no text exactly when no text is written as them. -/
theorem ofUtf8?_eq_none_iff (bytes : List UInt8) : ofUtf8? bytes = none ↔ ¬ ∃ t, utf8 t = bytes := by
  rw [Option.eq_none_iff_forall_ne_some, not_exists]
  exact forall_congr' fun t => not_congr (ofUtf8?_eq_some_iff bytes t)

end FillInStory.Text
