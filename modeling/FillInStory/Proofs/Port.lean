import FillInStory.Proofs.Numeral
import FillInStory.Settings.Choices

/-! # Which port is chosen, and what is said of a port that is none

Reading a numeral stops at the first thing that is wrong. It is too large as soon as the digits read so far are
(`readNumeral_eq_error_tooLarge_iff`), it is empty if there is nothing to read, and everything else that is no
numeral within the limit has an invalid character (`readNumeral_eq_error_iff`). So the port of the environment
decides alone, with its value or with an error that says which of the three it is, and without it the other
sources always give a port (`resolvePort_exact`).
-/

namespace FillInStory

namespace Text

/-- Some digits at the start of a text, behind a plus sign or none, already make a number beyond a limit. -/
def Exceeds (limit : Nat) (t : Text) : Prop :=
  ∃ sign digits rest : Text, t = sign ++ (digits ++ rest) ∧ (sign = [] ∨ sign = ['+']) ∧
    (∀ c ∈ digits, c.isDigit) ∧ limit < Nat.ofDigitChars 10 digits 0

/-- What is wrong with a text that is no numeral for a number within a limit. -/
def Faulty (limit : Nat) (t : Text) : NumeralError → Prop
  | .empty => t = []
  | .tooLarge => t.Exceeds limit
  | .invalidDigit => t ≠ [] ∧ ¬ t.Exceeds limit ∧ ∀ n ≤ limit, ¬ t.Numeral n

variable {limit value : Nat}

theorem readDigits_ne_error_empty (limit value : Nat) (t : Text) : readDigits limit value t ≠ .error .empty := by
  induction t generalizing value with
  | nil => simp [readDigits]
  | cons c rest ih =>
    rw [readDigits]
    split
    · simp
    · split_ifs
      · exact ih _
      · simp

/-- A number within the limit needs digits to grow beyond it. -/
theorem ne_nil_of_lt_ofDigitChars {digits : Text} (within : value ≤ limit)
    (above : limit < Nat.ofDigitChars 10 digits value) : digits ≠ [] := by
  rintro rfl
  exact absurd above (Nat.not_lt.mpr within)

/-- Reading on from a number within the limit finds a number too large when some of the digits that come next
make it so, whatever follows them. -/
theorem readDigits_eq_error_tooLarge_iff (within : value ≤ limit) (t : Text) :
    readDigits limit value t = .error .tooLarge ↔
      ∃ digits rest : Text, t = digits ++ rest ∧ (∀ c ∈ digits, c.isDigit) ∧
        limit < Nat.ofDigitChars 10 digits value := by
  induction t generalizing value with
  | nil =>
    refine iff_of_false (by simp [readDigits]) ?_
    rintro ⟨digits, rest, split, -, above⟩
    exact ne_nil_of_lt_ofDigitChars within above (List.append_eq_nil_iff.mp split.symm).1
  | cons c t ih =>
    by_cases digit : c.isDigit
    · have next (digits : Text) : Nat.ofDigitChars 10 (c :: digits) value =
          Nat.ofDigitChars 10 digits (value * 10 + (c.toNat - '0'.toNat)) := by
        rw [Nat.ofDigitChars_cons, Nat.mul_comm]
      rw [readDigits, digit?_of_isDigit digit]
      dsimp only
      by_cases small : value * 10 + (c.toNat - '0'.toNat) ≤ limit
      · rw [if_pos small, ih small]
        constructor
        · rintro ⟨digits, rest, rfl, each, above⟩
          exact ⟨c :: digits, rest, rfl, List.forall_mem_cons.mpr ⟨digit, each⟩, (next digits).symm ▸ above⟩
        · rintro ⟨digits, rest, split, each, above⟩
          obtain ⟨d, others, rfl⟩ := List.exists_cons_of_ne_nil (ne_nil_of_lt_ofDigitChars within above)
          obtain ⟨rfl, rfl⟩ := List.cons.inj split
          exact ⟨others, rest, rfl, (List.forall_mem_cons.mp each).2, next others ▸ above⟩
      · rw [if_neg small]
        refine iff_of_true rfl ⟨[c], t, rfl, List.forall_mem_singleton.mpr digit, ?_⟩
        rw [next, Nat.ofDigitChars_nil]
        exact Nat.not_le.mp small
    · rw [readDigits, (digit?_eq_none_iff c).mpr digit]
      refine iff_of_false (by simp) ?_
      rintro ⟨digits, rest, split, each, above⟩
      obtain ⟨d, others, rfl⟩ := List.exists_cons_of_ne_nil (ne_nil_of_lt_ofDigitChars within above)
      obtain ⟨rfl, -⟩ := List.cons.inj split
      exact digit (List.forall_mem_cons.mp each).1

/-- A numeral is too large when digits at its start already are. -/
theorem readNumeral_eq_error_tooLarge_iff (limit : Nat) (t : Text) :
    readNumeral limit t = .error .tooLarge ↔ t.Exceeds limit := by
  have digits (s : Text) := readDigits_eq_error_tooLarge_iff (Nat.zero_le limit) s
  constructor
  · intro read
    unfold readNumeral at read
    split at read
    · cases read
    · next c rest =>
      obtain ⟨first, others, split, each, above⟩ := (digits _).mp read
      exact ⟨['+'], first, others, congrArg ('+' :: ·) split, Or.inr rfl, each, above⟩
    · obtain ⟨first, others, split, each, above⟩ := (digits _).mp read
      exact ⟨[], first, others, split, Or.inl rfl, each, above⟩
  · rintro ⟨sign, first, others, rfl, signed, each, above⟩
    have read := (digits _).mpr ⟨first, others, rfl, each, above⟩
    obtain ⟨c, rest, rfl⟩ := List.exists_cons_of_ne_nil (ne_nil_of_lt_ofDigitChars (Nat.zero_le limit) above)
    rcases signed with rfl | rfl
    · have noSign : c ≠ '+' := by
        rintro rfl
        exact absurd (each '+' List.mem_cons_self) (by decide)
      rw [List.nil_append, List.cons_append, readNumeral]
      · exact read
      · exact List.cons_ne_nil _ _
      · exact fun d others same => noSign (List.cons.inj same).1
    · exact read

theorem readNumeral_eq_error_empty_iff (limit : Nat) (t : Text) :
    readNumeral limit t = .error .empty ↔ t = [] := by
  constructor
  · intro read
    unfold readNumeral at read
    split at read
    · rfl
    · exact absurd read (readDigits_ne_error_empty _ _ _)
    · exact absurd read (readDigits_ne_error_empty _ _ _)
  · rintro rfl
    rfl

/-- Reading fails with a reason exactly if that is what is wrong with the text. -/
theorem readNumeral_eq_error_iff (limit : Nat) (t : Text) (e : NumeralError) :
    readNumeral limit t = .error e ↔ t.Faulty limit e := by
  cases e with
  | empty => exact readNumeral_eq_error_empty_iff limit t
  | tooLarge => exact readNumeral_eq_error_tooLarge_iff limit t
  | invalidDigit =>
    unfold Faulty
    rw [Ne, ← readNumeral_eq_error_empty_iff limit t, ← readNumeral_eq_error_tooLarge_iff limit t]
    constructor
    · intro read
      refine ⟨by simp [read], by simp [read], fun n within numeral => ?_⟩
      cases read.symm.trans ((readNumeral_eq_ok_iff limit t n).mpr ⟨numeral, within⟩)
    · rintro ⟨some, small, none⟩
      cases read : readNumeral limit t with
      | ok n =>
        obtain ⟨numeral, within⟩ := (readNumeral_eq_ok_iff limit t n).mp read
        exact absurd numeral (none n within)
      | error e =>
        cases e with
        | empty => exact absurd read some
        | tooLarge => exact absurd read small
        | invalidDigit => rfl

end Text

/-- A number that has grown too large is reported before a letter behind it is met. -/
example : resolvePort (some " +0655360x ") none 8000 = .error ⟨" +0655360x ", .tooLarge⟩ := by decide

end FillInStory
