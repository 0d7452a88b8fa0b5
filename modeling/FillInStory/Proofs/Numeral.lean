import FillInStory.Text.Blank
import FillInStory.Text.Numeral
import Mathlib.Data.List.Basic
import Mathlib.Data.List.TakeWhile

/-! # Numerals and the numbers that they stand for

Reading digits within a limit gives the number that the digits stand for, and fails exactly when one of
them is no digit or the number is too large. So a text is read as a number exactly if it is a numeral for it
within the limit, or with trimming, if it is one but for blank characters at the ends. The decimal digits of a
number are a numeral for it.
-/

namespace FillInStory

theorem digit?_of_isDigit {c : Char} (digit : c.isDigit) : digit? c = some (c.toNat - '0'.toNat) :=
  if_pos digit

theorem digit?_eq_none_iff (c : Char) : digit? c = none ↔ ¬ c.isDigit := by simp [digit?]

/-- No digit is blank. -/
theorem isBlank_of_isDigit {c : Char} (digit : c.isDigit) : isBlank c = false := by
  have bounds : 48 ≤ c.toNat ∧ c.toNat ≤ 57 := by
    simpa [Char.isDigit, UInt32.le_iff_toNat_le] using digit
  simp only [isBlank, Bool.or_eq_false_iff, Bool.and_eq_false_iff, decide_eq_false_iff_not,
    beq_eq_false_iff_ne]
  omega

namespace Text

theorem ofDigitChars_le (t : Text) (value : Nat) : value ≤ Nat.ofDigitChars 10 t value := by
  induction t generalizing value with
  | nil => simp
  | cons c rest ih =>
    rw [Nat.ofDigitChars_cons]
    have longer := ih (10 * value + (c.toNat - '0'.toNat))
    omega

/-- Reading on from a number within the limit succeeds when only digits follow and what they make of the
number is within the limit; the numbers on the way are smaller. -/
theorem readDigits_eq_ok_iff {limit value : Nat} (within : value ≤ limit) (t : Text) (n : Nat) :
    readDigits limit value t = .ok n ↔
      (∀ c ∈ t, c.isDigit) ∧ n = Nat.ofDigitChars 10 t value ∧ n ≤ limit := by
  induction t generalizing value with
  | nil =>
    simp only [readDigits, Except.ok.injEq, List.not_mem_nil, false_implies, implies_true, true_and,
      Nat.ofDigitChars_nil]
    constructor
    · rintro rfl
      exact ⟨rfl, within⟩
    · exact fun h => h.1.symm
  | cons c rest ih =>
    by_cases digit : c.isDigit
    · rw [readDigits, digit?_of_isDigit digit, Nat.ofDigitChars_cons, Nat.mul_comm 10 value]
      dsimp only
      by_cases small : value * 10 + (c.toNat - '0'.toNat) ≤ limit
      · rw [if_pos small, ih small]
        simp only [List.forall_mem_cons, digit, true_and]
      · rw [if_neg small]
        constructor
        · intro h
          contradiction
        · rintro ⟨-, rfl, bound⟩
          exact (small (Nat.le_trans (ofDigitChars_le rest _) bound)).elim
    · rw [readDigits, (digit?_eq_none_iff c).mpr digit]
      constructor
      · intro h
        contradiction
      · rintro ⟨digits, -, -⟩
        exact (digit (digits c (List.mem_cons_self ..))).elim

theorem isDigit_of_mem_decimal {n : Nat} {c : Char} (member : c ∈ decimal n) : c.isDigit :=
  Nat.isDigit_of_mem_toDigits (by decide) (by decide) member

theorem decimal_injective : Function.Injective decimal := fun m n same => by
  have back := congrArg (Nat.ofDigitChars 10 · 0) same
  simpa [decimal, Nat.ofDigitChars_ten_toDigits] using back

/-- A number ends where its digits do. -/
theorem eq_of_decimal_append_eq {m n : Nat} {s t : Text} (first : s.takeWhile Char.isDigit = [])
    (second : t.takeWhile Char.isDigit = []) (same : decimal m ++ s = decimal n ++ t) : m = n := by
  have digits := congrArg (List.takeWhile Char.isDigit) same
  rw [List.takeWhile_append_of_pos fun _ => isDigit_of_mem_decimal,
    List.takeWhile_append_of_pos fun _ => isDigit_of_mem_decimal, first, second, List.append_nil,
    List.append_nil] at digits
  exact decimal_injective digits

/-! ## Zeros in front -/

theorem isDigit_of_mem_decimalPadded {width n : Nat} {c : Char} (member : c ∈ decimalPadded width n) : c.isDigit := by
  rcases List.mem_append.mp member with zero | digit
  · obtain rfl := List.eq_of_mem_replicate zero
    rfl
  · exact isDigit_of_mem_decimal digit

/-- Zeros in front do not change the number. -/
theorem ofDigitChars_decimalPadded (width n : Nat) : Nat.ofDigitChars 10 (decimalPadded width n) 0 = n := by
  rw [decimalPadded, Nat.ofDigitChars_append, Nat.ofDigitChars_replicate_zero, Nat.mul_zero]
  exact Nat.ofDigitChars_ten_toDigits

theorem length_decimalPadded (width n : Nat) : (decimalPadded width n).length = max width (decimal n).length := by
  rw [decimalPadded, List.length_append, List.length_replicate]
  omega

/-! ## Numerals -/

/-- A text is a numeral for a number: one or more digits that make the number, with a plus sign in front or
without. -/
def Numeral (t : Text) (n : Nat) : Prop :=
  ∃ sign digits : Text, t = sign ++ digits ∧ (sign = [] ∨ sign = ['+']) ∧ digits ≠ [] ∧
    (∀ c ∈ digits, c.isDigit) ∧ n = Nat.ofDigitChars 10 digits 0

theorem Numeral.visible {t : Text} {n : Nat} (numeral : t.Numeral n) : ∀ c ∈ t, isBlank c = false := by
  obtain ⟨sign, digits, rfl, signed, -, digit, -⟩ := numeral
  intro c member
  rcases List.mem_append.mp member with inSign | inDigits
  · rcases signed with rfl | rfl
    · exact absurd inSign List.not_mem_nil
    · obtain rfl := List.mem_singleton.mp inSign
      rfl
  · exact isBlank_of_isDigit (digit c inDigits)

/-- A numeral is read as its number, if that is within the limit, and nothing else is read. -/
theorem readNumeral_eq_ok_iff (limit : Nat) (t : Text) (n : Nat) :
    readNumeral limit t = .ok n ↔ t.Numeral n ∧ n ≤ limit := by
  have digits (s : Text) := readDigits_eq_ok_iff (Nat.zero_le limit) s n
  constructor
  · intro read
    unfold readNumeral at read
    split at read
    · cases read
    · next c rest =>
      obtain ⟨digit, value, within⟩ := (digits _).mp read
      exact ⟨⟨['+'], c :: rest, rfl, Or.inr rfl, List.cons_ne_nil _ _, digit, value⟩, within⟩
    · next nonempty _ =>
      obtain ⟨digit, value, within⟩ := (digits _).mp read
      exact ⟨⟨[], t, rfl, Or.inl rfl, nonempty, digit, value⟩, within⟩
  · rintro ⟨⟨sign, s, rfl, signed, nonempty, digit, value⟩, within⟩
    have read := (digits s).mpr ⟨digit, value, within⟩
    obtain ⟨c, rest, rfl⟩ := List.exists_cons_of_ne_nil nonempty
    rcases signed with rfl | rfl
    · have noSign : c ≠ '+' := by
        rintro rfl
        exact absurd (digit '+' List.mem_cons_self) (by decide)
      rw [List.nil_append, readNumeral]
      · exact read
      · simp
      · intro d others same
        exact noSign (List.cons.inj same).1
    · exact read

/-- The decimal digits of a number are a numeral for it. -/
theorem numeral_decimal (n : Nat) : (decimal n).Numeral n :=
  ⟨[], decimal n, rfl, Or.inl rfl, Nat.toDigits_ne_nil, fun _ => isDigit_of_mem_decimal,
    Nat.ofDigitChars_ten_toDigits.symm⟩

/-! ## Numerals between blanks -/

/-- Visible characters are not dropped with the blank ones before them. -/
theorem dropWhile_of_forall {t : Text} (visible : ∀ c ∈ t, isBlank c = false) : t.dropWhile isBlank = t := by
  cases t with
  | nil => rfl
  | cons c rest => simp [visible c List.mem_cons_self]

/-- Blank characters around visible ones are all that trimming takes away. -/
theorem trim_append {before t after : Text} (front : blank before) (visible : ∀ c ∈ t, isBlank c = false)
    (back : blank after) : trim (before ++ (t ++ after)) = t := by
  have front := List.all_eq_true.mp front
  have back := List.all_eq_true.mp back
  rw [trim, List.dropWhile_append_of_pos front]
  cases t with
  | nil => simp [List.dropWhile_eq_nil_iff.mpr back]
  | cons c rest =>
    have shown : (c :: rest ++ after).dropWhile isBlank = c :: rest ++ after := by
      simp [visible c List.mem_cons_self]
    rw [shown, List.reverse_append, List.dropWhile_append_of_pos fun d member => back d (List.mem_reverse.mp member),
      dropWhile_of_forall fun d member => visible d (List.mem_reverse.mp member), List.reverse_reverse]

/-- Trimming takes blank characters from the two ends. -/
theorem exists_eq_append_trim (t : Text) :
    ∃ before after : Text, t = before ++ (trim t ++ after) ∧ before.blank ∧ after.blank := by
  have blanks (s : Text) : blank (s.takeWhile isBlank) := List.all_takeWhile
  have front := List.takeWhile_append_dropWhile (p := isBlank) (l := t)
  have back := List.takeWhile_append_dropWhile (p := isBlank) (l := (t.dropWhile isBlank).reverse)
  refine ⟨t.takeWhile isBlank, ((t.dropWhile isBlank).reverse.takeWhile isBlank).reverse, ?_, blanks t, ?_⟩
  · have kept := congrArg List.reverse back
    rw [List.reverse_append, List.reverse_reverse] at kept
    rw [trim, kept, front]
  · simp [blank]

/-- A text stands for a number when it is a numeral for it, but for blank characters at the two ends. -/
def StandsFor (t : Text) (n : Nat) : Prop :=
  ∃ before numeral after : Text, t = before ++ (numeral ++ after) ∧ before.blank ∧ after.blank ∧ numeral.Numeral n

/-- A number is read between blank characters exactly if the text stands for it and it is within the limit. -/
theorem readNumeral_trim_eq_ok_iff (limit : Nat) (t : Text) (n : Nat) :
    readNumeral limit (trim t) = .ok n ↔ t.StandsFor n ∧ n ≤ limit := by
  rw [readNumeral_eq_ok_iff]
  constructor
  · rintro ⟨numeral, within⟩
    obtain ⟨before, after, split, front, back⟩ := exists_eq_append_trim t
    exact ⟨⟨before, trim t, after, split, front, back, numeral⟩, within⟩
  · rintro ⟨⟨before, numeral, after, rfl, front, back, isNumeral⟩, within⟩
    rw [trim_append front isNumeral.visible back]
    exact ⟨isNumeral, within⟩

theorem standsFor_decimal (n : Nat) : (decimal n).StandsFor n :=
  ⟨[], decimal n, [], by simp, rfl, rfl, numeral_decimal n⟩

end Text

end FillInStory
