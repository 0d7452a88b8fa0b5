import FillInStory.Proofs.Numeral
import FillInStory.Proofs.TomlReading

/-! # Values as they are written, and what is read of them

A string is written between quotes with every character spelled in one of several ways: a plain character as
itself, a few with a letter behind a backslash, and every one by its number. Whatever the spellings, the string
is read back (`readString_of_spells`). Integers are written in decimal, and one of more than 64 bits is refused.
-/

namespace FillInStory.Toml

/-! ## Spellings -/

def HexDigit (n : Nat) (c : Char) : Prop := n < 16 ∧ (c = n.digitChar ∨ c = n.digitChar.toUpper)

/-- A character of a string is no control character but perhaps a tab. -/
def Plain (c : Char) : Prop := c = '\t' ∨ (0x20 ≤ c.toNat ∧ c.toNat ≠ 0x7F)

/-- The letters that may follow a backslash, with the characters that they stand for. -/
def letters : List (Char × Char) :=
  [('"', '"'), ('\\', '\\'), ('b', '\x08'), ('f', '\x0C'), ('n', '\n'), ('r', '\r'), ('t', '\t')]

def HexNumber (n : Nat) (digits : Text) : Prop :=
  ∃ values, List.Forall₂ HexDigit values digits ∧ n = values.foldl (fun n value => n * 16 + value) 0

/-- The ways to spell a character between quotes. -/
inductive Spelling (c : Char) : Text → Prop where
  | plain (plain : Plain c) (noQuote : c ≠ '"') (noBackslash : c ≠ '\\') : Spelling c [c]
  | letter {d : Char} (listed : (d, c) ∈ letters) : Spelling c ['\\', d]
  | short {digits : Text} (number : HexNumber c.toNat digits) (four : digits.length = 4) :
      Spelling c ('\\' :: 'u' :: digits)
  | long {digits : Text} (number : HexNumber c.toNat digits) (eight : digits.length = 8) :
      Spelling c ('\\' :: 'U' :: digits)

/-- A text between quotes spells the characters of a string one after another. -/
inductive Spells : Text → Text → Prop where
  | nil : Spells [] []
  | cons {c : Char} {s spelling t : Text} (first : Spelling c spelling) (others : Spells s t) :
      Spells (c :: s) (spelling ++ t)

theorem hexDigit?_of_hexDigit {n : Nat} {c : Char} (digit : HexDigit n c) : Json.hexDigit? c = some n := by
  have read : ∀ n < 16, Json.hexDigit? n.digitChar = some n ∧ Json.hexDigit? n.digitChar.toUpper = some n := by
    decide
  obtain ⟨small, rfl | rfl⟩ := digit
  · exact (read n small).1
  · exact (read n small).2

theorem HexDigit.noQuote {n : Nat} {c : Char} (digit : HexDigit n c) : c ≠ '"' ∧ c ≠ '\\' := by
  have value := hexDigit?_of_hexDigit digit
  constructor <;> rintro rfl <;> cases value

theorem isOrdinary_of_plain {c : Char} (plain : Plain c) : isOrdinary c := by
  simpa [isOrdinary, Plain] using plain

theorem scalar?_toNat (c : Char) : scalar? c.toNat = some c := by
  have valid : c.toNat.isValidChar := c.valid
  rw [scalar?, if_pos valid, Char.ofNat_toNat]

/-! ### Reading a spelling -/

theorem hexFour?_of_hexDigits {k l m n : Nat} {a b c d : Char} (first : HexDigit k a) (second : HexDigit l b)
    (third : HexDigit m c) (fourth : HexDigit n d) :
    Json.hexFour? a b c d = some (((k * 16 + l) * 16 + m) * 16 + n) := by
  simp [Json.hexFour?, hexDigit?_of_hexDigit first, hexDigit?_of_hexDigit second, hexDigit?_of_hexDigit third,
    hexDigit?_of_hexDigit fourth]

/-- Four hexadecimal digits for a number are read as it. -/
theorem exists_hexFour? {n : Nat} {digits : Text} (number : HexNumber n digits) (four : digits.length = 4) :
    ∃ a b c d, digits = [a, b, c, d] ∧ Json.hexFour? a b c d = some n := by
  obtain ⟨values, each, rfl⟩ := number
  match digits, four, each with
  | [a, b, c, d], _, .cons first (.cons second (.cons third (.cons fourth .nil))) =>
    exact ⟨a, b, c, d, rfl, by simp [hexFour?_of_hexDigits first second third fourth]⟩

/-- Eight hexadecimal digits for a number are read as it in two parts. -/
theorem exists_hexFour?_hexFour? {n : Nat} {digits : Text} (number : HexNumber n digits) (eight : digits.length = 8) :
    ∃ a b c d e f g h high low, digits = [a, b, c, d, e, f, g, h] ∧ Json.hexFour? a b c d = some high ∧
      Json.hexFour? e f g h = some low ∧ high * 0x10000 + low = n := by
  obtain ⟨values, each, rfl⟩ := number
  match digits, eight, each with
  | [a, b, c, d, e, f, g, h], _, .cons first (.cons second (.cons third (.cons fourth (.cons fifth (.cons sixth
      (.cons seventh (.cons eighth .nil))))))) =>
    refine ⟨a, b, c, d, e, f, g, h, _, _, rfl, hexFour?_of_hexDigits first second third fourth,
      hexFour?_of_hexDigits fifth sixth seventh eighth, ?_⟩
    simp only [List.foldl_cons, List.foldl_nil]
    omega

theorem unescape_cons {c : Char} (plain : Plain c) (noBackslash : c ≠ '\\') (rest : Text) :
    unescape false none (c :: rest) = (unescape false none rest).map (c :: ·) := by
  have ordinary := isOrdinary_of_plain plain
  have noReturn : c ≠ '\r' := by
    rintro rfl
    cases ordinary
  rw [unescape.eq_def]
  split <;> simp_all

theorem unescape_short (a b c d : Char) (rest : Text) :
    unescape false none ('\\' :: 'u' :: a :: b :: c :: d :: rest) =
      (Json.hexFour? a b c d).bind fun n =>
        (scalar? n).bind fun scalar => (unescape false none rest).map (scalar :: ·) := rfl

theorem unescape_long (a b c d e f g h : Char) (rest : Text) :
    unescape false none ('\\' :: 'U' :: a :: b :: c :: d :: e :: f :: g :: h :: rest) =
      (Json.hexFour? a b c d).bind fun high => (Json.hexFour? e f g h).bind fun low =>
        (scalar? (high * 0x10000 + low)).bind fun scalar => (unescape false none rest).map (scalar :: ·) := rfl

theorem unescape_append {c : Char} {spelling : Text} (spelled : Spelling c spelling) (rest : Text) :
    unescape false none (spelling ++ rest) = (unescape false none rest).map (c :: ·) := by
  cases spelled with
  | plain plain noQuote noBackslash => exact unescape_cons plain noBackslash rest
  | letter listed =>
    simp only [letters, List.mem_cons, Prod.mk.injEq, List.not_mem_nil, or_false] at listed
    rcases listed with ⟨rfl, rfl⟩ | ⟨rfl, rfl⟩ | ⟨rfl, rfl⟩ | ⟨rfl, rfl⟩ | ⟨rfl, rfl⟩ | ⟨rfl, rfl⟩ | ⟨rfl, rfl⟩ <;> rfl
  | short number four =>
    obtain ⟨a, b, d, e, rfl, read⟩ := exists_hexFour? number four
    refine (unescape_short a b d e rest).trans ?_
    rw [read, Option.bind_some, scalar?_toNat, Option.bind_some]
  | long number eight =>
    obtain ⟨a, b, d, e, f, g, h, i, high, low, rfl, first, second, same⟩ := exists_hexFour?_hexFour? number eight
    have scalar : scalar? (high * 0x10000 + low) = some c := by rw [same, scalar?_toNat]
    refine (unescape_long a b d e f g h i rest).trans ?_
    rw [first, Option.bind_some, second, Option.bind_some, scalar, Option.bind_some]

/-- Neither a quote nor an escape ends before the end of a text without quotes and backslashes. -/
theorem untilQuote_append_of_forall {s : Text} (plain : ∀ c ∈ s, c ≠ '"' ∧ c ≠ '\\') (rest : Text) :
    untilQuote (s ++ rest) = (untilQuote rest).map fun (inside, after) => (s ++ inside, after) := by
  induction s with
  | nil => simp
  | cons c s ih =>
    obtain ⟨⟨noQuote, noBackslash⟩, plain⟩ := List.forall_mem_cons.mp plain
    rw [List.cons_append, untilQuote, ih plain, Option.map_map]
    · rfl
    · exact noQuote
    · exact fun _ _ backslash _ => noBackslash backslash

theorem HexNumber.plain {n : Nat} {digits : Text} (number : HexNumber n digits) :
    ∀ c ∈ digits, c ≠ '"' ∧ c ≠ '\\' := by
  obtain ⟨values, each, -⟩ := number
  induction each with
  | nil => simp
  | cons digit _ ih => exact List.forall_mem_cons.mpr ⟨digit.noQuote, ih⟩

theorem untilQuote_append_spelling {c : Char} {spelling : Text} (spelled : Spelling c spelling) (rest : Text) :
    untilQuote (spelling ++ rest) = (untilQuote rest).map fun (inside, after) => (spelling ++ inside, after) := by
  cases spelled with
  | plain plain noQuote noBackslash =>
    exact untilQuote_append_of_forall (List.forall_mem_singleton.mpr ⟨noQuote, noBackslash⟩) rest
  | letter listed => rfl
  | short number four =>
    rw [List.cons_append, List.cons_append, untilQuote, untilQuote_append_of_forall number.plain, Option.map_map]
    rfl
  | long number eight =>
    rw [List.cons_append, List.cons_append, untilQuote, untilQuote_append_of_forall number.plain, Option.map_map]
    rfl

/-! ### Strings -/

theorem unescape_of_spells {s t : Text} (spelled : Spells s t) : unescape false none t = some s := by
  induction spelled with
  | nil => rfl
  | cons first _ ih => rw [unescape_append first, ih, Option.map_some]

theorem untilQuote_of_spells {s t : Text} (spelled : Spells s t) (rest : Text) :
    untilQuote (t ++ '"' :: rest) = some (t, rest) := by
  induction spelled with
  | nil => rfl
  | cons first _ ih => rw [List.append_assoc, untilQuote_append_spelling first, ih, Option.map_some]

/-- A spelling begins with no quote. -/
theorem Spells.ne_quote_cons {s t : Text} (spelled : Spells s t) (rest : Text) : t ≠ '"' :: rest := by
  cases spelled with
  | nil => exact nofun
  | cons first others =>
    intro same
    cases first with
    | plain _ noQuote => exact noQuote (List.cons.inj same).1
    | letter listed => simp at same
    | short number four => simp at same
    | long number eight => simp at same

/-- A string is read back from any of its spellings. -/
theorem readString_of_spells {s t : Text} (spelled : Spells s t) :
    readString ('"' :: (t ++ ['"'])) = some (s, []) := by
  rw [readString]
  · simp [basicString, untilQuote_of_spells spelled, unescape_of_spells spelled]
  · intro rest same
    cases t with
    | nil => cases same
    | cons c t =>
      obtain ⟨rfl, -⟩ := List.cons.inj same
      exact spelled.ne_quote_cons t rfl

/-! ## Integers -/

/-- Decimal digits, with a minus sign before them if the number is below zero. -/
def integerText : Int → Text
  | .ofNat n => Text.decimal n
  | .negSucc n => '-' :: Text.decimal (n + 1)

def InRange (z : Int) : Prop := -(integerLimit : Int) - 1 ≤ z ∧ z ≤ integerLimit

instance (z : Int) : Decidable (InRange z) := inferInstanceAs (Decidable (_ ∧ _))

/-- Decimal digits begin with a zero only if they are one. -/
theorem eq_zero_of_decimal_eq_cons {n : Nat} {rest : Text} (begins : Text.decimal n = '0' :: rest) : n = 0 := by
  induction n using Nat.strong_induction_on generalizing rest with
  | h n ih =>
    rw [Text.decimal, Nat.toDigits_eq_if (by decide)] at begins
    split_ifs at begins with small
    · exact Nat.digitChar_eq_zero.mp (List.cons.inj begins).1
    · obtain ⟨c, front, split⟩ := List.exists_cons_of_ne_nil (Nat.toDigits_ne_nil (n := n / 10) (b := 10))
      rw [split, List.cons_append] at begins
      obtain ⟨rfl, -⟩ := List.cons.inj begins
      have zero := ih (n / 10) (by omega) split
      omega

theorem hexDigit?_of_isDigit {c : Char} (digit : c.isDigit) : Json.hexDigit? c = some (c.toNat - '0'.toNat) :=
  if_pos digit

theorem valueInBase_ten {digits : Text} (each : ∀ c ∈ digits, c.isDigit) :
    valueInBase 10 digits = Nat.ofDigitChars 10 digits 0 := by
  rw [valueInBase, Nat.ofDigitChars_eq_foldl]
  refine List.foldl_ext _ _ _ fun n c member => ?_
  rw [hexDigit?_of_isDigit (each c member), Option.getD_some, Nat.mul_comm]

theorem spanDigits_of_forall {digits : Text} (each : ∀ c ∈ digits, c.isDigit) :
    spanDigits Char.isDigit digits = (digits, []) := by
  induction digits with
  | nil => rfl
  | cons c digits ih =>
    obtain ⟨digit, each⟩ := List.forall_mem_cons.mp each
    rw [spanDigits_cons digit, ih each]

theorem exists_decimal_eq_cons (n : Nat) : ∃ c rest, Text.decimal n = c :: rest ∧ c.isDigit := by
  obtain ⟨c, rest, split⟩ := List.exists_cons_of_ne_nil (Nat.toDigits_ne_nil (n := n) (b := 10))
  exact ⟨c, rest, split, Text.isDigit_of_mem_decimal (split ▸ List.mem_cons_self)⟩

/-- The whole part of decimal digits is all of them, as they have no leading zeros. -/
theorem wholePart_decimal (n : Nat) : wholePart (Text.decimal n) = some (Text.decimal n, []) := by
  unfold wholePart
  split
  · next rest begins =>
    obtain rfl := eq_zero_of_decimal_eq_cons begins
    cases begins
    rfl
  · obtain ⟨c, rest, split, digit⟩ := exists_decimal_eq_cons n
    have first : (Text.decimal n).head?.any Char.isDigit := by simp [split, digit]
    rw [digits?, if_pos first, spanDigits_of_forall fun _ => Text.isDigit_of_mem_decimal]

theorem decimalNumber_decimal (minus : Bool) (n : Nat) :
    decimalNumber minus (Text.decimal n) =
      if n ≤ integerLimit then some (.integer (if minus then -n else n), [])
      else if minus && n = integerLimit + 1 then some (.integer (-n), []) else none := by
  obtain ⟨c, rest, split, digit⟩ := exists_decimal_eq_cons n
  have value : valueInBase 10 (Text.decimal n) = n :=
    (valueInBase_ten fun _ => Text.isDigit_of_mem_decimal).trans Nat.ofDigitChars_ten_toDigits
  rw [decimalNumber]
  · simp [wholePart_decimal, fractionPart, exponentPart, value]
  · intro others same
    obtain ⟨rfl, -⟩ := List.cons.inj (split.symm.trans same)
    cases digit
  · intro others same
    obtain ⟨rfl, -⟩ := List.cons.inj (split.symm.trans same)
    cases digit

theorem notMem_decimal_of_isDigit {c : Char} (other : c.isDigit = false) (n : Nat) : c ∉ Text.decimal n := by
  intro member
  rw [Text.isDigit_of_mem_decimal member] at other
  cases other

/-- An integer of 64 bits is read as itself, and any other one is refused. -/
theorem readNumber_integerText (z : Int) :
    readNumber (integerText z) =
      if InRange z then some (.integer z, []) else none := by
  cases z with
  | ofNat n =>
    have unsigned : readSign (Text.decimal n) = (false, Text.decimal n) := by
      unfold readSign
      split
      · next same => exact absurd (same ▸ List.mem_cons_self) (notMem_decimal_of_isDigit (c := '-') rfl n)
      · next same => exact absurd (same ▸ List.mem_cons_self) (notMem_decimal_of_isDigit (c := '+') rfl n)
      · rfl
    have unmarked {c : Char} (other : c.isDigit = false) (rest : Text) : Text.decimal n ≠ '0' :: c :: rest := by
      intro same
      exact notMem_decimal_of_isDigit other n (by simp [same])
    rw [integerText, readNumber, unsigned, decimalNumber_decimal]
    · have range : InRange (.ofNat n) ↔ n ≤ integerLimit := by
        rw [InRange, Int.ofNat_eq_natCast]
        omega
      simp only [range, Bool.false_eq_true, if_false, Bool.false_and]
      rfl
    · exact unmarked rfl
    · exact unmarked rfl
    · exact unmarked rfl
  | negSucc n =>
    rw [integerText, readNumber, readSign, decimalNumber_decimal]
    · have range : InRange (.negSucc n) ↔ n + 1 ≤ integerLimit ∨ n + 1 = integerLimit + 1 := by
        rw [InRange, Int.negSucc_eq]
        omega
      simp only [range, if_true, Bool.true_and, decide_eq_true_eq]
      split_ifs <;> first | rfl | omega
    all_goals simp

/-- Without a hyphen behind the first character and without a colon there is no date and no time. -/
theorem afterDateTime_eq_none {t : Text} (noHyphen : '-' ∉ t.tail) (noColon : ':' ∉ t) : afterDateTime t = none := by
  have noDate : afterDate t = none := by
    unfold afterDate
    split
    · simp at noHyphen
    · rfl
  have noTime : afterTime t = none := by
    rcases t with - | ⟨a, - | ⟨b, rest⟩⟩
    · rfl
    · rfl
    · have unseparated : afterChar ':' rest = none := by
        cases rest with
        | nil => rfl
        | cons c rest =>
          have other : c ≠ ':' := by
            rintro rfl
            simp at noColon
          rw [afterChar, if_neg other]
      simp only [afterTime, twoDigits]
      split_ifs <;> simp [unseparated]
  rw [afterDateTime, noDate, noTime]

theorem afterDateTime_integerText (z : Int) : afterDateTime (integerText z) = none := by
  have noHyphen := notMem_decimal_of_isDigit (c := '-') rfl
  have noColon := notMem_decimal_of_isDigit (c := ':') rfl
  cases z with
  | ofNat n => exact afterDateTime_eq_none (fun member => noHyphen n (List.mem_of_mem_tail member)) (noColon n)
  | negSucc n => exact afterDateTime_eq_none (noHyphen (n + 1)) (by simp [integerText, noColon])

/-! ## Values -/

/-- The ways to write a value. -/
inductive Written : Value → Text → Prop where
  | string {s t : Text} (spelled : Spells s t) : Written (.string s) ('"' :: (t ++ ['"']))
  | integer (z : Int) : Written (.integer z) (integerText z)
  | boolean (b : Bool) : Written (.boolean b) (if b then "true" else "false")

/-- What begins like a number is read as a date or else as a number. -/
theorem readValue_of_number {t : Text} {c : Char} {rest : Text} (begins : t = c :: rest)
    (number : c = '-' ∨ c.isDigit) (limit : Nat) :
    readValue (limit + 1) t =
      match afterDateTime t with
      | some rest => some (.dateTime, rest)
      | none => readNumber t := by
  subst begins
  have other {d : Char} (hyphen : '-' ≠ d) (digit : d.isDigit = false) : c ≠ d := by
    rintro rfl
    rcases number with same | same
    · exact hyphen same.symm
    · rw [digit] at same
      cases same
  unfold readValue
  split
  all_goals first
    | rfl
    | next same => exact absurd (List.cons.inj same).1 (other (by decide) (by decide))

theorem exists_integerText_eq_cons (z : Int) :
    ∃ c rest, integerText z = c :: rest ∧ (c = '-' ∨ c.isDigit) := by
  cases z with
  | ofNat n =>
    obtain ⟨c, rest, split, digit⟩ := exists_decimal_eq_cons n
    exact ⟨c, rest, split, Or.inr digit⟩
  | negSucc n => exact ⟨'-', Text.decimal (n + 1), rfl, Or.inl rfl⟩

/-- A written value is read back, if it is no integer of more than 64 bits. -/
theorem readValue_of_written {v : Value} {t : Text} (written : Written v t) (fits : ∀ z, v = .integer z → InRange z)
    (limit : Nat) : readValue (limit + 1) t = some (v, []) := by
  cases written with
  | string spelled =>
    rw [readValue, readString_of_spells spelled, Option.map_some]
  | integer z =>
    obtain ⟨c, rest, begins, number⟩ := exists_integerText_eq_cons z
    rw [readValue_of_number begins number, afterDateTime_integerText, readNumber_integerText]
    exact if_pos (fits z rfl)
  | boolean b => cases b <;> rfl

/-- An integer of more than 64 bits is refused, also before more lines. -/
theorem readValue_integerText_eq_none {z : Int} (large : ¬ InRange z) (limit : Nat) (more : Text) :
    readValue (limit + 1) (integerText z) = none ∧ readValue (limit + 1) (integerText z ++ '\n' :: more) = none := by
  obtain ⟨c, rest, begins, number⟩ := exists_integerText_eq_cons z
  have refused : readNumber (integerText z) = none := by
    rw [readNumber_integerText]
    exact if_neg large
  constructor
  · rw [readValue_of_number begins number, afterDateTime_integerText, refused]
  · have begins_ahead : integerText z ++ '\n' :: more = c :: (rest ++ '\n' :: more) := by
      rw [begins, List.cons_append]
    rw [readValue_of_number begins_ahead number, afterDateTime_append_newline, afterDateTime_integerText,
      readNumber_append_newline, refused]
    rfl

end FillInStory.Toml
