import FillInStory.Proofs.Calendar
import FillInStory.Proofs.Numeral

/-! # Reading an instant from its text

RFC 3339 writes a moment as the date and the time of the day, with the second 60 during a leap second and with any
number of digits for the fraction of the second. A reader of such texts that knows nothing of how instants are written
finds in the text of an instant the very second of the instant, and its nanoseconds but for those that do not make up
a microsecond. So the texts of two instants agree exactly if the instants agree in this.
-/

namespace FillInStory

/-- A date and a time of the day, both in universal time. -/
structure DateTime where
  date : Date
  hour : Nat
  minute : Nat
  second : Nat
  nanos : Nat
  deriving DecidableEq, Repr

namespace DateTime

/-- The moments that there are; a minute may end with a leap second. -/
structure IsValid (moment : DateTime) : Prop where
  date : moment.date.IsValid
  hour : moment.hour ≤ 23
  minute : moment.minute ≤ 59
  second : moment.second ≤ 60
  nanos : moment.nanos < 1000000000

instance (moment : DateTime) : Decidable moment.IsValid :=
  decidable_of_iff (moment.date.IsValid ∧ moment.hour ≤ 23 ∧ moment.minute ≤ 59 ∧ moment.second ≤ 60 ∧
      moment.nanos < 1000000000)
    ⟨fun h => ⟨h.1, h.2.1, h.2.2.1, h.2.2.2.1, h.2.2.2.2⟩, fun h => ⟨h.date, h.hour, h.minute, h.second, h.nanos⟩⟩

/-- The number of seconds since the start of 1970. A leap second does not count, it goes on with the one before. -/
def seconds (moment : DateTime) : Int :=
  moment.date.dayNumber * 86400 + (moment.hour * 3600 + moment.minute * 60 + min moment.second 59 : Nat)

/-- The number of nanoseconds in this second, which is two seconds long if it is followed by a leap second. -/
def nanoseconds (moment : DateTime) : Nat :=
  moment.nanos + if moment.second = 60 then 1000000000 else 0

end DateTime

/-! ## The reader -/

namespace Text

/-- The digits at the start of a text, if there are enough, and what follows them. -/
def digits? (least : Nat) (t : Text) : Option (Text × Text) :=
  let digits := t.takeWhile Char.isDigit
  if least ≤ digits.length then some (digits, t.dropWhile Char.isDigit) else none

/-- The number behind a separator, written with two digits. -/
def part? (separator : Char) : Text → Option (Nat × Text)
  | [] => none
  | c :: t => do
    guard (c = separator)
    let (digits, rest) ← digits? 2 t
    guard (digits.length = 2)
    some (Nat.ofDigitChars 10 digits 0, rest)

/-- A year with four digits; only years that these cannot write have a sign, and may have more digits. -/
def year? : Text → Option (Int × Text)
  | '+' :: t => do
    let (digits, rest) ← digits? 4 t
    guard (9999 < Nat.ofDigitChars 10 digits 0)
    some (Nat.ofDigitChars 10 digits 0, rest)
  | '-' :: t => do
    let (digits, rest) ← digits? 4 t
    guard (0 < Nat.ofDigitChars 10 digits 0)
    some (-Nat.ofDigitChars 10 digits 0, rest)
  | t => do
    let (digits, rest) ← digits? 4 t
    guard (digits.length = 4)
    some (Nat.ofDigitChars 10 digits 0, rest)

/-- The nanoseconds of a fraction of a second, which need not be there. -/
def fraction? : Text → Option (Nat × Text)
  | '.' :: t => do
    let (digits, rest) ← digits? 1 t
    guard (digits.length ≤ 9)
    some (Nat.ofDigitChars 10 digits 0 * 10 ^ (9 - digits.length), rest)
  | t => some (0, t)

end Text

/-- The date and time that a text writes in the form of RFC 3339, in universal time. -/
def DateTime.read? (t : Text) : Option DateTime := do
  let (year, t) ← Text.year? t
  let (month, t) ← Text.part? '-' t
  let (day, t) ← Text.part? '-' t
  let (hour, t) ← Text.part? 'T' t
  let (minute, t) ← Text.part? ':' t
  let (second, t) ← Text.part? ':' t
  let (nanos, t) ← Text.fraction? t
  guard (t = ['Z'])
  let moment : DateTime := ⟨⟨year, month, day⟩, hour, minute, second, nanos⟩
  guard moment.IsValid
  some moment

/-! ## Reading what is written -/

namespace Text

variable {rest : Text}

/-- A number that fits into the width fills it. -/
theorem length_decimalPadded_of_lt {width n : Nat} (pos : 0 < width) (bound : n < 10 ^ width) :
    (decimalPadded width n).length = width := by
  have short : (decimal n).length ≤ width := (Nat.length_toDigits_le_iff (by decide) pos).mpr bound
  rw [length_decimalPadded]
  exact Nat.max_eq_left short

/-- Digits are read up to where they stop. -/
theorem digits?_decimalPadded {least width : Nat} (enough : least ≤ width) (n : Nat)
    (stops : rest.takeWhile Char.isDigit = []) :
    digits? least (decimalPadded width n ++ rest) = some (decimalPadded width n, rest) := by
  have digits : ∀ c ∈ decimalPadded width n, c.isDigit := fun c => isDigit_of_mem_decimalPadded
  have long : least ≤ (decimalPadded width n).length := by
    rw [length_decimalPadded]
    exact enough.trans (Nat.le_max_left ..)
  have kept : rest.dropWhile Char.isDigit = rest := by
    simpa [stops] using List.takeWhile_append_dropWhile (p := Char.isDigit) (l := rest)
  simp only [digits?, List.takeWhile_append_of_pos digits, List.dropWhile_append_of_pos digits, stops,
    List.append_nil, kept, if_pos long]

theorem part?_decimalPadded {n : Nat} (bound : n < 100) (separator : Char)
    (stops : rest.takeWhile Char.isDigit = []) :
    part? separator (separator :: (decimalPadded 2 n ++ rest)) = some (n, rest) := by
  have two : (decimalPadded 2 n).length = 2 := length_decimalPadded_of_lt (by decide) bound
  simp [part?, digits?_decimalPadded (Nat.le_refl 2) n stops, two, ofDigitChars_decimalPadded]

/-- What begins with a digit has no sign. -/
theorem year?_of_four_digits {n : Nat} (bound : n < 10000) (stops : rest.takeWhile Char.isDigit = []) :
    year? (decimalPadded 4 n ++ rest) = some ((n : Int), rest) := by
  have four : (decimalPadded 4 n).length = 4 := length_decimalPadded_of_lt (by decide) bound
  have read := digits?_decimalPadded (Nat.le_refl 4) n stops
  obtain ⟨c, others, split⟩ := List.exists_cons_of_length_eq_add_one four
  have digit : c.isDigit := isDigit_of_mem_decimalPadded (split ▸ List.mem_cons_self)
  have value := ofDigitChars_decimalPadded 4 n
  rw [split] at four read value ⊢
  rw [List.cons_append] at read ⊢
  -- the digit keeps the text out of the two cases with a sign
  rw [year?]
  · simp [read, four, value]
  · rintro t ⟨⟩
    exact absurd digit (by decide)
  · rintro t ⟨⟩
    exact absurd digit (by decide)

/-- A year is read back, with the sign that its text has. -/
theorem year?_yearText (year : Int) (stops : rest.takeWhile Char.isDigit = []) :
    year? (Date.yearText year ++ rest) = some (year, rest) := by
  obtain ⟨n, abs⟩ : ∃ n, year.natAbs = n := ⟨_, rfl⟩
  have read := digits?_decimalPadded (Nat.le_refl 4) n stops
  have value := ofDigitChars_decimalPadded 4 n
  by_cases four : 0 ≤ year ∧ year ≤ 9999
  · have same : year.toNat = n := by omega
    have text : Date.yearText year = decimalPadded 4 n := by
      simp [Date.yearText, four, same]
    rw [text, year?_of_four_digits (by omega) stops, show (n : Int) = year by omega]
  · by_cases negative : year < 0
    · have same : -(n : Int) = year := by omega
      have nonzero : 0 < n := by omega
      have text : Date.yearText year = '-' :: decimalPadded 4 n := by
        simp [Date.yearText, negative, abs]
      rw [text, List.cons_append]
      simp [year?, read, value, nonzero, same]
    · have same : (n : Int) = year := by omega
      have large : 9999 < n := by omega
      have text : Date.yearText year = '+' :: decimalPadded 4 n := by
        have tooLarge : ¬ year ≤ 9999 := by omega
        simp [Date.yearText, negative, tooLarge, abs]
      rw [text, List.cons_append]
      simp [year?, read, value, large, same]

/-- A number of microseconds is read as nanoseconds. -/
theorem fraction?_decimalPadded {micros : Nat} (bound : micros < 1000000)
    (stops : rest.takeWhile Char.isDigit = []) :
    fraction? ('.' :: (decimalPadded 6 micros ++ rest)) = some (micros * 1000, rest) := by
  have six : (decimalPadded 6 micros).length = 6 := length_decimalPadded_of_lt (by decide) bound
  simp [fraction?, digits?_decimalPadded (show 1 ≤ 6 by decide) micros stops, six, ofDigitChars_decimalPadded]

end Text

namespace DateTime

/-- A date and time in the form of RFC 3339, with six digits for the fraction of the second. -/
def text (moment : DateTime) : Text :=
  Date.yearText moment.date.year ++
    '-' :: (Text.decimalPadded 2 moment.date.month ++
    '-' :: (Text.decimalPadded 2 moment.date.day ++
    'T' :: (Text.decimalPadded 2 moment.hour ++
    ':' :: (Text.decimalPadded 2 moment.minute ++
    ':' :: (Text.decimalPadded 2 moment.second ++
    '.' :: (Text.decimalPadded 6 (moment.nanos / 1000) ++ ['Z']))))))

/-- A date and time are read back if they have no part of a microsecond. -/
theorem read?_text {moment : DateTime} (valid : moment.IsValid) (whole : 1000 ∣ moment.nanos) :
    read? moment.text = some moment := by
  obtain ⟨⟨year, month, day⟩, hour, minute, second, nanos⟩ := moment
  obtain ⟨micros, rfl⟩ := whole
  have monthBound : month < 100 := Nat.lt_of_le_of_lt valid.date.month.2 (by decide)
  have dayBound : day < 100 :=
    Nat.lt_of_le_of_lt (valid.date.day.2.trans (Date.daysInMonth_le year month)) (by decide)
  have hourBound : hour < 100 := Nat.lt_of_le_of_lt valid.hour (by decide)
  have minuteBound : minute < 100 := Nat.lt_of_le_of_lt valid.minute (by decide)
  have secondBound : second < 100 := Nat.lt_of_le_of_lt valid.second (by decide)
  have microsBound : micros < 1000000 := Nat.lt_of_mul_lt_mul_left (a := 1000) valid.nanos
  have stops (c : Char) (separator : c.isDigit = false) (t : Text) : (c :: t).takeWhile Char.isDigit = [] :=
    List.takeWhile_cons_of_neg (by simp [separator])
  -- Each part is read off in turn, up to the separator behind it.
  simp only [read?, text, Option.bind_eq_bind, Option.bind_some, Text.year?_yearText year (stops '-' rfl _),
    Text.part?_decimalPadded monthBound '-' (stops '-' rfl _),
    Text.part?_decimalPadded dayBound '-' (stops 'T' rfl _),
    Text.part?_decimalPadded hourBound 'T' (stops ':' rfl _),
    Text.part?_decimalPadded minuteBound ':' (stops ':' rfl _),
    Text.part?_decimalPadded secondBound ':' (stops '.' rfl _),
    Nat.mul_div_right micros (show 0 < 1000 by decide),
    Text.fraction?_decimalPadded microsBound (stops 'Z' rfl _), Nat.mul_comm micros 1000, guard_true, valid]
  rfl

end DateTime

theorem validNanos_iff (seconds : Int) (nanos : Nat) :
    validNanos seconds nanos ↔
      nanos < 1000000000 ∨ 1000000000 ≤ nanos ∧ nanos < 2000000000 ∧ seconds % 60 = 59 := by
  simp only [validNanos, Bool.or_eq_true, Bool.and_eq_true, decide_eq_true_eq, beq_iff_eq]
  omega

namespace Instant

/-- The date and time of an instant, but for what does not make up a microsecond. -/
def dateTime (instant : Instant) : DateTime where
  date := Date.ofDays (instant.seconds / 86400)
  hour := (instant.seconds % 86400).toNat / 3600
  minute := (instant.seconds % 86400).toNat / 60 % 60
  second := (instant.seconds % 86400).toNat % 60 + if instant.nanos < 1000000000 then 0 else 1
  nanos := instant.nanos % 1000000000 / 1000 * 1000

/-- Only the last second of a minute goes on into a leap second. -/
theorem leap (instant : Instant) :
    instant.nanos < 1000000000 ∨
      1000000000 ≤ instant.nanos ∧ instant.nanos < 2000000000 ∧ instant.seconds % 60 = 59 :=
  (validNanos_iff _ _).mp instant.valid

theorem second_dateTime (instant : Instant) :
    instant.dateTime.second ≤ 60 ∧ (instant.dateTime.second = 60 ↔ 1000000000 ≤ instant.nanos) := by
  have leap := instant.leap
  simp only [dateTime]
  split <;> omega

theorem isValid_dateTime (instant : Instant) : instant.dateTime.IsValid where
  date := (Date.ofDays_spec _).1
  hour := by
    simp only [dateTime]
    omega
  minute := by
    simp only [dateTime]
    omega
  second := instant.second_dateTime.1
  nanos := by
    simp only [dateTime]
    omega

theorem seconds_dateTime (instant : Instant) : instant.dateTime.seconds = instant.seconds := by
  have leap := instant.leap
  simp only [DateTime.seconds, dateTime, (Date.ofDays_spec _).2]
  split <;> omega

theorem nanoseconds_dateTime (instant : Instant) :
    instant.dateTime.nanoseconds = instant.nanos / 1000 * 1000 := by
  have leap := instant.leap
  have last := instant.second_dateTime.2
  simp only [DateTime.nanoseconds, last]
  simp only [dateTime]
  split <;> omega

theorem text_eq (instant : Instant) : instant.text = instant.dateTime.text := by
  simp [text, dateTime, DateTime.text, Date.text]

theorem read?_text (instant : Instant) : DateTime.read? instant.text = some instant.dateTime := by
  rw [text_eq]
  exact DateTime.read?_text instant.isValid_dateTime (Nat.dvd_mul_left ..)

theorem text_eq_text_iff (first second : Instant) :
    first.text = second.text ↔ first.seconds = second.seconds ∧ first.nanos / 1000 = second.nanos / 1000 := by
  constructor
  · intro same
    have read : first.dateTime = second.dateTime := by
      have both := congrArg DateTime.read? same
      rw [read?_text, read?_text] at both
      exact Option.some.inj both
    refine ⟨?_, ?_⟩
    · rw [← seconds_dateTime, ← seconds_dateTime, read]
    · have micros : first.nanos / 1000 * 1000 = second.nanos / 1000 * 1000 := by
        rw [← nanoseconds_dateTime, ← nanoseconds_dateTime, read]
      omega
  · rintro ⟨seconds, micros⟩
    have leap : first.nanos < 1000000000 ↔ second.nanos < 1000000000 := by omega
    have fraction : first.nanos % 1000000000 / 1000 = second.nanos % 1000000000 / 1000 := by omega
    rw [text_eq, text_eq]
    simp only [dateTime, seconds, leap, fraction]

/-- The instants that there are lie in the years from -262143 to 262142. -/
theorem exists_ofUnix?_iff (seconds : Int) (nanos : Nat) :
    (∃ instant, ofUnix? seconds nanos = some instant ∧ instant.seconds = seconds ∧ instant.nanos = nanos) ↔
      (-262143 ≤ (Date.ofDays (seconds / 86400)).year ∧ (Date.ofDays (seconds / 86400)).year ≤ 262142) ∧
        (nanos < 1000000000 ∨ 1000000000 ≤ nanos ∧ nanos < 2000000000 ∧ seconds % 60 = 59) := by
  have first : -262143 ≤ (Date.ofDays (seconds / 86400)).year ↔ firstSecond ≤ seconds := by
    rw [Date.le_year_ofDays_iff, show Date.newYear (-262143) = firstSecond / 86400 by rfl]
    unfold firstSecond
    omega
  have last : (Date.ofDays (seconds / 86400)).year ≤ 262142 ↔ seconds ≤ lastSecond := by
    rw [← not_lt, Int.lt_iff_add_one_le, Date.le_year_ofDays_iff,
      show Date.newYear (262142 + 1) = (lastSecond + 1) / 86400 by rfl]
    unfold lastSecond
    omega
  rw [first, last, ← validNanos_iff, ofUnix?]
  split
  · next there => exact iff_of_true ⟨_, rfl, rfl, rfl⟩ there
  · next absent => simpa using absent

/-- The text of every instant is a date and time of RFC 3339, of the date that the calendar has for the day, and read
as such it gives the second of the instant, its nanoseconds cut to whole microseconds and the second 60 in leap seconds
only. Two instants have the same text exactly if they agree in the second and in the microsecond. -/
theorem text_reads_back :
    (∀ (seconds : Int) (nanos : Nat),
      (∃ instant, ofUnix? seconds nanos = some instant ∧ instant.seconds = seconds ∧ instant.nanos = nanos) ↔
        (-262143 ≤ (Date.ofDays (seconds / 86400)).year ∧ (Date.ofDays (seconds / 86400)).year ≤ 262142) ∧
          (nanos < 1000000000 ∨ 1000000000 ≤ nanos ∧ nanos < 2000000000 ∧ seconds % 60 = 59)) ∧
    (Date.ofDays 0 = ⟨1970, 1, 1⟩ ∧
      ∀ days, (Date.ofDays days).IsValid ∧ (Date.ofDays days).dayNumber = days ∧
        Date.ofDays (days + 1) = (Date.ofDays days).next) ∧
    (∀ instant : Instant, ∃ moment, DateTime.read? instant.text = some moment ∧
      moment.date = Date.ofDays (instant.seconds / 86400) ∧
      moment.seconds = instant.seconds ∧ moment.nanoseconds = instant.nanos / 1000 * 1000 ∧
      (moment.second = 60 ↔ 1000000000 ≤ instant.nanos)) ∧
    ∀ first second : Instant, first.text = second.text ↔
      first.seconds = second.seconds ∧ first.nanos / 1000 = second.nanos / 1000 := by
  refine ⟨exists_ofUnix?_iff, ⟨by decide, ?_⟩, ?_, text_eq_text_iff⟩
  · intro days
    obtain ⟨valid, number⟩ := Date.ofDays_spec days
    exact ⟨valid, number, Date.ofDays_succ days⟩
  · intro instant
    exact ⟨instant.dateTime, instant.read?_text, rfl, instant.seconds_dateTime, instant.nanoseconds_dateTime,
      instant.second_dateTime.2⟩

/-- A leap second at the end of a year that has five digits. -/
example : (ofUnix? 253433923199 1999999999).map text = some "+10000-12-31T23:59:60.999999Z" := by decide +kernel

end Instant

end FillInStory
