import FillInStory.Time.Instant
import Mathlib.Order.SuccPred.Basic
import Mathlib.Tactic.IntervalCases

/-! # The dates of the calendar

The Gregorian calendar is defined by its leap years, the lengths of its months and the date that follows a date. Days
are counted here from one new year to the next. The date of a day is computed in another way, with years that begin
in March; but it is the date with that number, and so consecutive days have consecutive dates.
-/

namespace FillInStory.Date

/-- Every fourth year is a leap year, but of those that end a century only every fourth. -/
def isLeapYear (year : Int) : Bool := year % 4 = 0 && (year % 100 ≠ 0 || year % 400 = 0)

def daysInMonth (year : Int) (month : Nat) : Nat :=
  if month = 2 then if isLeapYear year then 29 else 28
  else if month = 4 ∨ month = 6 ∨ month = 9 ∨ month = 11 then 30
  else 31

/-- The dates that there are. -/
structure IsValid (date : Date) : Prop where
  month : 1 ≤ date.month ∧ date.month ≤ 12
  day : 1 ≤ date.day ∧ date.day ≤ daysInMonth date.year date.month

instance (date : Date) : Decidable date.IsValid :=
  decidable_of_iff ((1 ≤ date.month ∧ date.month ≤ 12) ∧ 1 ≤ date.day ∧ date.day ≤ daysInMonth date.year date.month)
    ⟨fun h => ⟨h.1, h.2⟩, fun h => ⟨h.month, h.day⟩⟩

def next (date : Date) : Date :=
  if date.day < daysInMonth date.year date.month then ⟨date.year, date.month, date.day + 1⟩
  else if date.month < 12 then ⟨date.year, date.month + 1, 1⟩
  else ⟨date.year + 1, 1, 1⟩

/-! ## Counting days -/

/-- The day on which a year begins, counted from the start of 1970. Up to then there were 477 leap days. -/
def newYear (year : Int) : Int :=
  365 * (year - 1970) + ((year - 1) / 4 - (year - 1) / 100 + (year - 1) / 400) - 477

def daysOfMonths (year : Int) : Nat → Nat
  | 0 => 0
  | month + 1 => daysOfMonths year month + daysInMonth year (month + 1)

/-- The number of a date, counted from the start of 1970. -/
def dayNumber (date : Date) : Int :=
  newYear date.year + (daysOfMonths date.year (date.month - 1) + (date.day - 1) : Nat)

theorem isLeapYear_iff (year : Int) : isLeapYear year ↔ year % 4 = 0 ∧ (year % 100 ≠ 0 ∨ year % 400 = 0) := by
  simp [isLeapYear]

theorem daysInMonth_pos (year : Int) (month : Nat) : 0 < daysInMonth year month := by
  unfold daysInMonth
  split_ifs <;> omega

theorem daysInMonth_le (year : Int) (month : Nat) : daysInMonth year month ≤ 31 := by
  unfold daysInMonth
  split_ifs <;> omega

/-- A year ends with the last of its months. -/
theorem newYear_succ (year : Int) : newYear (year + 1) = newYear year + daysOfMonths year 12 := by
  have months : daysOfMonths year 12 = if isLeapYear year then 366 else 365 := by
    simp [daysOfMonths, daysInMonth]
    split <;> rfl
  rw [months]
  unfold newYear
  split
  · next leap =>
    rw [isLeapYear_iff] at leap
    push_cast
    omega
  · next common =>
    rw [isLeapYear_iff] at common
    push_cast
    omega

theorem strictMono_daysOfMonths (year : Int) : StrictMono (daysOfMonths year) :=
  strictMono_nat_of_lt_succ fun month => by
    have long := daysInMonth_pos year (month + 1)
    simp only [daysOfMonths]
    omega

theorem newYear_lt_newYear_iff (year other : Int) : newYear year < newYear other ↔ year < other := by
  refine (strictMono_int_of_lt_succ fun year => ?_).lt_iff_lt
  have long : daysOfMonths year 0 < daysOfMonths year 12 := strictMono_daysOfMonths year (by decide)
  rw [newYear_succ]
  simp only [daysOfMonths] at long ⊢
  omega

theorem daysOfMonths_of_pos (year : Int) {month : Nat} (pos : 1 ≤ month) :
    daysOfMonths year month = daysOfMonths year (month - 1) + daysInMonth year month := by
  obtain ⟨before, rfl⟩ := Nat.exists_eq_add_of_le' pos
  rfl

variable {date other : Date}

/-- A date lies in its month. -/
theorem IsValid.within_month (valid : date.IsValid) :
    daysOfMonths date.year (date.month - 1) + (date.day - 1) < daysOfMonths date.year date.month := by
  obtain ⟨month, day⟩ := valid
  rw [daysOfMonths_of_pos date.year month.1]
  omega

/-- A date lies in its year. -/
theorem IsValid.within_year (valid : date.IsValid) :
    newYear date.year ≤ date.dayNumber ∧ date.dayNumber < newYear (date.year + 1) := by
  have inMonth := valid.within_month
  have last : daysOfMonths date.year date.month ≤ daysOfMonths date.year 12 :=
    (strictMono_daysOfMonths date.year).monotone valid.month.2
  rw [newYear_succ]
  unfold dayNumber
  omega

theorem year_le_of_dayNumber_le (valid : date.IsValid) (validOther : other.IsValid)
    (order : date.dayNumber ≤ other.dayNumber) : date.year ≤ other.year := by
  have begins := valid.within_year.1
  have ends := validOther.within_year.2
  exact Int.lt_add_one_iff.mp ((newYear_lt_newYear_iff _ _).mp (by omega))

theorem month_le_of_dayNumber_le (validOther : other.IsValid) (year : date.year = other.year)
    (order : date.dayNumber ≤ other.dayNumber) : date.month ≤ other.month := by
  have inMonth := validOther.within_month
  unfold dayNumber at order
  rw [year] at order
  have before := (strictMono_daysOfMonths other.year).lt_iff_lt.mp
    (show daysOfMonths other.year (date.month - 1) < daysOfMonths other.year other.month by omega)
  omega

/-- Different dates have different numbers. -/
theorem eq_of_dayNumber_eq (valid : date.IsValid) (validOther : other.IsValid)
    (same : date.dayNumber = other.dayNumber) : date = other := by
  have year : date.year = other.year := le_antisymm (year_le_of_dayNumber_le valid validOther same.le)
    (year_le_of_dayNumber_le validOther valid same.ge)
  have month : date.month = other.month := le_antisymm (month_le_of_dayNumber_le validOther year same.le)
    (month_le_of_dayNumber_le valid year.symm same.ge)
  have first := valid.day.1
  have firstOther := validOther.day.1
  unfold dayNumber at same
  rw [year, month] at same
  obtain ⟨y, m, d⟩ := date
  obtain ⟨y', m', d'⟩ := other
  obtain rfl : y = y' := year
  obtain rfl : m = m' := month
  congr 1
  simp only at same first firstOther
  omega

/-- The date after one that there is is there too, and has the next number. -/
theorem IsValid.next (valid : date.IsValid) : date.next.IsValid ∧ date.next.dayNumber = date.dayNumber + 1 := by
  obtain ⟨y, m, d⟩ := date
  obtain ⟨⟨january, december⟩, first, last⟩ := valid
  simp only at january december first last
  simp only [Date.next]
  split_ifs with inside notLast
  · refine ⟨⟨⟨january, december⟩, Nat.le_add_left .., inside⟩, ?_⟩
    simp only [dayNumber]
    omega
  · have months := daysOfMonths_of_pos y january
    have long := daysInMonth_pos y (m + 1)
    refine ⟨⟨⟨Nat.le_add_left .., notLast⟩, Nat.le_refl _, long⟩, ?_⟩
    simp only [dayNumber, Nat.add_sub_cancel]
    omega
  · have months := daysOfMonths_of_pos y january
    have long := daysInMonth_pos (y + 1) 1
    have year := newYear_succ y
    obtain rfl : m = 12 := by omega
    have none : daysOfMonths (y + 1) 0 = 0 := rfl
    refine ⟨⟨⟨Nat.le_refl _, Nat.le_add_left 1 11⟩, Nat.le_refl _, long⟩, ?_⟩
    simp only [dayNumber, Nat.sub_self, none]
    omega

/-! ## The date of a day -/

/-- The date so many days after the first of March of a year. -/
def ofMarch (year : Int) (dayOfYear : Nat) : Date :=
  let monthFromMarch := (5 * dayOfYear + 2) / 153
  let month := if monthFromMarch < 10 then monthFromMarch + 3 else monthFromMarch - 9
  ⟨year + (if month ≤ 2 then 1 else 0), month, dayOfYear - (153 * monthFromMarch + 2) / 5 + 1⟩

/-- A year that begins in March has its leap day at its end. -/
theorem isValid_ofMarch {year : Int} {dayOfYear : Nat} (within : dayOfYear ≤ 365)
    (leapDay : dayOfYear = 365 → isLeapYear (year + 1)) : (ofMarch year dayOfYear).IsValid := by
  obtain ⟨m, month⟩ : ∃ m, m = (5 * dayOfYear + 2) / 153 := ⟨_, rfl⟩
  have last : m ≤ 11 := by omega
  simp only [ofMarch, ← month]
  refine ⟨?_, Nat.le_add_left .., ?_⟩
  · simp only
    split_ifs <;> omega
  · by_cases february : m = 11
    · subst february
      by_cases leap : isLeapYear (year + 1)
      · simp [daysInMonth, leap]
        omega
      · have common := mt leapDay leap
        simp [daysInMonth, leap]
        omega
    · have short : m ≤ 10 := by omega
      clear leapDay
      interval_cases m <;> simp [daysInMonth] <;> omega

theorem daysOfMonths_spring (year : Int) {m : Nat} (spring : m < 10) :
    (daysOfMonths year (m + 2) : Int) = newYear (year + 1) - 306 - newYear year + (153 * m + 2) / 5 := by
  rw [newYear_succ]
  interval_cases m <;> simp [daysOfMonths, daysInMonth] <;> omega

/-- The months from March to December end a year, and the next one begins with the two others. -/
theorem dayNumber_ofMarch {year : Int} {dayOfYear : Nat} (within : dayOfYear ≤ 365) :
    (ofMarch year dayOfYear).dayNumber = newYear (year + 1) - 306 + dayOfYear := by
  obtain ⟨m, month⟩ : ∃ m, m = (5 * dayOfYear + 2) / 153 := ⟨_, rfl⟩
  have first : (153 * m + 2) / 5 ≤ dayOfYear := by omega
  simp only [ofMarch, ← month]
  by_cases spring : m < 10
  · have months := daysOfMonths_spring year spring
    have sameYear : ¬ m + 3 ≤ 2 := by omega
    simp only [dayNumber, if_pos spring, if_neg sameYear, Nat.add_sub_cancel, Int.add_zero,
      show m + 3 - 1 = m + 2 from rfl]
    omega
  · obtain rfl | rfl : m = 10 ∨ m = 11 := by omega
    · have none : daysOfMonths (year + 1) 0 = 0 := rfl
      change newYear (year + 1) + (daysOfMonths (year + 1) 0 + (dayOfYear - 306 + 1 - 1) : Nat) = _
      omega
    · have january : daysOfMonths (year + 1) 1 = 31 := rfl
      change newYear (year + 1) + (daysOfMonths (year + 1) 1 + (dayOfYear - 337 + 1 - 1) : Nat) = _
      omega

/-- Where a day stands in an era of 400 years from March on: its century, the four years in this, the year in these
and the day in that. The fourth year of four is the only one with a 366th day, and the last four years of a century
have none unless they end the era. -/
structure InEra (dayOfEra century quad year day : Nat) : Prop where
  total : dayOfEra = 36524 * century + 1461 * quad + 365 * year + day
  century_le : century ≤ 3
  quad_le : quad ≤ 24
  year_le : year ≤ 3
  day_le : day ≤ 365
  leapDay : day = 365 → year = 3 ∧ (quad < 24 ∨ century = 3)

theorem exists_inEra {dayOfEra : Nat} (within : dayOfEra < 146097) :
    ∃ century quad year day, InEra dayOfEra century quad year day := by
  let century := min (dayOfEra / 36524) 3
  let quad := (dayOfEra - 36524 * century) / 1461
  let year := min ((dayOfEra - 36524 * century) % 1461 / 365) 3
  refine ⟨century, quad, year, (dayOfEra - 36524 * century) % 1461 - 365 * year, ?_, ?_, ?_, ?_, ?_, ?_⟩ <;> omega

namespace InEra

variable {dayOfEra c q y d : Nat}

/-- Centuries of 36524 days have gone by, and at the last day of the era one more. -/
theorem centuries (place : InEra dayOfEra c q y d) : dayOfEra / 36524 = c + dayOfEra / 146096 := by
  obtain ⟨total, century, quad, year, day, leapDay⟩ := place
  have ends : dayOfEra < 36524 * (c + 1) ∨ dayOfEra = 146096 ∧ c = 3 := by omega
  rcases ends with inside | ⟨rfl, rfl⟩
  · have whole : dayOfEra / 36524 = c := by omega
    have era : dayOfEra / 146096 = 0 := by omega
    rw [whole, era, Nat.add_zero]
  · rfl

/-- Without the leap days that have gone by, all years are equally long. -/
theorem yearOfEra (place : InEra dayOfEra c q y d) :
    (dayOfEra - dayOfEra / 1460 + dayOfEra / 36524 - dayOfEra / 146096) / 365 = 100 * c + 4 * q + y := by
  obtain ⟨total, century, quad, year, day, leapDay⟩ := id place
  have leaps : dayOfEra / 1460 = 25 * c + q + (24 * c + q + 365 * y + d) / 1460 := by
    clear leapDay
    omega
  have extra : (24 * c + q + 365 * y + d) / 1460 ≤ d ∧ d ≤ (24 * c + q + 365 * y + d) / 1460 + 364 := by
    clear total leaps
    omega
  rw [place.centuries, leaps]
  generalize (24 * c + q + 365 * y + d) / 1460 = leap at extra
  generalize dayOfEra / 146096 = ended
  have common : dayOfEra - (25 * c + q + leap) + (c + ended) - ended =
      365 * (100 * c + 4 * q + y) + (d - leap) := by
    clear leapDay leaps
    omega
  rw [common]
  omega

/-- The day of the year is what the whole years of the era leave. -/
theorem dayOfYear (place : InEra dayOfEra c q y d) :
    dayOfEra - (365 * (100 * c + 4 * q + y) + (100 * c + 4 * q + y) / 4 - (100 * c + 4 * q + y) / 100) = d := by
  obtain ⟨total, century, quad, year, day, -⟩ := place
  have quads : (100 * c + 4 * q + y) / 4 = 25 * c + q := by omega
  have centuries : (100 * c + 4 * q + y) / 100 = c := by omega
  omega

end InEra

/-- Each day is the day of some year from March on. -/
theorem exists_ofDays_eq (days : Int) :
    ∃ (year : Int) (dayOfYear : Nat), ofDays days = ofMarch year dayOfYear ∧ dayOfYear ≤ 365 ∧
      (dayOfYear = 365 → isLeapYear (year + 1)) ∧ days = newYear (year + 1) - 306 + dayOfYear := by
  obtain ⟨era, eraIs⟩ : ∃ era, era = (days + 719468) / 146097 := ⟨_, rfl⟩
  obtain ⟨dayOfEra, dayIs⟩ : ∃ dayOfEra, dayOfEra = ((days + 719468) % 146097).toNat := ⟨_, rfl⟩
  have total : days = 146097 * era + dayOfEra - 719468 := by omega
  have within : dayOfEra < 146097 := by omega
  obtain ⟨c, q, y, d, place⟩ := exists_inEra within
  refine ⟨(100 * c + 4 * q + y : Nat) + era * 400, d, ?_, place.day_le, ?_, ?_⟩
  · simp only [ofDays, ofMarch, ← eraIs, ← dayIs, place.yearOfEra, place.dayOfYear]
  · intro last
    obtain ⟨rfl, ends⟩ := place.leapDay last
    have := place.quad_le
    rw [isLeapYear_iff]
    push_cast
    omega
  · obtain ⟨parts, century, quad, year, -, -⟩ := place
    have quads : (100 * (c : Int) + 4 * q + y + era * 400) / 4 = 25 * c + q + 100 * era := by omega
    have centuries : (100 * (c : Int) + 4 * q + y + era * 400) / 100 = c + 4 * era := by omega
    have eras : (100 * (c : Int) + 4 * q + y + era * 400) / 400 = era := by omega
    unfold newYear
    push_cast
    rw [Int.add_sub_cancel, quads, centuries, eras]
    omega

/-- The date of a day is there, and its number is that of the day. -/
theorem ofDays_spec (days : Int) : (ofDays days).IsValid ∧ (ofDays days).dayNumber = days := by
  obtain ⟨year, dayOfYear, same, within, leapDay, total⟩ := exists_ofDays_eq days
  rw [same]
  exact ⟨isValid_ofMarch within leapDay, (dayNumber_ofMarch within).trans total.symm⟩

/-- The calendar goes on from one day to the next. -/
theorem ofDays_succ (days : Int) : ofDays (days + 1) = (ofDays days).next := by
  obtain ⟨valid, number⟩ := ofDays_spec days
  obtain ⟨validNext, numberNext⟩ := valid.next
  obtain ⟨validSucc, numberSucc⟩ := ofDays_spec (days + 1)
  exact eq_of_dayNumber_eq validSucc validNext (by omega)

theorem le_year_ofDays_iff (year days : Int) : year ≤ (ofDays days).year ↔ newYear year ≤ days := by
  obtain ⟨valid, number⟩ := ofDays_spec days
  obtain ⟨begins, ends⟩ := valid.within_year
  rw [number] at begins ends
  constructor
  · intro reached
    have order : newYear year ≤ newYear (ofDays days).year :=
      not_lt.mp (mt (newYear_lt_newYear_iff _ _).mp (not_lt.mpr reached))
    exact order.trans begins
  · intro reached
    exact Int.lt_add_one_iff.mp ((newYear_lt_newYear_iff _ _).mp (reached.trans_lt ends))

end FillInStory.Date
