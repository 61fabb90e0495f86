import Mathlib.Algebra.GroupWithZero.Nat
import InventoryIds.Instant

/-!
# The Gregorian calendar

Dates are counted by the days in front of them: those of the years, of the months and of the month
(`CivilTime.dayNumber`). The civil date of an instant is the date of the calendar with the number of
the instant's day (`dayNumber_civil`), and dates stand in the order of these numbers
(`dateBefore_of_dayNumber_lt`). So a later instant has no earlier date and time (`civil_notAfter`).
-/

namespace InventoryIds

namespace Calendar

def leapYear (year : Int) : Bool :=
  year % 4 = 0 ∧ (year % 100 ≠ 0 ∨ year % 400 = 0)

/-- The days from the first day of the year 1 to the first day of a year. -/
def daysToYear (year : Int) : Int :=
  365 * (year - 1) + (year - 1) / 4 - (year - 1) / 100 + (year - 1) / 400

/-- The days of a year in front of a month. -/
def daysToMonth (leap : Bool) (month : Nat) : Nat := ((monthLengths leap).take (month - 1)).sum

/-! ### Spans of days -/

/-- A number within the spans is the spans in front of its own and a number within that one. -/
theorem locate_within {spans : List Nat} {n : Nat} (within : n < spans.sum) :
    (locate spans n).2 < spans.getD (locate spans n).1 0 ∧
      n = (spans.take (locate spans n).1).sum + (locate spans n).2 := by
  induction spans generalizing n with
  | nil => cases within
  | cons span spans ih =>
    rw [List.sum_cons] at within
    unfold locate
    split
    · next first => simpa using first
    · next later =>
      obtain ⟨inside, total⟩ := ih (n := n - span) (by omega)
      refine ⟨inside, ?_⟩
      dsimp only
      rw [List.take_succ_cons, List.sum_cons]
      omega

/-- A day of a cycle by its century, its group of four years and its year. Only the last year of a
group has a day more, and the last group of a century only in the last century. -/
theorem exists_yearDay_eq {n : Nat} (within : n < daysPerCycle) :
    ∃ century group year day, yearDay n = ⟨100 * century + 4 * group + year, day⟩ ∧
      century ≤ 3 ∧ group ≤ 24 ∧ year ≤ 3 ∧
      n = 36524 * century + 1461 * group + 365 * year + day ∧ day ≤ 365 ∧
      (day = 365 → year = 3 ∧ (group = 24 → century = 3)) := by
  simp only [daysPerCycle] at within
  refine ⟨_, _, _, _, rfl, ?_⟩
  simp only [daysPerCentury, daysPerGroup, daysPerYear]
  omega

theorem isLeap_iff {century group year : Nat} (group_le : group ≤ 24) (year_le : year ≤ 3)
    (century_le : century ≤ 3) :
    isLeap (100 * century + 4 * group + year) ↔ year = 3 ∧ (group = 24 → century = 3) := by
  simp only [isLeap, decide_eq_true_eq]
  omega

theorem sum_monthLengths (leap : Bool) : (monthLengths leap).sum = 365 + leap.toNat := by
  cases leap <;> rfl

theorem yearDay_within {n : Nat} (within : n < daysPerCycle) :
    (yearDay n).year < 400 ∧ (yearDay n).day < (monthLengths (isLeap (yearDay n).year)).sum ∧
      n + (yearDay n).year / 100 =
        365 * (yearDay n).year + (yearDay n).year / 4 + (yearDay n).day := by
  obtain ⟨century, group, year, day, same, century_le, group_le, year_le, total, day_le, last⟩ :=
    exists_yearDay_eq within
  have leap := isLeap_iff group_le year_le century_le
  rw [same, sum_monthLengths]
  refine ⟨by dsimp only; omega, ?_, by dsimp only; omega⟩
  cases long : isLeap (100 * century + 4 * group + year) with
  | true => exact Nat.lt_succ_of_le day_le
  | false =>
    have short : day ≠ 365 := fun full => by simp [leap.mpr (last full)] at long
    exact Nat.lt_of_le_of_ne day_le short

/-! ### Dates and their days -/

theorem leapYear_eq (cycle : Int) (year : Nat) :
    leapYear (400 * cycle + year + 1) = isLeap year := by
  rw [leapYear, isLeap, decide_eq_decide]
  omega

theorem daysToYear_eq (cycle : Int) {year : Nat} (within : year < 400) :
    daysToYear (400 * cycle + year + 1) + year / 100 =
      daysPerCycle * cycle + 365 * year + year / 4 := by
  simp only [daysToYear, daysPerCycle]
  omega

theorem daysToYear_succ (year : Int) :
    daysToYear (year + 1) = daysToYear year + 365 + (leapYear year).toNat := by
  cases leap : leapYear year with
  | true =>
    have rule := of_decide_eq_true leap
    simp only [daysToYear, Bool.toNat_true]
    omega
  | false =>
    have rule := of_decide_eq_false leap
    simp only [daysToYear, Bool.toNat_false]
    omega

theorem daysToYear_mono {first second : Int} (le : first ≤ second) :
    daysToYear first ≤ daysToYear second := by
  simp only [daysToYear]
  omega

theorem daysToMonth_succ (leap : Bool) {month : Nat} (positive : 1 ≤ month) :
    daysToMonth leap (month + 1) =
      daysToMonth leap month + (monthLengths leap).getD (month - 1) 0 := by
  obtain ⟨place, rfl⟩ := Nat.exists_eq_add_of_le' positive
  simp only [daysToMonth, Nat.add_sub_cancel, List.take_add_one, List.sum_append,
    List.getD_eq_getElem?_getD]
  cases (monthLengths leap)[place]? <;> simp

theorem daysToMonth_mono (leap : Bool) {first second : Nat} (le : first ≤ second) :
    daysToMonth leap first ≤ daysToMonth leap second := by
  -- The months in front of the first one are a prefix of those in front of the second.
  obtain ⟨more, same⟩ := Nat.exists_eq_add_of_le (Nat.sub_le_sub_right le 1)
  rw [daysToMonth, daysToMonth, same, List.take_add, List.sum_append]
  exact Nat.le_add_right _ _

theorem daysToMonth_thirteen (leap : Bool) : daysToMonth leap 13 = 365 + leap.toNat := by
  cases leap <;> rfl

end Calendar

/-! ### Dates -/

namespace CivilTime
open Calendar

def monthLength (time : CivilTime) : Nat :=
  (monthLengths (leapYear time.year)).getD (time.month - 1) 0

structure OnCalendar (time : CivilTime) : Prop where
  month : 1 ≤ time.month ∧ time.month ≤ 12
  day : 1 ≤ time.day ∧ time.day ≤ time.monthLength

/-- The days from the first day of the year 1 to a date. -/
def dayNumber (time : CivilTime) : Int :=
  daysToYear time.year + daysToMonth (leapYear time.year) time.month + (time.day - 1)

def DateBefore (time other : CivilTime) : Prop :=
  time.year < other.year ∨ time.year = other.year ∧
    (time.month < other.month ∨ time.month = other.month ∧ time.day < other.day)

def epoch : CivilTime := ⟨1970, 1, 1, 0, 0, 0⟩

def SameDate (time other : CivilTime) : Prop :=
  time.year = other.year ∧ time.month = other.month ∧ time.day = other.day

/-- Read to the minute, the time is not a later one. -/
def NotAfter (time other : CivilTime) : Prop :=
  time.DateBefore other ∨ time.SameDate other ∧
    (time.hour < other.hour ∨ time.hour = other.hour ∧ time.minute ≤ other.minute)

variable {time other : CivilTime}

theorem OnCalendar.daysToMonth_add_day_le (date : time.OnCalendar) :
    daysToMonth (leapYear time.year) time.month + time.day ≤
      daysToMonth (leapYear time.year) (time.month + 1) := by
  rw [daysToMonth_succ _ date.month.1]
  exact Nat.add_le_add_left date.day.2 _

theorem OnCalendar.dayNumber_lt_daysToYear (date : time.OnCalendar) :
    time.dayNumber < daysToYear (time.year + 1) := by
  have inMonth := date.daysToMonth_add_day_le
  have inYear := daysToMonth_mono (leapYear time.year) (Nat.add_le_add_right date.month.2 1)
  rw [daysToMonth_thirteen] at inYear
  rw [dayNumber, daysToYear_succ]
  omega

theorem dayNumber_lt_dayNumber (date : time.OnCalendar) (otherDate : other.OnCalendar)
    (before : time.DateBefore other) : time.dayNumber < other.dayNumber := by
  have first := otherDate.day.1
  rcases before with year | ⟨sameYear, month | ⟨sameMonth, day⟩⟩
  · have years := daysToYear_mono (Int.add_one_le_of_lt year)
    have behind := date.dayNumber_lt_daysToYear
    have start : daysToYear other.year ≤ other.dayNumber := by
      rw [dayNumber]
      omega
    omega
  · have inMonth := date.daysToMonth_add_day_le
    have months := daysToMonth_mono (leapYear time.year) (Nat.add_one_le_of_lt month)
    rw [dayNumber, dayNumber, ← sameYear]
    omega
  · rw [dayNumber, dayNumber, ← sameYear, ← sameMonth]
    omega

/-- Dates of the calendar stand in the order of their days. -/
theorem dateBefore_of_dayNumber_lt (date : time.OnCalendar) (otherDate : other.OnCalendar)
    (less : time.dayNumber < other.dayNumber) : time.DateBefore other := by
  have order : time.DateBefore other ∨ other.DateBefore time ∨ time.SameDate other := by
    unfold DateBefore SameDate
    omega
  rcases order with before | after | ⟨year, month, day⟩
  · exact before
  · have greater := dayNumber_lt_dayNumber otherDate date after
    omega
  · rw [dayNumber, dayNumber, year, month, day] at less
    exact absurd less (Int.lt_irrefl _)

end CivilTime

/-! ### Instants -/

namespace Instant
open Calendar

/-- The day on the calendar, counted from the first day of the year 1. -/
def dayNumber (instant : Instant) : Int := instant.seconds / secondsPerDay + epochDay

def yearDay (instant : Instant) : YearDay :=
  Calendar.yearDay (instant.dayNumber % daysPerCycle).toNat

/-- The month within the year and the day within the month, both from zero. -/
def monthDay (instant : Instant) : Nat × Nat :=
  locate (monthLengths (isLeap instant.yearDay.year)) instant.yearDay.day

def timeOfDay (instant : Instant) : Nat := (instant.seconds % secondsPerDay).toNat

theorem civil_eq (instant : Instant) :
    instant.civil =
      { year := 400 * (instant.dayNumber / daysPerCycle) + instant.yearDay.year + 1
        month := instant.monthDay.1 + 1
        day := instant.monthDay.2 + 1
        hour := instant.timeOfDay / 3600
        minute := instant.timeOfDay / 60 % 60
        second := instant.timeOfDay % 60 + instant.nanos.val / nanosPerSecond } := by
  simp only [civil, dayNumber, yearDay, monthDay, timeOfDay]

theorem civil_year (instant : Instant) :
    instant.civil.year = 400 * (instant.dayNumber / daysPerCycle) + instant.yearDay.year + 1 := by
  rw [civil_eq]

theorem civil_month (instant : Instant) : instant.civil.month = instant.monthDay.1 + 1 := by
  rw [civil_eq]

theorem civil_day (instant : Instant) : instant.civil.day = instant.monthDay.2 + 1 := by
  rw [civil_eq]

theorem civil_hour (instant : Instant) : instant.civil.hour = instant.timeOfDay / 3600 := by
  rw [civil_eq]

theorem civil_minute (instant : Instant) : instant.civil.minute = instant.timeOfDay / 60 % 60 := by
  rw [civil_eq]

theorem civil_second (instant : Instant) :
    instant.civil.second = instant.timeOfDay % 60 + instant.nanos.val / nanosPerSecond := by
  rw [civil_eq]

theorem dayOfCycle_lt (instant : Instant) :
    (instant.dayNumber % daysPerCycle).toNat < daysPerCycle := by
  simp only [daysPerCycle]
  omega

theorem leapYear_civil (instant : Instant) :
    leapYear instant.civil.year = isLeap instant.yearDay.year := by
  rw [civil_year, leapYear_eq]

theorem monthDay_within (instant : Instant) :
    instant.monthDay.2 < (monthLengths (isLeap instant.yearDay.year)).getD instant.monthDay.1 0 ∧
      instant.yearDay.day =
        ((monthLengths (isLeap instant.yearDay.year)).take instant.monthDay.1).sum +
          instant.monthDay.2 :=
  locate_within (yearDay_within instant.dayOfCycle_lt).2.1

theorem onCalendar_civil (instant : Instant) : instant.civil.OnCalendar := by
  have inMonth := instant.monthDay_within.1
  have listed : instant.monthDay.1 < 12 := by
    refine Nat.lt_of_not_le fun beyond => ?_
    rw [List.getD_eq_getElem?_getD, List.getElem?_eq_none beyond] at inMonth
    exact Nat.not_lt_zero _ inMonth
  constructor
  · rw [civil_month]
    omega
  · rw [CivilTime.monthLength, leapYear_civil, civil_month, civil_day, Nat.add_sub_cancel]
    omega

theorem dayNumber_civil (instant : Instant) : instant.civil.dayNumber = instant.dayNumber := by
  obtain ⟨year_lt, -, inCycle⟩ := yearDay_within instant.dayOfCycle_lt
  have inYear := instant.monthDay_within.2
  have years := daysToYear_eq (instant.dayNumber / daysPerCycle) year_lt
  rw [← yearDay] at years inCycle
  rw [CivilTime.dayNumber, leapYear_civil, civil_year, civil_month, civil_day, daysToMonth,
    Nat.add_sub_cancel]
  simp only [daysPerCycle] at years inCycle ⊢
  omega

theorem timeOfDay_lt (instant : Instant) : instant.timeOfDay < 86400 := by
  simp only [timeOfDay, secondsPerDay]
  omega

/-- The time is the date and the time of day of the instant, in UTC. A leap second is counted with
the second in front of it, and shown as the next one. -/
structure Shows (instant : Instant) (time : CivilTime) : Prop where
  onCalendar : time.OnCalendar
  timeOfDay : time.hour < 24 ∧ time.minute < 60
  seconds : instant.seconds =
    86400 * (time.dayNumber - CivilTime.epoch.dayNumber) + 3600 * time.hour + 60 * time.minute +
      instant.seconds % 60
  second : time.second = instant.seconds % 60 + if instant.nanos.val < 1000000000 then 0 else 1

theorem shows_civil (instant : Instant) : instant.Shows instant.civil := by
  have bound := instant.timeOfDay_lt
  have epoch : CivilTime.epoch.dayNumber = epochDay := rfl
  have day : instant.civil.dayNumber = instant.seconds / 86400 + epochDay := instant.dayNumber_civil
  have time : (instant.timeOfDay : Int) = instant.seconds % 86400 :=
    Int.toNat_of_nonneg (Int.emod_nonneg _ (by decide))
  refine ⟨instant.onCalendar_civil, ?_, ?_, ?_⟩
  · rw [civil_hour, civil_minute]
    omega
  · rw [day, epoch, civil_hour, civil_minute]
    omega
  · have nanos := instant.nanos.isLt
    rw [civil_second, nanosPerSecond]
    split <;> omega

/-- Instants in the order of time; a leap second comes behind the second that it is counted with. -/
instance : LE Instant where
  le earlier later :=
    earlier.seconds < later.seconds ∨
      earlier.seconds = later.seconds ∧ earlier.nanos ≤ later.nanos

theorem civil_notAfter {earlier later : Instant} (le : earlier ≤ later) :
    earlier.civil.NotAfter later.civil := by
  have seconds : earlier.seconds ≤ later.seconds := by
    rcases le with less | ⟨same, -⟩
    · exact Int.le_of_lt less
    · exact Int.le_of_eq same
  rcases Int.lt_trichotomy earlier.dayNumber later.dayNumber with less | same | greater
  · refine .inl (CivilTime.dateBefore_of_dayNumber_lt earlier.onCalendar_civil
      later.onCalendar_civil ?_)
    rw [dayNumber_civil, dayNumber_civil]
    exact less
  · have sameYear : earlier.yearDay = later.yearDay := by rw [yearDay, same, ← yearDay]
    have sameMonth : earlier.monthDay = later.monthDay := by rw [monthDay, sameYear, ← monthDay]
    have times : earlier.timeOfDay ≤ later.timeOfDay := by
      simp only [dayNumber, timeOfDay, secondsPerDay] at same ⊢
      omega
    refine .inr ⟨?_, ?_⟩
    · rw [CivilTime.SameDate, civil_year, civil_year, civil_month, civil_month, civil_day,
        civil_day, same, sameYear, sameMonth]
      exact ⟨rfl, rfl, rfl⟩
    · rw [civil_hour, civil_hour, civil_minute, civil_minute]
      omega
  · simp only [dayNumber, secondsPerDay] at greater
    omega

end Instant
end InventoryIds
