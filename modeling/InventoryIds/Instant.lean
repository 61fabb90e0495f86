/-!
# Instants

Instants in seconds since 1970 and their civil date and time, in the Gregorian calendar
extended to all years and in UTC. A cycle of 400 years is cut into centuries, groups of four
years and years; in each of them the long part comes last.
-/

namespace InventoryIds

/-- A point in time. In a leap second the nanoseconds go on beyond a thousand million. -/
structure Instant where
  seconds : Int
  nanos : Fin 2000000000 := 0
deriving DecidableEq, Repr

structure CivilTime where
  year : Int
  month : Nat
  day : Nat
  hour : Nat
  minute : Nat
  second : Nat
deriving DecidableEq, Repr

namespace Calendar

/-- The days from the first day of the year 1 to the first day of 1970. -/
def epochDay : Int := 719162

/-- The days of 400 years. -/
def daysPerCycle : Nat := 146097

/-- The days of a hundred years, but for the last hundred of a cycle, which have one more. -/
def daysPerCentury : Nat := 36524

/-- The days of four years, but for the last four of most centuries, which have one less. -/
def daysPerGroup : Nat := 1461

def daysPerYear : Nat := 365

def monthLengths (leap : Bool) : List Nat :=
  [31, if leap then 29 else 28, 31, 30, 31, 30, 31, 31, 30, 31, 30, 31]

/-- Which of consecutive spans day `n` falls in, and on which of its days, both from zero. -/
def locate : List Nat → Nat → Nat × Nat
  | [], n => (0, n)
  | span :: spans, n =>
    if n < span then (0, n)
    else
      let (place, rest) := locate spans (n - span)
      (place + 1, rest)

/-- A year within a cycle, from zero, and a day within the year, from zero. -/
structure YearDay where
  year : Nat
  day : Nat
deriving DecidableEq, Repr

def yearDay (n : Nat) : YearDay :=
  let century := min (n / daysPerCentury) 3
  let n := n - century * daysPerCentury
  let group := n / daysPerGroup
  let n := n % daysPerGroup
  let year := min (n / daysPerYear) 3
  ⟨100 * century + 4 * group + year, n - year * daysPerYear⟩

/-- The year at this place of a cycle has 366 days. Cycles start with the years 1, 401, … -/
def isLeap (year : Nat) : Bool :=
  (year + 1) % 4 = 0 ∧ ((year + 1) % 100 ≠ 0 ∨ (year + 1) % 400 = 0)

end Calendar

namespace Instant
open Calendar

/-- The seconds of a day; leap seconds are not counted. -/
def secondsPerDay : Nat := 86400

def nanosPerSecond : Nat := 1000000000

/-- The civil date and time of an instant; the second is 60 in a leap second. -/
def civil (instant : Instant) : CivilTime :=
  let day := instant.seconds / secondsPerDay + epochDay
  let time := (instant.seconds % secondsPerDay).toNat
  let cycle := day / daysPerCycle
  let date := yearDay (day % daysPerCycle).toNat
  let (month, dayOfMonth) := locate (monthLengths (isLeap date.year)) date.day
  { year := 400 * cycle + date.year + 1
    month := month + 1
    day := dayOfMonth + 1
    hour := time / 3600
    minute := time / 60 % 60
    second := time % 60 + instant.nanos.val / nanosPerSecond }

end Instant
end InventoryIds
