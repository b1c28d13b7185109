/-! # Dates

The Gregorian calendar, extended to all years, with days counted from the first of January 1970.

Years are taken to begin in March, so that a leap day is the last day of its year; 400 years, and
within them centuries, 4 years and single years, then follow one another in blocks of equal length
except for the last of each kind.

* **`Date.ofDays`** — the date of a day.
* **`Date.toDays`** — the day of a date.
* **`Date.IsValid`** — the date is in the calendar. -/

namespace SpeakerHub

/-- A day of the calendar. -/
structure Date where
  /-- The year; the year before year one is year zero. -/
  year : Int
  /-- The month, from one to twelve. -/
  month : Nat
  /-- The day of the month, from one. -/
  day : Nat
  deriving DecidableEq

namespace Date

/-- The days of 400 years. -/
def daysPerEra : Nat := 146097

/-- The days from the first of March of year zero to the first of January 1970. -/
def daysBeforeEpoch : Nat := 719468

/-- The days of a year that begins in March, in front of its month (March is zero). -/
def daysBefore (month : Nat) : Nat :=
  (153 * month + 2) / 5

/-- Whether a year has a leap day. -/
def isLeap (year : Int) : Bool :=
  year % 4 == 0 && (year % 100 != 0 || year % 400 == 0)

/-- The length of a month, zero if there is no such month. -/
def daysInMonth (year : Int) (month : Nat) : Nat :=
  if month = 2 then if isLeap year then 29 else 28
  else if month ∈ [4, 6, 9, 11] then 30
  else if 1 ≤ month ∧ month ≤ 12 then 31
  else 0

/-- The month exists and has the day. -/
def IsValid (d : Date) : Prop :=
  1 ≤ d.day ∧ d.day ≤ daysInMonth d.year d.month

instance (d : Date) : Decidable d.IsValid :=
  inferInstanceAs (Decidable (_ ∧ _))

/-- The day of a date. -/
def toDays (d : Date) : Int :=
  let year := if d.month ≤ 2 then d.year - 1 else d.year
  let month := if d.month ≤ 2 then d.month + 9 else d.month - 3
  365 * year + year / 4 - year / 100 + year / 400 + daysBefore month + d.day - 1 - daysBeforeEpoch

/-- The date of a day. -/
def ofDays (days : Int) : Date :=
  let era := (days + daysBeforeEpoch) / daysPerEra
  let dayOfEra := ((days + daysBeforeEpoch) % daysPerEra).toNat
  -- The last century of an era and the last year of a cycle are a day longer than the others.
  let century := min (dayOfEra / 36524) 3
  let dayOfCentury := dayOfEra - 36524 * century
  let cycle := dayOfCentury / 1461
  let dayOfCycle := dayOfCentury % 1461
  let yearOfCycle := min (dayOfCycle / 365) 3
  let dayOfYear := dayOfCycle - 365 * yearOfCycle
  let month := (5 * dayOfYear + 2) / 153
  let year := 400 * era + (100 * century + 4 * cycle + yearOfCycle : Nat)
  { year := if month < 10 then year else year + 1
    month := if month < 10 then month + 3 else month - 9
    day := dayOfYear - daysBefore month + 1 }

end Date

end SpeakerHub
