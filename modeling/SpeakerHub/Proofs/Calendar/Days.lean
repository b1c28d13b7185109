import Mathlib.Tactic.IntervalCases
import SpeakerHub.Calendar.Date

/-! # Days follow one another

The calendar as it is counted: every day is followed by the next one of its month, the last one of a
month by the first one of the next, and the last one of a year by the first one of the next. The
numbers of days and their dates are found from this by division, for all years.

Years are cut up as they are for the division: they begin in March, so that a leap day is the last
of its year.

* **`Date.next`**, **`Date.IsDay`** — the day after a date; counting from the first of January 1970.
* **`Date.daysBeforeYear`**, **`daysBeforeYear_succ`** — the days in front of a year, and how long
  it is.
* **`Date.ofDayOfYear`** — the date of a day of a year, with **`toDays_ofDayOfYear`** and
  **`isValid_ofDayOfYear`**; **`ofDayOfYear_dayOfYear`** — every date is one.
* **`Date.ofDays_spec`**, **`ofDays_toDays`** — days and dates are inverse to each other.
* **`Date.next_spec`** — the day after a date has the next number.
* **`Date.isDay_iff`** — numbers and dates are those of the count. -/

namespace SpeakerHub.Date

/-! ## Counting -/

/-- The day after a date. -/
def next (d : Date) : Date :=
  if d.day < daysInMonth d.year d.month then { d with day := d.day + 1 }
  else if d.month < 12 then { d with month := d.month + 1, day := 1 }
  else { year := d.year + 1, month := 1, day := 1 }

/-- **A date is that of a day**, counted forth and back from the first of January 1970. -/
inductive IsDay : Int → Date → Prop where
  /-- Where the count begins. -/
  | epoch : IsDay 0 { year := 1970, month := 1, day := 1 }
  /-- One day later. -/
  | next {n : Int} {d : Date} (h : IsDay n d) : IsDay (n + 1) d.next
  /-- One day earlier. -/
  | previous {n : Int} {d : Date} (hd : d.IsValid) (h : IsDay (n + 1) d.next) : IsDay n d

/-! ## Years that begin in March -/

/-- The days in front of a year that begins in March, from the first of March of year zero. -/
def daysBeforeYear (year : Int) : Int :=
  365 * year + year / 4 - year / 100 + year / 400

/-- A year that begins in March has 365 days, or 366 if the February at its end is longer. -/
def yearLength (year : Int) : Nat :=
  if isLeap (year + 1) then 366 else 365

/-- The year of a date, if years begin in March. -/
def marchYear (d : Date) : Int :=
  if d.month ≤ 2 then d.year - 1 else d.year

/-- The month of a date, if March is zero. -/
def marchMonth (d : Date) : Nat :=
  if d.month ≤ 2 then d.month + 9 else d.month - 3

/-- A month that has a day is one of twelve. -/
theorem IsValid.month_mem {d : Date} (h : d.IsValid) : 1 ≤ d.month ∧ d.month ≤ 12 := by
  obtain ⟨hday, hle⟩ := h
  unfold daysInMonth at hle
  split at hle
  · omega
  · split at hle
    case isTrue hmem => simp at hmem; omega
    case isFalse =>
      split at hle
      · assumption
      · omega

/-- No month has more than 31 days. -/
theorem IsValid.day_le {d : Date} (h : d.IsValid) : d.day ≤ 31 := by
  refine h.2.trans ?_
  unfold daysInMonth
  split
  · split <;> omega
  · split
    · omega
    · split <;> omega

/-- A year is leap exactly if its days are one more. -/
theorem daysBeforeYear_succ (year : Int) :
    daysBeforeYear (year + 1) = daysBeforeYear year + yearLength year := by
  have hleap : isLeap (year + 1) = true
      ↔ (year + 1) % 4 = 0 ∧ ((year + 1) % 100 ≠ 0 ∨ (year + 1) % 400 = 0) := by
    simp [isLeap]
  unfold daysBeforeYear yearLength
  split
  case isTrue h =>
    have h := hleap.1 h
    omega
  case isFalse h =>
    have h := mt hleap.2 h
    omega

/-- The number of a date is that of its year, its month and its day. -/
theorem toDays_eq (d : Date) : d.toDays
    = daysBeforeYear d.marchYear + daysBefore d.marchMonth + d.day - 1 - daysBeforeEpoch :=
  rfl

/-! ## Days of a year -/

/-- The date of a day of a year, if years begin in March. -/
def ofDayOfYear (year : Int) (day : Nat) : Date :=
  let month := (5 * day + 2) / 153
  { year := if month < 10 then year else year + 1
    month := if month < 10 then month + 3 else month - 9
    day := day - daysBefore month + 1 }

/-- The month of a day begins with it or before it, and ends behind it. -/
theorem daysBefore_le (day : Nat) : daysBefore ((5 * day + 2) / 153) ≤ day
    ∧ day < daysBefore ((5 * day + 2) / 153 + 1) := by
  unfold daysBefore
  omega

/-- A day of a year is in the year, and in the month that is found by division. -/
theorem march_ofDayOfYear (year : Int) {day : Nat} (h : day ≤ 365) :
    (ofDayOfYear year day).marchYear = year
      ∧ (ofDayOfYear year day).marchMonth = (5 * day + 2) / 153 := by
  unfold ofDayOfYear marchYear marchMonth
  by_cases hmonth : (5 * day + 2) / 153 < 10
  · simp [hmonth]
  · have hle : (5 * day + 2) / 153 - 9 ≤ 2 := by omega
    simp only [hmonth, hle, if_true, if_false]
    omega

/-- The number of a day of a year. -/
theorem toDays_ofDayOfYear (year : Int) {day : Nat} (h : day ≤ 365) :
    (ofDayOfYear year day).toDays = daysBeforeYear year + day - daysBeforeEpoch := by
  obtain ⟨hle, -⟩ := daysBefore_le day
  obtain ⟨hyear, hmonth⟩ := march_ofDayOfYear year h
  have hday : (ofDayOfYear year day).day = day - daysBefore ((5 * day + 2) / 153) + 1 := rfl
  rw [toDays_eq, hyear, hmonth, hday]
  omega

/-- The length of a month is what is between its beginning and that of the next one, but for the
last month of a year, which is February. -/
theorem daysInMonth_march (year : Int) {month : Nat} (h : month < 11) :
    daysInMonth year (if month < 10 then month + 3 else month - 9)
      = daysBefore (month + 1) - daysBefore month := by
  interval_cases month <;> rfl

/-- A February has 28 days, and one more in a leap year. -/
theorem daysInMonth_february (year : Int) :
    daysInMonth year 2 = if isLeap year then 29 else 28 :=
  rfl

/-- A day of a year is in the calendar, if it is not the leap day of a year that has none. -/
theorem isValid_ofDayOfYear {year : Int} {day : Nat} (h : day ≤ 365)
    (hleap : day = 365 → isLeap (year + 1)) : (ofDayOfYear year day).IsValid := by
  obtain ⟨hle, hlt⟩ := daysBefore_le day
  have hmonth : (5 * day + 2) / 153 ≤ 11 := by omega
  unfold ofDayOfYear IsValid
  refine ⟨by simp, ?_⟩
  rcases Nat.lt_or_eq_of_le hmonth with hmonth | hmonth
  · simp only [daysInMonth_march _ hmonth]
    omega
  · -- February is the last month, and only a leap year has a day for the last day.
    simp only [hmonth]
    show day - 337 + 1 ≤ daysInMonth (year + 1) 2
    rw [daysInMonth_february]
    split
    case isTrue => omega
    case isFalse hnot =>
      have hne : day ≠ 365 := fun heq => hnot (hleap heq)
      omega

/-! ## Dates are days of years -/

/-- The day of a date in its year, if years begin in March. -/
def dayOfYear (d : Date) : Nat :=
  daysBefore d.marchMonth + (d.day - 1)

/-- A day that is not in front of a month, and is in front of the next one, is in it. -/
theorem month_eq_of_lt {month day : Nat} (hle : daysBefore month ≤ day)
    (hlt : day < daysBefore (month + 1)) : (5 * day + 2) / 153 = month := by
  unfold daysBefore at hle hlt
  omega

/-- The year and the month of a date, from those that begin in March. -/
theorem eq_march {d : Date} (h : d.IsValid) : d.marchMonth ≤ 11
    ∧ d.year = (if d.marchMonth < 10 then d.marchYear else d.marchYear + 1)
    ∧ d.month = (if d.marchMonth < 10 then d.marchMonth + 3 else d.marchMonth - 9) := by
  obtain ⟨hfirst, hlast⟩ := h.month_mem
  unfold marchMonth marchYear
  by_cases hwinter : d.month ≤ 2
  · have hend : ¬d.month + 9 < 10 := by omega
    simp only [hwinter, hend, if_true, if_false]
    omega
  · have hbegin : d.month - 3 < 10 := by omega
    simp only [hwinter, hbegin, if_true, if_false]
    exact ⟨by omega, trivial, by omega⟩

/-- The day of a date is in its month and in its year. -/
theorem dayOfYear_lt {d : Date} (h : d.IsValid) :
    d.dayOfYear < daysBefore (d.marchMonth + 1) ∧ d.dayOfYear < yearLength d.marchYear := by
  obtain ⟨hle, hyear, hmonth⟩ := eq_march h
  obtain ⟨hday, hlength⟩ := h
  unfold dayOfYear
  rcases Nat.lt_or_eq_of_le hle with hlt | hlast
  · rw [hmonth, daysInMonth_march _ hlt] at hlength
    have hend : daysBefore (d.marchMonth + 1) ≤ 337 := by
      unfold daysBefore
      omega
    have hyear : 365 ≤ yearLength d.marchYear := by
      unfold yearLength
      split <;> omega
    omega
  · -- The length of the year depends on that of its February.
    rw [hlast, if_neg (by decide)] at hyear hmonth
    rw [hyear, hmonth, daysInMonth_february] at hlength
    have hbegin : daysBefore 11 = 337 := rfl
    have hend : daysBefore 12 = 367 := rfl
    rw [hlast, hbegin, hend]
    unfold yearLength
    split at hlength
    case isTrue hleap =>
      rw [if_pos hleap]
      omega
    case isFalse hleap =>
      rw [if_neg hleap]
      omega

/-- **Every date is a day of its year.** -/
theorem ofDayOfYear_dayOfYear {d : Date} (h : d.IsValid) :
    ofDayOfYear d.marchYear d.dayOfYear = d := by
  obtain ⟨hlt, -⟩ := dayOfYear_lt h
  obtain ⟨-, hyear, hmonth⟩ := eq_march h
  have hday := h.1
  have hfound : (5 * d.dayOfYear + 2) / 153 = d.marchMonth :=
    month_eq_of_lt (Nat.le_add_right _ _) hlt
  have hrest : d.dayOfYear - daysBefore d.marchMonth + 1 = d.day := by
    unfold dayOfYear
    omega
  unfold ofDayOfYear
  simp only [hfound, hrest, ← hyear, ← hmonth]

/-! ## Numbers and dates -/

/-- The number of a date is that of its year and its day in it. -/
theorem toDays_eq_dayOfYear {d : Date} (h : d.IsValid) :
    d.toDays = daysBeforeYear d.marchYear + d.dayOfYear - daysBeforeEpoch := by
  have hday := h.1
  rw [toDays_eq]
  unfold dayOfYear
  omega

/-- A year that is earlier ends before the later one begins. -/
theorem daysBeforeYear_le {year later : Int} (h : year < later) :
    daysBeforeYear year + yearLength year ≤ daysBeforeYear later := by
  rw [← daysBeforeYear_succ]
  unfold daysBeforeYear
  omega

/-- **Dates are told apart by their numbers.** -/
theorem toDays_inj {d e : Date} (hd : d.IsValid) (he : e.IsValid) (h : d.toDays = e.toDays) :
    d = e := by
  obtain ⟨-, hdlt⟩ := dayOfYear_lt hd
  obtain ⟨-, helt⟩ := dayOfYear_lt he
  rw [toDays_eq_dayOfYear hd, toDays_eq_dayOfYear he] at h
  have hyear : d.marchYear = e.marchYear := by
    rcases lt_trichotomy d.marchYear e.marchYear with hlt | heq | hgt
    · have := daysBeforeYear_le hlt
      omega
    · exact heq
    · have := daysBeforeYear_le hgt
      omega
  have hday : d.dayOfYear = e.dayOfYear := by
    rw [hyear] at h
    omega
  rw [← ofDayOfYear_dayOfYear hd, ← ofDayOfYear_dayOfYear he, hyear, hday]

/-- The parts into which the days of 400 years are divided: three centuries and a longer one, 24
cycles of four years and one that is shorter unless its century is longer, and in these three years
and one that is longer unless its cycle is shorter. -/
theorem exists_parts (days : Int) : ∃ (era : Int) (century cycle year day : Nat),
    ofDays days = ofDayOfYear (400 * era + (100 * century + 4 * cycle + year : Nat)) day
      ∧ days + daysBeforeEpoch
        = 146097 * era + 36524 * century + 1461 * cycle + 365 * year + day
      ∧ century ≤ 3 ∧ cycle ≤ 24 ∧ year ≤ 3 ∧ day ≤ 365
      ∧ (day = 365 → year = 3 ∧ (cycle = 24 → century = 3)) := by
  let dayOfEra := ((days + daysBeforeEpoch) % daysPerEra).toNat
  let century := min (dayOfEra / 36524) 3
  let dayOfCentury := dayOfEra - 36524 * century
  let cycle := dayOfCentury / 1461
  let dayOfCycle := dayOfCentury % 1461
  let year := min (dayOfCycle / 365) 3
  have hera : days + daysBeforeEpoch
      = 146097 * ((days + daysBeforeEpoch) / daysPerEra) + dayOfEra ∧ dayOfEra < 146097 := by
    simp only [dayOfEra, daysPerEra]
    omega
  have hcentury : dayOfEra = 36524 * century + dayOfCentury ∧ century ≤ 3
      ∧ dayOfCentury ≤ 36524 ∧ (dayOfCentury = 36524 → century = 3) := by
    simp only [dayOfCentury, century]
    omega
  have hcycle : dayOfCentury = 1461 * cycle + dayOfCycle ∧ dayOfCycle < 1461 := by
    simp only [cycle, dayOfCycle]
    omega
  have hyear : year ≤ 3 ∧ 365 * year ≤ dayOfCycle ∧ dayOfCycle ≤ 365 * year + 365
      ∧ (dayOfCycle = 365 * year + 365 → year = 3) := by
    simp only [year]
    omega
  refine ⟨(days + daysBeforeEpoch) / daysPerEra, century, cycle, year,
    dayOfCycle - 365 * year, rfl, ?_⟩
  clear_value dayOfEra century dayOfCentury cycle dayOfCycle year
  omega

/-- The days in front of a year, from the parts into which days are divided. -/
theorem daysBeforeYear_parts (era : Int) {century cycle year : Nat} (hcentury : century ≤ 3)
    (hcycle : cycle ≤ 24) (hyear : year ≤ 3) :
    daysBeforeYear (400 * era + (100 * century + 4 * cycle + year : Nat))
      = 146097 * era + 36524 * century + 1461 * cycle + 365 * year := by
  unfold daysBeforeYear
  omega

/-- The February at the end of the last year of a cycle has a leap day, if that cycle is not the
last one of a century that is not the last one. -/
theorem isLeap_parts (era : Int) {century cycle : Nat} (hcycle : cycle ≤ 24)
    (h : cycle = 24 → century = 3) :
    isLeap (400 * era + (100 * century + 4 * cycle + 3 : Nat) + 1) := by
  unfold isLeap
  simp
  omega

/-- **The date of a day** is in the calendar, and the day is its number. -/
theorem ofDays_spec (days : Int) : (ofDays days).IsValid ∧ (ofDays days).toDays = days := by
  obtain ⟨era, century, cycle, year, day, hdate, htotal, hcentury, hcycle, hyear, hday, hleap⟩ :=
    exists_parts days
  rw [hdate]
  constructor
  · refine isValid_ofDayOfYear hday fun hlast => ?_
    obtain ⟨rfl, hlong⟩ := hleap hlast
    exact isLeap_parts era hcycle hlong
  · rw [toDays_ofDayOfYear _ hday, daysBeforeYear_parts era hcentury hcycle hyear]
    omega

/-- **The day of a date** has this date. -/
theorem ofDays_toDays {d : Date} (h : d.IsValid) : ofDays d.toDays = d := by
  obtain ⟨hvalid, hdays⟩ := ofDays_spec d.toDays
  exact toDays_inj hvalid h hdays

/-! ## The count -/

/-- Every month has a day. -/
theorem daysInMonth_pos (year : Int) {month : Nat} (hfirst : 1 ≤ month) (hlast : month ≤ 12) :
    1 ≤ daysInMonth year month := by
  unfold daysInMonth
  split
  · split <;> omega
  · split
    · omega
    · rw [if_pos ⟨hfirst, hlast⟩]
      omega

/-- The length of the month of a date, from the beginnings of its month and the next one. -/
theorem daysInMonth_eq_march {d : Date} (h : d.IsValid) : daysInMonth d.year d.month
    = if d.marchMonth < 11 then daysBefore (d.marchMonth + 1) - daysBefore d.marchMonth
      else yearLength d.marchYear - daysBefore 11 := by
  obtain ⟨hle, hyear, hmonth⟩ := eq_march h
  split
  case isTrue hlt => rw [hmonth, daysInMonth_march _ hlt]
  case isFalse hnot =>
    have hlast : d.marchMonth = 11 := by omega
    rw [hlast, if_neg (by decide)] at hyear hmonth
    rw [hyear, hmonth, daysInMonth_february, yearLength]
    split <;> rfl

/-- The first day of the next month, of the next year behind February. -/
theorem march_next_of_last {d : Date} (h : d.IsValid)
    (hlast : ¬d.day < daysInMonth d.year d.month) : d.next.day = 1
      ∧ d.next.marchYear = (if d.marchMonth < 11 then d.marchYear else d.marchYear + 1)
      ∧ d.next.marchMonth = if d.marchMonth < 11 then d.marchMonth + 1 else 0 := by
  obtain ⟨hfirst, hle⟩ := h.month_mem
  unfold next
  rw [if_neg hlast]
  unfold marchYear marchMonth
  obtain ⟨year, month, day⟩ := d
  simp only at hfirst hle ⊢
  interval_cases month <;> simp

/-- **The day after a date** is in the calendar, and has the next number. -/
theorem next_spec {d : Date} (h : d.IsValid) :
    d.next.IsValid ∧ d.next.toDays = d.toDays + 1 := by
  obtain ⟨hfirst, hle⟩ := h.month_mem
  have hday := h.1
  by_cases hlt : d.day < daysInMonth d.year d.month
  · have hnext : d.next = { d with day := d.day + 1 } := if_pos hlt
    rw [hnext]
    refine ⟨⟨Nat.le_add_left 1 d.day, hlt⟩, ?_⟩
    show daysBeforeYear d.marchYear + daysBefore d.marchMonth + (d.day + 1 : Nat) - 1 - _ = _
    rw [toDays_eq]
    omega
  · have hvalid : d.next.IsValid := by
      unfold next
      rw [if_neg hlt]
      split
      case isTrue hmonth =>
        show 1 ≤ 1 ∧ 1 ≤ daysInMonth d.year (d.month + 1)
        exact ⟨le_rfl, daysInMonth_pos _ (Nat.le_add_left 1 d.month) hmonth⟩
      case isFalse =>
        show 1 ≤ 1 ∧ 1 ≤ daysInMonth (d.year + 1) 1
        exact ⟨le_rfl, daysInMonth_pos _ (by decide) (by decide)⟩
    refine ⟨hvalid, ?_⟩
    -- The next month begins where this one ends, and the next year where February does.
    obtain ⟨hone, hyear, hmonth⟩ := march_next_of_last h hlt
    have hlength := daysInMonth_eq_march h
    have hend : d.day = daysInMonth d.year d.month := by
      have := h.2
      omega
    rw [toDays_eq, toDays_eq, hone, hyear, hmonth, hend, hlength]
    split
    case isTrue hsummer =>
      have hmono : daysBefore d.marchMonth < daysBefore (d.marchMonth + 1) := by
        unfold daysBefore
        omega
      omega
    case isFalse hwinter =>
      obtain ⟨hmarch, -⟩ := eq_march h
      have hfebruary : d.marchMonth = 11 := by omega
      have hbegin : daysBefore 0 = 0 := rfl
      have hbefore : daysBefore 11 ≤ yearLength d.marchYear := by
        unfold yearLength
        split <;> decide
      rw [daysBeforeYear_succ, hfebruary, hbegin]
      omega

/-- **Dates and numbers are those of the count.** -/
theorem isDay_iff {n : Int} {d : Date} : IsDay n d ↔ d.IsValid ∧ d.toDays = n := by
  constructor
  · intro h
    induction h with
    | epoch => decide
    | next h ih =>
      obtain ⟨hvalid, rfl⟩ := ih
      exact next_spec hvalid
    | previous hd h ih =>
      obtain ⟨-, hnext⟩ := next_spec hd
      exact ⟨hd, by omega⟩
  · rintro ⟨hd, rfl⟩
    -- It is enough to count through the dates of all numbers, forth and back.
    have hsucc (n : Int) : (ofDays n).next = ofDays (n + 1) := by
      obtain ⟨hvalid, hdays⟩ := ofDays_spec n
      obtain ⟨hnext, hdays'⟩ := next_spec hvalid
      rw [← hdays, ← hdays', ofDays_toDays hnext, ofDays_toDays hvalid]
    have hcount (n : Int) : IsDay n (ofDays n) := by
      induction n using Int.induction_on with
      | zero => exact IsDay.epoch
      | succ n ih => exact hsucc n ▸ ih.next
      | pred n ih =>
        refine .previous (ofDays_spec _).1 ?_
        rw [hsucc, Int.sub_add_cancel]
        exact ih
    have hdate := hcount d.toDays
    rwa [ofDays_toDays hd] at hdate

end SpeakerHub.Date
