import Mathlib.Data.Rat.Floor
import Mathlib.Tactic.Linarith
import SpeakerHub.Calendar.Timestamp
import SpeakerHub.Proofs.Calendar.Days
import SpeakerHub.Proofs.Text.Numeral

/-! # What timestamps mean

A timestamp is a date and a time of day, maybe with a fraction, in a zone that is some minutes ahead
of that at zero. It means an instant, which is no whole second if there is a fraction. What is read
is the second in which the instant lies, and what is written for a second means its beginning.

* **`Timestamp.calendarText`**, **`IsDateTime`** — a date and a time of day, and their second.
* **`Timestamp.IsOffset`**, **`IsFraction`** — what may stand behind them.
* **`Timestamp.IsTimestamp`** — a timestamp and its instant.
* **`Timestamp.seconds?_of_isTimestamp`** — every timestamp is read.
* **`Timestamp.HasFourDigitYear`** — the seconds that have timestamps.
* **`Timestamp.isDateTime_ofSeconds`**, **`seconds?_ofSeconds`** — what is written for a second says
  when it is, and is read as the second.
* **`Timestamp.signed?_repr_of_seconds?`** — what was read can be stored and read again. -/

namespace SpeakerHub.Timestamp

open Numeral

/-! ## Timestamps -/

/-- A date and a time of day, as they are written: the year in four digits, all else in two. -/
def calendarText (date : Date) (separator : Char) (hour minute second : Nat) : List Char :=
  padded 4 date.year.toNat ++ '-' :: padded 2 date.month ++ '-' :: padded 2 date.day
    ++ separator :: padded 2 hour ++ ':' :: padded 2 minute ++ ':' :: padded 2 second

/-- **A date and a time of day are those of a second**, counted from the beginning of 1970. -/
inductive IsDateTime (separator : Char) : List Char → Int → Prop where
  /-- The day of the date has so many seconds in front of it, and its hours and minutes more. -/
  | intro {day : Int} {date : Date} {hour minute second : Nat} (hday : Date.IsDay day date)
      (hyear : 0 ≤ date.year ∧ date.year ≤ 9999)
      (htime : hour < 24 ∧ minute < 60 ∧ second < 60) :
      IsDateTime separator (calendarText date separator hour minute second)
        (86400 * day + 3600 * hour + 60 * minute + second)

/-- **An offset is some minutes** that a zone is ahead of that at zero. -/
inductive IsOffset : List Char → Int → Prop where
  /-- The zone at zero. -/
  | zero {mark : Char} (hmark : mark ∈ ['Z', 'z']) : IsOffset [mark] 0
  /-- A zone that is ahead of it. -/
  | ahead {hour minute : Nat} (hhour : hour < 24) (hminute : minute < 60) :
      IsOffset ('+' :: padded 2 hour ++ ':' :: padded 2 minute) (60 * hour + minute)
  /-- A zone that is behind it, with a hyphen or a minus sign. -/
  | behind {sign : Char} {hour minute : Nat} (hsign : sign ∈ ['-', '\u2212']) (hhour : hour < 24)
      (hminute : minute < 60) :
      IsOffset (sign :: padded 2 hour ++ ':' :: padded 2 minute) (-(60 * hour + minute))

/-- **A fraction is a part of a second.** It has any number of digits. -/
inductive IsFraction : List Char → ℚ → Prop where
  /-- There is none. -/
  | none : IsFraction [] 0
  /-- The digits of a number are as many as the zeros of what it is divided by. -/
  | digits {width n : Nat} (hwidth : 0 < width) (hn : n < 10 ^ width) :
      IsFraction ('.' :: padded width n) (n / 10 ^ width)

/-- **A timestamp means an instant**, counted in seconds from the beginning of 1970. -/
inductive IsTimestamp : List Char → ℚ → Prop where
  /-- It is as many minutes earlier as its zone is ahead. -/
  | intro {separator : Char} {text fraction offset : List Char} {second minutes : Int} {part : ℚ}
      (hseparator : separator ∈ ['T', 't', ' ']) (htext : IsDateTime separator text second)
      (hfraction : IsFraction fraction part) (hoffset : IsOffset offset minutes) :
      IsTimestamp (text ++ fraction ++ offset) (second - 60 * minutes + part)

/-! ## Reading -/

/-- A padded number is read, and what is behind it is left. -/
theorem number?_padded {width n : Nat} (hwidth : 0 < width) (h : n < 10 ^ width)
    (rest : List Char) : number? width (padded width n ++ rest) = some (n, rest) := by
  have hlength := length_padded hwidth h
  have htake : (padded width n ++ rest).take width = padded width n := List.take_left' hlength
  have hdrop : (padded width n ++ rest).drop width = rest := List.drop_left' hlength
  rw [number?, htake, hdrop, if_pos hlength, natural?_padded]
  rfl

/-- A character that is expected is left behind. -/
theorem expect?_cons {allowed : List Char} {c : Char} (h : c ∈ allowed) (rest : List Char) :
    expect? allowed (c :: rest) = some rest :=
  if_pos h

/-- Hours and minutes are read, and what is behind them is left. -/
theorem clock?_padded {hour minute : Nat} (hhour : hour < 24) (hminute : minute < 60)
    (rest : List Char) : clock? (padded 2 hour ++ ':' :: (padded 2 minute ++ rest))
      = some (60 * hour + minute, rest) := by
  have hhours := number?_padded (by decide) (by omega : hour < 10 ^ 2)
  have hminutes := number?_padded (by decide) (by omega : minute < 10 ^ 2)
  have hcolon := expect?_cons (by decide : ':' ∈ [':'])
  simp only [clock?, hhours, hcolon, hminutes, bind, Option.bind_some]
  exact if_pos ⟨hhour, hminute⟩

/-- A signed offset is read as its minutes, ahead or behind. -/
theorem offset?_sign {sign : Char} {hour minute : Nat} (hhour : hour < 24) (hminute : minute < 60)
    (hsign : sign ∈ ['+', '-', '\u2212']) :
    offset? (sign :: padded 2 hour ++ ':' :: padded 2 minute)
      = some (if sign = '+' then (60 * hour + minute : Int) else -(60 * hour + minute : Int)) := by
  have hclock := clock?_padded hhour hminute []
  rw [List.append_nil] at hclock
  have hne : padded 2 hour ++ ':' :: padded 2 minute ≠ [] := by simp
  rw [List.cons_append, offset?.eq_def]
  -- What is read is neither of the marks of the zone at zero: something stands behind the sign.
  split
  case h_1 heq => exact absurd (List.cons.inj heq).2 hne
  case h_2 heq => exact absurd (List.cons.inj heq).2 hne
  case h_4 heq => cases heq
  case h_3 heq =>
    obtain ⟨rfl, rfl⟩ := List.cons.inj heq
    rw [hclock]
    rcases List.mem_cons.1 hsign with rfl | hsign
    · rfl
    · rcases List.mem_pair.1 hsign with rfl | rfl <;> rfl

/-- **An offset** is read. -/
theorem offset?_of_isOffset {text : List Char} {minutes : Int} (h : IsOffset text minutes) :
    offset? text = some minutes := by
  cases h with
  | zero hmark => rcases List.mem_pair.1 hmark with rfl | rfl <;> rfl
  | ahead hhour hminute => exact offset?_sign hhour hminute (by decide)
  | behind hsign hhour hminute =>
    rw [offset?_sign hhour hminute (List.mem_cons_of_mem _ hsign)]
    rcases List.mem_pair.1 hsign with rfl | rfl <;> rfl

/-- No offset begins as a fraction does, or goes on with its digits. -/
theorem IsOffset.head {text : List Char} {minutes : Int} (h : IsOffset text minutes) :
    ∃ c rest, text = c :: rest ∧ c ≠ '.' ∧ c.isDigit = false := by
  cases h with
  | zero hmark => rcases List.mem_pair.1 hmark with rfl | rfl <;> exact ⟨_, _, rfl, by decide, rfl⟩
  | ahead => exact ⟨_, _, rfl, by decide, rfl⟩
  | behind hsign =>
    rcases List.mem_pair.1 hsign with rfl | rfl <;> exact ⟨_, _, rfl, by decide, rfl⟩

/-- **A fraction** is skipped. -/
theorem skipFraction?_of_isFraction {fraction offset : List Char} {part : ℚ} {minutes : Int}
    (h : IsFraction fraction part) (hoffset : IsOffset offset minutes) :
    skipFraction? (fraction ++ offset) = some offset := by
  obtain ⟨c, rest, rfl, hpoint, hdigit⟩ := hoffset.head
  cases h with
  | none =>
    rw [List.nil_append, skipFraction?.eq_def]
    split
    case h_1 heq => exact absurd (List.cons.inj heq).1 hpoint
    case h_2 heq => exact absurd (List.cons.inj heq).1 hpoint
    case h_3 => rfl
  | @digits width n hwidth hn =>
    have hlength := length_padded hwidth hn
    have hdigits : ∀ c ∈ padded width n, c.isDigit = true := fun c hc => isDigit_of_mem_padded hc
    have hskip : (padded width n ++ c :: rest).dropWhile Char.isDigit = c :: rest := by
      rw [List.dropWhile_append_of_pos hdigits, List.dropWhile_cons_of_neg (by simp [hdigit])]
    cases hpadded : padded width n with
    | nil =>
      rw [hpadded] at hlength
      exact absurd hlength hwidth.ne
    | cons first more =>
      rw [hpadded] at hdigits hskip
      have hfirst := hdigits first List.mem_cons_self
      rw [List.cons_append, List.dropWhile_cons_of_pos hfirst] at hskip
      show (if first.isDigit then some ((more ++ c :: rest).dropWhile Char.isDigit) else none) = _
      rw [if_pos hfirst, hskip]

/-- A fraction is less than a second. -/
theorem IsFraction.part_mem {text : List Char} {part : ℚ} (h : IsFraction text part) :
    0 ≤ part ∧ part < 1 := by
  cases h with
  | none => decide
  | @digits width n _ hn =>
    have hpos : (0 : ℚ) < 10 ^ width := pow_pos (by decide) width
    have hlt : (n : ℚ) < 10 ^ width := by exact_mod_cast hn
    exact ⟨div_nonneg (Nat.cast_nonneg n) hpos.le, (div_lt_one hpos).2 hlt⟩

/-- A date and a time of day are read, and then what stands behind them. -/
theorem seconds?_calendarText {date : Date} {separator : Char} {hour minute second : Nat}
    (hvalid : date.IsValid) (hyear : 0 ≤ date.year ∧ date.year ≤ 9999)
    (hseparator : separator ∈ ['T', 't', ' '])
    (htime : hour < 24 ∧ minute < 60 ∧ second < 60) (rest : List Char) :
    seconds? (calendarText date separator hour minute second ++ rest)
      = ((skipFraction? rest).bind offset?).map fun minutes =>
        86400 * date.toDays + 3600 * hour + 60 * minute + second - 60 * minutes := by
  obtain ⟨hhour, hminute, hsecond⟩ := htime
  have hyears := number?_padded (by decide) (by omega : date.year.toNat < 10 ^ 4)
  have hmonths := number?_padded (by decide)
    (by have := hvalid.month_mem; omega : date.month < 10 ^ 2)
  have hdays := number?_padded (by decide) (by have := hvalid.day_le; omega : date.day < 10 ^ 2)
  have hseconds := number?_padded (by decide) (by omega : second < 10 ^ 2)
  have hclock := clock?_padded hhour hminute
  have hhyphen := expect?_cons (by decide : '-' ∈ ['-'])
  have hcolon := expect?_cons (by decide : ':' ∈ [':'])
  have hdate : { year := date.year.toNat, month := date.month, day := date.day } = date := by
    rw [Int.toNat_of_nonneg hyear.1]
  unfold seconds? calendarText
  simp only [List.append_assoc, List.cons_append, hyears, hhyphen, hmonths, hdays,
    expect?_cons hseparator, hclock, hcolon, hseconds, hdate, bind, Option.bind_some]
  cases skipFraction? rest with
  | none => rfl
  | some text =>
    rw [Option.bind_some, Option.bind_some]
    cases offset? text with
    | none => rfl
    | some minutes =>
      have hmin : min second 59 = second := by omega
      rw [Option.bind_some, Option.map_some, if_pos ⟨hvalid, hsecond.le⟩, hmin]
      refine congrArg some ?_
      omega

/-- **A timestamp is read** as the second in which its instant lies. -/
theorem seconds?_of_isTimestamp {text : List Char} {t : ℚ} (h : IsTimestamp text t) :
    seconds? text = some ⌊t⌋ := by
  obtain ⟨hseparator, htext, hfraction, hoffset⟩ := h
  obtain ⟨hday, hyear, htime⟩ := htext
  obtain ⟨hvalid, rfl⟩ := Date.isDay_iff.1 hday
  obtain ⟨hpart, hlt⟩ := hfraction.part_mem
  rw [List.append_assoc, seconds?_calendarText hvalid hyear hseparator htime,
    skipFraction?_of_isFraction hfraction hoffset, Option.bind_some, offset?_of_isOffset hoffset,
    Option.map_some]
  refine congrArg some (Eq.symm ?_)
  -- The instant is a whole second but for the fraction, which is less than one.
  rw [Int.floor_eq_iff]
  push_cast
  constructor <;> linarith

/-! ## Writing -/

/-- **A second lies in one of the years that have four digits.** -/
def HasFourDigitYear (seconds : Int) : Prop :=
  ∃ date, Date.IsDay (seconds / 86400) date ∧ 0 ≤ date.year ∧ date.year ≤ 9999

variable {seconds : Int}

/-- Its day has this date. -/
theorem HasFourDigitYear.date (h : HasFourDigitYear seconds) :
    Date.IsDay (seconds / 86400) (Date.ofDays (seconds / 86400))
      ∧ 0 ≤ (Date.ofDays (seconds / 86400)).year
      ∧ (Date.ofDays (seconds / 86400)).year ≤ 9999 := by
  obtain ⟨date, hday, hyear⟩ := h
  obtain ⟨hvalid, htoDays⟩ := Date.isDay_iff.1 hday
  rw [← htoDays, Date.ofDays_toDays hvalid]
  exact ⟨htoDays ▸ hday, hyear⟩

/-- **What is written for a second** says when it is, in the zone at zero. -/
theorem isDateTime_ofSeconds (h : HasFourDigitYear seconds) :
    ∃ text, (ofSeconds seconds).toList = text ++ ['Z'] ∧ IsDateTime 'T' text seconds := by
  obtain ⟨hday, hyear⟩ := h.date
  refine ⟨dateTimeText seconds, String.toList_ofList, ?_⟩
  -- The second of the day is divided into hours, minutes and seconds, and they add up to it.
  let second := (seconds % 86400).toNat
  have htime : second / 3600 < 24 ∧ second / 60 % 60 < 60 ∧ second % 60 < 60 := by
    simp only [second]
    omega
  have htext : dateTimeText seconds = calendarText (Date.ofDays (seconds / 86400)) 'T'
      (second / 3600) (second / 60 % 60) (second % 60) := by
    rw [dateTimeText, yearText, if_pos hyear]
    rfl
  have htotal : 86400 * (seconds / 86400) + 3600 * (second / 3600 : Nat)
      + 60 * (second / 60 % 60 : Nat) + (second % 60 : Nat) = seconds := by
    simp only [second]
    omega
  have hdateTime : IsDateTime 'T' _ _ := .intro hday hyear htime
  rwa [← htext, htotal] at hdateTime

/-- It is a timestamp. -/
theorem isTimestamp_ofSeconds (h : HasFourDigitYear seconds) :
    IsTimestamp (ofSeconds seconds).toList seconds := by
  obtain ⟨text, htext, hdateTime⟩ := isDateTime_ofSeconds h
  have hstamp := IsTimestamp.intro (by decide : 'T' ∈ ['T', 't', ' ']) hdateTime .none
    (.zero (by decide : 'Z' ∈ ['Z', 'z']))
  rw [List.append_nil, ← htext] at hstamp
  simpa using hstamp

/-- **What is written for a second is read as the second.** -/
theorem seconds?_ofSeconds (h : HasFourDigitYear seconds) :
    seconds? (ofSeconds seconds).toList = some seconds := by
  rw [seconds?_of_isTimestamp (isTimestamp_ofSeconds h), Int.floor_intCast]

/-- Such a second can be written, and has 64 bits. -/
theorem HasFourDigitYear.isWritable (h : HasFourDigitYear seconds) : IsWritable seconds := by
  obtain ⟨date, hday, hyear⟩ := h
  obtain ⟨hvalid, htoDays⟩ := Date.isDay_iff.1 hday
  obtain ⟨-, hlt⟩ := Date.dayOfYear_lt hvalid
  have hlength : Date.yearLength date.marchYear ≤ 366 := by
    unfold Date.yearLength
    split <;> decide
  have hmarch : -1 ≤ date.marchYear ∧ date.marchYear ≤ 9999 := by
    unfold Date.marchYear
    split <;> omega
  rw [Date.toDays_eq_dayOfYear hvalid, Date.daysBeforeEpoch, Date.daysBeforeYear] at htoDays
  unfold IsWritable
  omega

/-- It is read as it is shown. -/
theorem HasFourDigitYear.signed?_repr (h : HasFourDigitYear seconds) :
    Numeral.signed? (Int.repr seconds) = some seconds := by
  obtain ⟨hmin, hmax⟩ := h.isWritable
  have hlow : Int64.minValue.toInt = -9223372036854775808 := by decide
  have hhigh : Int64.maxValue.toInt = 9223372036854775807 := by decide
  exact Numeral.signed?_repr (by omega) (by omega)

/-! ## What was read -/

/-- A number of some digits has no more. -/
theorem number?_lt {count n : Nat} {text rest : List Char}
    (h : number? count text = some (n, rest)) : n < 10 ^ count := by
  rw [number?] at h
  split at h
  case isFalse => cases h
  case isTrue hlength =>
    obtain ⟨m, hm, heq⟩ := Option.map_eq_some_iff.1 h
    obtain rfl : m = n := congrArg Prod.fst heq
    exact hlength ▸ Numeral.natural?_lt hm

/-- Hours and minutes are less than a day. -/
theorem clock?_lt {text rest : List Char} {minutes : Nat}
    (h : clock? text = some (minutes, rest)) : minutes < 1440 := by
  simp only [clock?, bind, Option.bind_eq_some_iff, Prod.exists] at h
  obtain ⟨hours, _, -, _, -, minute, _, -, hclock⟩ := h
  split at hclock
  case isFalse => cases hclock
  case isTrue hrange =>
    have hminutes : 60 * hours + minute = minutes := congrArg Prod.fst (Option.some.inj hclock)
    omega

/-- So is an offset, in either direction. -/
theorem offset?_lt {text : List Char} {offset : Int} (h : offset? text = some offset) :
    -1440 < offset ∧ offset < 1440 := by
  rw [offset?.eq_def] at h
  split at h
  case h_1 => cases h; decide
  case h_2 => cases h; decide
  case h_4 => cases h
  case h_3 =>
    simp only [bind, Option.bind_eq_some_iff, Prod.exists] at h
    obtain ⟨minutes, rest, hclock, h⟩ := h
    have hlt := clock?_lt hclock
    split_ifs at h
    all_goals cases h; omega

/-- **What is read is read again**, from the number that is stored. -/
theorem signed?_repr_of_seconds? {text : List Char} {seconds : Int}
    (h : seconds? text = some seconds) :
    Numeral.signed? (Int.repr seconds) = some seconds := by
  simp only [seconds?, bind, Option.bind_eq_some_iff, Prod.exists] at h
  obtain ⟨year, _, hyear, _, -, month, _, -, _, -, day, _, -, _, -, minutes, _, hminutes, _, -,
    second, _, -, _, -, offset, hoffset, h⟩ := h
  split at h
  case isFalse => cases h
  case isTrue hvalid =>
    obtain ⟨hvalid, hsecond⟩ := hvalid
    have hyear := number?_lt hyear
    have hminutes := clock?_lt hminutes
    obtain ⟨hahead, hbehind⟩ := offset?_lt hoffset
    -- The day has four digits in its year, and what is added is less than some days.
    let date : Date := { year, month, day }
    have hday : Date.IsDay (86400 * date.toDays / 86400) date :=
      Date.isDay_iff.2 ⟨hvalid, by omega⟩
    have hfour : HasFourDigitYear (86400 * date.toDays) :=
      ⟨date, hday, Int.natCast_nonneg year, by simp only [date]; omega⟩
    obtain ⟨hmin, hmax⟩ := hfour.isWritable
    have heq : 86400 * date.toDays + 60 * (minutes - offset) + min second 59 = seconds :=
      Option.some.inj h
    have hlow : Int64.minValue.toInt = -9223372036854775808 := by decide
    have hhigh : Int64.maxValue.toInt = 9223372036854775807 := by decide
    exact Numeral.signed?_repr (by omega) (by omega)

end SpeakerHub.Timestamp
