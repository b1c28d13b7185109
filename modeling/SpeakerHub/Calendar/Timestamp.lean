import SpeakerHub.Calendar.Date
import SpeakerHub.Text.Numeral

/-! # Timestamps

Points in time as text, in the form `2023-11-14T22:13:20Z`. Times are counted from the first of
January 1970, in seconds or milliseconds.

* **`Timestamp.ofSeconds`** — a second in the zone at zero, marked `Z`.
* **`Timestamp.ofMilliseconds`** — a millisecond, marked `+00:00`.
* **`Timestamp.seconds?`** — the second of a written time with any offset and fraction. -/

namespace SpeakerHub.Timestamp

/-! ## Writing -/

/-- The written form of a year: four digits, and a sign where they are not enough. -/
def yearText (year : Int) : List Char :=
  if 0 ≤ year ∧ year ≤ 9999 then Numeral.padded 4 year.toNat
  else (if year < 0 then '-' else '+') :: Numeral.padded 4 year.natAbs

/-- The written form of a second, without fraction and offset. -/
def dateTimeText (seconds : Int) : List Char :=
  let date := Date.ofDays (seconds / 86400)
  let second := (seconds % 86400).toNat
  yearText date.year ++ '-' :: Numeral.padded 2 date.month ++ '-' :: Numeral.padded 2 date.day
    ++ 'T' :: Numeral.padded 2 (second / 3600) ++ ':' :: Numeral.padded 2 (second / 60 % 60)
    ++ ':' :: Numeral.padded 2 (second % 60)

/-- The text of a second. -/
def ofSeconds (seconds : Int) : String :=
  String.ofList (dateTimeText seconds ++ ['Z'])

/-- The text of a millisecond. -/
def ofMilliseconds (milliseconds : Int) : String :=
  String.ofList (dateTimeText (milliseconds / 1000)
    ++ '.' :: Numeral.padded 3 (milliseconds % 1000).toNat ++ "+00:00".toList)

/-- The seconds that have a written form: those of the years from -262143 to 262142. -/
def IsWritable (seconds : Int) : Prop :=
  -8334601228800 ≤ seconds ∧ seconds ≤ 8210266876799

instance (seconds : Int) : Decidable (IsWritable seconds) :=
  inferInstanceAs (Decidable (_ ∧ _))

/-! ## Reading -/

/-- A number of exactly `count` digits at the start of a text, and the text behind it. -/
def number? (count : Nat) (text : List Char) : Option (Nat × List Char) :=
  if (text.take count).length = count then
    (Numeral.natural? 10 (text.take count)).map fun n => (n, text.drop count)
  else none

/-- The text behind a character that has to be one of some. -/
def expect? (allowed : List Char) : List Char → Option (List Char)
  | c :: rest => if c ∈ allowed then some rest else none
  | [] => none

/-- The text behind a fraction, if there is one. A point has to have a digit behind it. -/
def skipFraction? : List Char → Option (List Char)
  | '.' :: c :: rest => if c.isDigit then some (rest.dropWhile Char.isDigit) else none
  | '.' :: [] => none
  | text => some text

/-- Hours and minutes as two digits each with a colon between them, and the text behind them. -/
def clock? (text : List Char) : Option (Nat × List Char) := do
  let (hours, text) ← number? 2 text
  let (minutes, text) ← number? 2 (← expect? [':'] text)
  if hours < 24 ∧ minutes < 60 then some (60 * hours + minutes, text) else none

/-- The minutes that a written offset is ahead of the zone at zero. A minus sign of its own counts
as a hyphen does. -/
def offset? : List Char → Option Int
  | ['Z'] => some 0
  | ['z'] => some 0
  | sign :: text => do
    let (minutes, rest) ← clock? text
    if ¬rest.isEmpty then none
    else if sign = '+' then some minutes
    else if sign = '-' ∨ sign = '\u2212' then some (-minutes)
    else none
  | [] => none

/-- The second in which a written time lies. A sixtieth second counts as the one in front of it. -/
def seconds? (text : List Char) : Option Int := do
  let (year, text) ← number? 4 text
  let (month, text) ← number? 2 (← expect? ['-'] text)
  let (day, text) ← number? 2 (← expect? ['-'] text)
  let (minutes, text) ← clock? (← expect? ['T', 't', ' '] text)
  let (second, text) ← number? 2 (← expect? [':'] text)
  let offset ← offset? (← skipFraction? text)
  let date : Date := { year, month, day }
  if date.IsValid ∧ second ≤ 60 then
    some (86400 * date.toDays + 60 * (minutes - offset) + min second 59)
  else none

end SpeakerHub.Timestamp
