import SpeakerHub.Calendar.Timestamp
import SpeakerHub.Text.Scan

/-! # Numbers and dates of TOML

* **`Toml.integer`** — whole numbers of 64 bits in four bases.
* **`Toml.float`** — numbers with a fraction or an exponent, and the words for what is no number.
* **`Toml.dateTime`** — dates, times of day, and both together with an optional offset. -/

namespace SpeakerHub.Toml

open Scan

/-! ## Digits -/

/-- A run of digits, in which an underscore may stand between two digits. -/
def digitRun (base : Nat) : Scan (List Char) := do
  let isDigit (c : Char) := (Numeral.digit? base c).isSome
  let run ← takeWhile fun c => isDigit c || c == '_'
  let noTwo := (run.zip (run.drop 1)).all fun (c, d) => c != '_' || d != '_'
  if run.head?.all (· == '_') || run.getLast?.all (· == '_') || !noTwo then failure
  return run.filter (· != '_')

/-- A sign; `true` is a minus. -/
def sign : Scan Bool := do
  if ← accept "-" then return true
  let _ ← accept "+"
  return false

/-- The digits of a decimal number, of which zero alone begins with zero. -/
def decimalRun : Scan (List Char) := do
  let digits ← digitRun 10
  if digits.head? == some '0' && 1 < digits.length then failure
  return digits

/-! ## Integers -/

/-- A number of 64 bits in two's complement. -/
def fitting (n : Int) : Option Int :=
  if Int64.minValue.toInt ≤ n ∧ n ≤ Int64.maxValue.toInt then some n else none

/-- A whole number. Only decimal numbers have a sign. -/
def integer : Scan Int := do
  let based? ← optional do
    if ← accept "0x" then return 16
    if ← accept "0o" then return 8
    expect "0b"
    return 2
  match based? with
  | some base =>
    let n ← (Numeral.natural? base (← digitRun base) : Option Nat)
    (fitting n : Option Int)
  | none =>
    let negative ← sign
    let n ← (Numeral.natural? 10 (← decimalRun) : Option Nat)
    (fitting (if negative then -n else n) : Option Int)

/-! ## Floats -/

/-- Whether a decimal number is too great for 64 bits, that is, at least as great as the middle
between the greatest number of 64 bits and the power of two that would follow it. -/
def isTooGreat (mantissa : Nat) (exponent : Int) : Bool :=
  let size : Int := (Nat.toDigits 10 mantissa).length
  if mantissa = 0 ∨ size + exponent ≤ 308 then false
  else if 309 < size + exponent then true
  else
    let middle := Nat.pow 2 1024 - Nat.pow 2 970
    middle * Nat.pow 10 (-exponent).toNat ≤ mantissa * Nat.pow 10 exponent.toNat

/-- An exponent. -/
def exponent : Scan Int := do
  unless ← accept "e" do expect "E"
  let negative ← sign
  let n ← (Numeral.natural? 10 (← digitRun 10) : Option Nat)
  return if negative then -n else n

/-- A number with a fraction or an exponent. One that is too great is refused, one that is too small
is not. -/
def decimalFloat : Scan Unit := do
  let negative ← sign
  let whole ← decimalRun
  let fraction ← if ← accept "." then digitRun 10 else pure []
  let exponent? ← optional exponent
  if fraction.isEmpty && exponent?.isNone then failure
  let mantissa ← (Numeral.natural? 10 (whole ++ fraction) : Option Nat)
  if !negative && isTooGreat mantissa (exponent?.getD 0 - fraction.length) then failure

/-- A word for infinity or for what is no number. -/
def specialFloat : Scan Unit := do
  let _ ← sign
  unless ← accept "inf" do expect "nan"

/-- A float. -/
def float : Scan Unit :=
  decimalFloat <|> specialFloat

/-! ## Dates and times -/

/-- A date of the calendar. -/
def date : Scan Unit := do
  let year ← Timestamp.number? 4
  expect "-"
  let month ← Timestamp.number? 2
  expect "-"
  let day ← Timestamp.number? 2
  unless ({ year, month, day } : Date).IsValid do failure

/-- A time of day, with a fraction of its second. The sixtieth second may be a leap second. -/
def time : Scan Unit := do
  let _ ← Timestamp.clock?
  expect ":"
  let second ← Timestamp.number? 2
  unless second ≤ 60 do failure
  if ← accept "." then
    if (← takeWhile Char.isDigit).isEmpty then failure

/-- An offset from the zone at zero. -/
def offset : Scan Unit := do
  unless (← accept "Z") || (← accept "z") do
    unless ← accept "+" do expect "-"
    let _ ← Timestamp.clock?

/-- The time of a day behind its date. -/
def timeOfDate : Scan Unit := do
  unless (← accept "T") || (← accept "t") do expect " "
  time
  let _ ← optional offset

/-- A date, a time, or both. -/
def dateTime : Scan Unit :=
  (do
    date
    let _ ← optional timeOfDate) <|> time

end SpeakerHub.Toml
