/-! # Numerals

Whole numbers as they are written in stored records, addresses and options.

* **`digit? base c`** — the value of one digit.
* **`natural? base digits`** — a nonempty run of digits; zeros in front are allowed.
* **`unsigned? bound s`**, **`signed? s`** — decimal numbers with an optional sign, refused outside
  their range.
* **`character? n`** — the character with a number.
* **`padded width n`** — decimal digits of a least number. -/

namespace SpeakerHub.Numeral

/-- The value of a digit in a base of at most sixteen. -/
def digit? (base : Nat) (c : Char) : Option Nat :=
  let value? :=
    if '0' ≤ c ∧ c ≤ '9' then some (c.toNat - '0'.toNat)
    else if 'a' ≤ c ∧ c ≤ 'f' then some (c.toNat - 'a'.toNat + 10)
    else if 'A' ≤ c ∧ c ≤ 'F' then some (c.toNat - 'A'.toNat + 10)
    else none
  value?.filter (· < base)

/-- The number that a nonempty run of digits stands for, whatever zeros it begins with. -/
def natural? (base : Nat) : List Char → Option Nat
  | [] => none
  | digits => digits.foldlM (fun n c => (digit? base c).map (base * n + ·)) 0

/-- A decimal number below `bound`, with an optional plus sign. -/
def unsigned? (bound : Nat) (s : String) : Option Nat :=
  let digits := match s.toList with
    | '+' :: digits => digits
    | digits => digits
  (natural? 10 digits).filter (· < bound)

/-- A decimal number of 64 bits in two's complement, with an optional sign. -/
def signed? (s : String) : Option Int :=
  let value? := match s.toList with
    | '-' :: digits => (natural? 10 digits).map fun n => -(n : Int)
    | '+' :: digits => (natural? 10 digits).map Int.ofNat
    | digits => (natural? 10 digits).map Int.ofNat
  value?.filter fun n => Int64.minValue.toInt ≤ n ∧ n ≤ Int64.maxValue.toInt

/-- The character with a given number. Surrogates and numbers beyond the last character have
none. -/
def character? (n : Nat) : Option Char :=
  if h : n.isValidChar then some (Char.ofNatAux n h) else none

/-- The decimal digits of a number, with zeros in front up to a width. -/
def padded (width n : Nat) : List Char :=
  let digits := Nat.toDigits 10 n
  List.replicate (width - digits.length) '0' ++ digits

end SpeakerHub.Numeral
