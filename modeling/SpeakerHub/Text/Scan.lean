import SpeakerHub.Text.Numeral

/-! # Reading a text from its start

A scan reads something at the start of a text and leaves what is behind it, or fails and leaves
everything.

* **`Scan.accept`**, **`Scan.expect`**, **`Scan.takeWhile`** — single characters and runs of them.
* **`Scan.loop`** — repeats a scan as long as it says so. Every round reads at least one character,
  so the length of the text bounds the number of rounds.
* **`Scan.written`** — what a scan has read, as it is written. -/

namespace SpeakerHub

/-- Reads something at the start of a text. -/
abbrev Scan := StateT (List Char) Option

namespace Scan

/-- The next character, which stays. -/
def peek? : Scan (Option Char) := do
  return (← get).head?

/-- The next character. -/
def next : Scan Char := do
  match ← get with
  | c :: rest =>
    set rest
    return c
  | [] => failure

/-- Reads some characters if they come next, and says whether they did. -/
def accept (word : String) : Scan Bool := do
  let text ← get
  if word.toList.isPrefixOf text then
    set (text.drop word.length)
    return true
  else return false

/-- Reads some characters that have to come next. -/
def expect (word : String) : Scan Unit := do
  unless ← accept word do failure

/-- Reads the longest run of characters with a property, which may be empty. -/
def takeWhile (p : Char → Bool) : Scan (List Char) := do
  let text ← get
  set (text.dropWhile p)
  return text.takeWhile p

/-- At most `bound` rounds of a loop. -/
def rounds {α β : Type} (step : α → Scan (α ⊕ β)) : Nat → α → Scan β
  | 0, _ => failure
  | bound + 1, a => do
    match ← step a with
    | .inl a => rounds step bound a
    | .inr b => return b

/-- Repeats a step, from a value to the next one, until it gives a result. -/
def loop {α β : Type} (step : α → Scan (α ⊕ β)) (start : α) : Scan β := do
  rounds step ((← get).length + 1) start

/-- Reads what a scan reads, and gives the characters it has read. -/
def written (s : Scan Unit) : Scan String := do
  let before ← get
  s
  let behind ← get
  return String.ofList (before.take (before.length - behind.length))

/-- What a scan says about a whole text. -/
def all? {α : Type} (s : Scan α) (text : List Char) : Option α :=
  match s.run text with
  | some (a, []) => some a
  | _ => none

end Scan

end SpeakerHub
