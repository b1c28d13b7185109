import SpeakerHub.Config
import SpeakerHub.Text.Scan

/-! # Hosts of shells

A speaker is known by the address of its web service, which may come with a port. Its shell is
reached at the same host under a port of its own.

* **`SocketAddress.scan`** — an address of four or of eight numbers, with a port.
* **`sshHost`** — a host without the port of its web service.
* **`SshConfig.timeoutMilliseconds`** — how long to wait for a shell. -/

namespace SpeakerHub

open Scan

namespace SocketAddress

/-- One of the four numbers of an address: at most three digits, and no zero in front. -/
def octet : Scan Unit := do
  let digits ← takeWhile Char.isDigit
  let value ← (Numeral.natural? 10 digits : Option Nat)
  let hasZeroInFront := digits.head? == some '0' && 1 < digits.length
  if 3 < digits.length || 255 < value || hasZeroInFront then failure

/-- An address of four numbers. -/
def ipv4 : Scan Unit := do
  octet
  expect "."
  octet
  expect "."
  octet
  expect "."
  octet

/-- One of the eight numbers of an address: at most four hexadecimal digits. -/
def group : Scan Unit := do
  let digits ← takeWhile fun c => (Numeral.digit? 16 c).isSome
  if digits.isEmpty || 4 < digits.length then failure

/-- Up to `left` numbers with colons between them: how many there are, and whether the last two were
written as an address of four numbers. -/
def groups : (left : Nat) → (isFirst : Bool) → Scan (Nat × Bool)
  | 0, _ => return (0, false)
  | left + 1, isFirst => do
    let separator : Scan Unit := if isFirst then pure () else expect ":"
    -- An address of four numbers stands for two of the eight, so there has to be room for both.
    match ← if 1 ≤ left then optional (separator *> ipv4) else pure none with
    | some () => return (2, true)
    | none =>
      match ← optional (separator *> group) with
      | none => return (0, false)
      | some () =>
        let (count, endsInIpv4) ← groups left false
        return (count + 1, endsInIpv4)

/-- An address of eight numbers, of which a run of zeros may be left out between two colons. -/
def ipv6 : Scan Unit := do
  let (count, endsInIpv4) ← groups 8 true
  if count < 8 then
    if endsInIpv4 then failure
    -- Two colons stand for at least one number.
    expect "::"
    let _ ← groups (7 - count) true

/-- A decimal number below a bound, with any zeros in front. -/
def number (bound : Nat) : Scan Unit := do
  let value ← (Numeral.natural? 10 (← takeWhile Char.isDigit) : Option Nat)
  unless value < bound do failure

/-- An address with a port. -/
def scan : Scan Unit :=
  (do
    ipv4
    expect ":"
    number UInt16.size) <|>
  (do
    expect "["
    ipv6
    if ← accept "%" then number UInt32.size
    expect "]:"
    number UInt16.size)

end SocketAddress

/-- What stands in front of the last colon of a text and behind it. -/
def splitAtLastColon? (text : List Char) : Option (List Char × List Char) :=
  match text.reverse.dropWhile (· != ':') with
  | [] => none
  | _ :: front => some (front.reverse, (text.reverse.takeWhile (· != ':')).reverse)

/-- A text without the square brackets around it. -/
def withoutBrackets (text : List Char) : List Char :=
  ((text.dropWhile (· == '[')).reverse.dropWhile (· == ']')).reverse

/-- The host of a speaker's shell, given the host of its web service. A port is left out, unless
what stands in front of it is an address that needs brackets and has none. -/
def sshHost (host : String) : String :=
  match splitAtLastColon? host.toList with
  | none => host
  | some (front, port) =>
    if (SocketAddress.scan.all? host.toList).isSome then String.ofList (withoutBrackets front)
    else if ¬front.contains ':' ∧ (Numeral.unsigned? UInt16.size (String.ofList port)).isSome then
      String.ofList front
    else host

/-- How long to wait for a shell: at least a second, and no longer than 32 bits can tell. -/
def SshConfig.timeoutMilliseconds (c : SshConfig) : Nat :=
  min (1000 * max c.timeoutSeconds 1) (UInt32.size - 1)

end SpeakerHub
