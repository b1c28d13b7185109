import SpeakerHub.Disk.Basic
import SpeakerHub.Error
import SpeakerHub.Toml.Document

/-! # Configuration

What can be set in the configuration file. Everything has a default, and what is not known is
ignored.

* **`Config`** — the settings.
* **`Config.ofText?`** — reads them.
* **`Config.ofFile`** — reads them from the disk. -/

namespace SpeakerHub

/-- How the shells of speakers are reached. -/
structure SshConfig where
  /-- The user. -/
  user : String := "root"
  /-- The password. -/
  password : String := ""
  /-- The port. -/
  port : Nat := 22
  /-- How long to wait, in seconds. -/
  timeoutSeconds : Nat := 10

/-- How speakers are searched for. -/
structure DiscoveryConfig where
  /-- The hosts that are asked. -/
  hosts : List String := []
  /-- How long to wait between searches, in seconds. -/
  intervalSeconds : Nat := 300
  /-- How long to wait for an answer, in seconds. -/
  timeoutSeconds : Nat := 5

/-- All settings. -/
structure Config where
  /-- The address of this server, as speakers see it. -/
  publicUrl : String := "http://localhost:8000"
  /-- The account that speakers are filed under when they are found. -/
  account : String := "default"
  /-- How the shells of speakers are reached. -/
  ssh : SshConfig := {}
  /-- How speakers are searched for. -/
  discovery : DiscoveryConfig := {}

namespace Config

open Toml (Value Table)

/-! ## Settings of each kind -/

/-- Reads a text. -/
def text? : Value → Option String
  | .string content => some content
  | _ => none

/-- Reads a number below a bound. -/
def number? (bound : Nat) : Value → Option Nat
  | .integer n => if 0 ≤ n ∧ n < bound then some n.toNat else none
  | _ => none

/-- Reads a list of texts. -/
def texts? : Value → Option (List String)
  | .array elements => elements.mapM text?
  | .tables [] => some []
  | _ => none

/-- Reads the setting under a key, which has a default. -/
def setting {α : Type} (table : Table) (key : String) (read? : Value → Option α) (default : α) :
    Option α :=
  match table.lookup key with
  | some v => read? v
  | none => some default

/-- A value as a group of settings. The settings may also be listed in their order, without keys; a
date sets nothing. -/
def group? (keys : List String) : Value → Option Table
  | .table _ entries => some entries
  | .array elements => some (keys.zip elements)
  | .tables elements => some (keys.zip (elements.map (.table .header)))
  | .dateTime _ => some []
  | _ => none

/-! ## Groups -/

/-- Reads how shells are reached. -/
def ssh? (v : Value) : Option SshConfig := do
  let table ← group? ["user", "password", "port", "timeout_seconds"] v
  let default : SshConfig := {}
  return {
    user := ← setting table "user" text? default.user
    password := ← setting table "password" text? default.password
    port := ← setting table "port" (number? UInt16.size) default.port
    timeoutSeconds :=
      ← setting table "timeout_seconds" (number? UInt64.size) default.timeoutSeconds }

/-- Reads how speakers are searched for. -/
def discovery? (v : Value) : Option DiscoveryConfig := do
  let table ← group? ["hosts", "interval_seconds", "timeout_seconds"] v
  let default : DiscoveryConfig := {}
  return {
    hosts := ← setting table "hosts" texts? default.hosts
    intervalSeconds :=
      ← setting table "interval_seconds" (number? UInt64.size) default.intervalSeconds
    timeoutSeconds :=
      ← setting table "timeout_seconds" (number? UInt64.size) default.timeoutSeconds }

/-- Reads all settings. -/
def ofText? (text : String) : Option Config := do
  let table ← Toml.read? text
  let default : Config := {}
  return {
    publicUrl := ← setting table "public_url" text? default.publicUrl
    account := ← setting table "account" text? default.account
    ssh := ← setting table "ssh" ssh? default.ssh
    discovery := ← setting table "discovery" discovery? default.discovery }

/-- Reads all settings from what is in a file, if that could be read. -/
def ofContent (path : Path) : Option String → Except Error Config
  | none => .error (.io path)
  | some text =>
    match ofText? text with
    | none => .error .configuration
    | some config => .ok config

/-- Reads all settings from a file. -/
def ofFile (path : Path) (d : Disk) : Except Error Config :=
  ofContent path ((d.content path).toOption.bind String.fromUTF8?)

end Config

end SpeakerHub
