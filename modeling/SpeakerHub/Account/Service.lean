import SpeakerHub.Account.Dialect
import SpeakerHub.Account.Request
import SpeakerHub.Account.Upsert
import SpeakerHub.Freshness

/-! # The account service

What the service answers to speakers. A list that was never stored is empty; a list that cannot be
read is an error, and is never written over.

* **`Account.full`**, **`presets`**, **`recents`** — documents, rendered unless the reader holds the
  token.
* **`Account.putPreset`**, **`addRecent`**, **`addDevice`**, **`removeDevice`** — changes.
* **`Account.sourceProviders`**, **`softwareUpdate`**, **`providerSettings`** — what needs no
  store. -/

namespace SpeakerHub.Account

/-- A document that a change answers with, and the token of the list it belongs to. -/
structure Written where
  /-- The token after the change. -/
  token : Token
  /-- The document. -/
  body : String
  deriving DecidableEq

/-- A stored list, empty if it was never stored. -/
def orEmpty {α : Type} : Except Error (List α) → Except Error (List α)
  | .error (.notFound _) => .ok []
  | result => result

/-! ## Fixed answers -/

/-- The providers of the catalog. -/
def sourceProviders (presented : Option String) : Except Error Conditional :=
  Conditional.evaluate .catalog presented (.ok (Dialect.document Dialect.sourceProviders))

/-- The answer that there is no newer software. -/
def softwareUpdate (presented : Option String) : Except Error Conditional :=
  Conditional.evaluate .catalog presented (.ok (Dialect.document Dialect.softwareUpdate))

/-- The settings of an account at its providers. -/
def providerSettings (account : String) : Except Error String := do
  let account ← Identifier.ofText account
  return Dialect.document (Dialect.providerSettings account.text)

/-! ## Documents -/

/-- The stored presets of an account. -/
def storedPresets (s : Store) (account : Identifier) (d : Disk) : Except Error (List Preset) :=
  orEmpty (s.presets account d)

/-- The stored recents of an account. -/
def storedRecents (s : Store) (account : Identifier) (d : Disk) : Except Error (List Recent) :=
  orEmpty (s.recents account d)

/-- The stored sources of an account. -/
def storedSources (s : Store) (account : Identifier) (d : Disk) : Except Error (List Source) :=
  orEmpty (s.sources account d)

/-- The account with everything it has. -/
def full (s : Store) (account : String) (presented : Option String) (d : Disk) :
    Except Error Conditional := do
  let account ← Identifier.ofText account
  match d.find (s.accountPath account) with
  | .ok (.directory ..) =>
    Conditional.evaluate (← s.accountToken account d) presented do
      let devices := (← s.allDevices (some account) d).map (·.device)
      let presets ← storedPresets s account d
      let recents ← storedRecents s account d
      let sources ← storedSources s account d
      return Dialect.document (Dialect.account account.text devices presets recents sources)
  | _ => throw (.notFound (s.accountPath account))

/-- The presets of an account. -/
def presets (s : Store) (account : String) (presented : Option String) (d : Disk) :
    Except Error Conditional := do
  let account ← Identifier.ofText account
  Conditional.evaluate (← s.resourceToken account .presets d) presented do
    let presets ← storedPresets s account d
    let sources ← storedSources s account d
    return Dialect.document (Dialect.presets sources presets)

/-- The recents of an account. -/
def recents (s : Store) (account : String) (presented : Option String) (d : Disk) :
    Except Error Conditional := do
  let account ← Identifier.ofText account
  Conditional.evaluate (← s.resourceToken account .recents d) presented do
    let recents ← storedRecents s account d
    let sources ← storedSources s account d
    return Dialect.document (Dialect.recents sources recents)

/-! ## Changes -/

/-- The key of the source with an id, empty if there is none. -/
def keyOfSource (sources : List Source) (id : String) : SourceKey :=
  match sources.find? (·.id == id) with
  | some source => source.key
  | none => {}

/-- The presets after a button was given something to play, and its own preset. The button keeps the
time of its first use. -/
def withPreset (number : Nat) (request : PresetRequest) (sources : List Source) (now : String)
    (presets : List Preset) : Preset × List Preset :=
  let item : ContentItem := {
    id := Nat.repr number
    name := request.name
    source := keyOfSource sources request.sourceId
    kind := request.kind
    location := request.location }
  upsert (fun p => p.item.id == item.id)
    (fun p => { p with item, containerArt := request.containerArt, updatedOn := now })
    { item, createdOn := now, updatedOn := now, containerArt := request.containerArt } presets

/-- Stores what a button plays. -/
def putPreset (s : Store) (account device button body : String) : Action Written := do
  let some number := Numeral.unsigned? UInt32.size button | throw (.invalidPresetNumber button)
  let request ← PresetRequest.ofText body
  let _ ← Identifier.ofText device
  let account ← Identifier.ofText account
  let sources ← Action.look (storedSources s account)
  let now := Timestamp.ofMilliseconds (← get).clock
  let stored ← Action.look (storedPresets s account)
  let (preset, presets) := withPreset number request sources now stored
  s.savePresets account presets
  return {
    token := ← Action.look (s.resourceToken account .presets)
    body := Dialect.document (Dialect.preset sources preset) }

/-- The id of the next recent: one more than the greatest number that is an id, in 64 bits. -/
def nextRecentId (recents : List Recent) : Nat :=
  let numbers := recents.filterMap fun r => Numeral.unsigned? UInt64.size r.item.id
  (numbers.foldl max 0 + 1) % UInt64.size

/-- The recents after something was played, and its own entry. What was played before keeps its
place and its id. -/
def withRecent (device : Identifier) (request : RecentRequest) (sources : List Source)
    (seconds : Int) (recents : List Recent) : Recent × List Recent :=
  let source := keyOfSource sources request.sourceId
  let utcTime := Int.repr seconds
  upsert (fun r => r.item.source == source && r.item.location == request.location)
    (fun r => { r with
      item := { r.item with name := request.name, kind := request.kind }
      deviceId := device.text
      utcTime })
    { item := {
        id := Nat.repr (nextRecentId recents)
        name := request.name
        source
        kind := request.kind
        location := request.location }
      deviceId := device.text
      utcTime } recents

/-- Records that something was played, at the time that is given or else now. -/
def addRecent (s : Store) (account device body : String) : Action Written := do
  let request ← RecentRequest.ofText body
  let device ← Identifier.ofText device
  let account ← Identifier.ofText account
  let sources ← Action.look (storedSources s account)
  let now := (← get).clock / 1000
  let seconds := (Timestamp.seconds? request.lastPlayedAt.toList).getD now
  let stored ← Action.look (storedRecents s account)
  let (recent, recents) := withRecent device request sources seconds stored
  s.saveRecents account recents
  return {
    token := ← Action.look (s.resourceToken account .recents)
    body := Dialect.document (Dialect.recent sources recent) }

/-- A value that is given, or else the one that is known. -/
def given (value known : String) : String :=
  if value.isEmpty then known else value

/-- The record of a device after its registration. Only the name is taken even if it is empty. -/
def registered (request : DeviceRequest) (known : Device) : Device :=
  { known with
    name := request.name
    address := given request.address known.address
    firmware := given request.firmware known.firmware
    serial := given request.serial known.serial }

/-- Registers a device. -/
def addDevice (s : Store) (account body : String) : Action Written := do
  let request ← DeviceRequest.ofText body
  let id ← Identifier.ofText request.deviceId
  let account ← Identifier.ofText account
  let known ← Action.look (s.deviceOrNew account id)
  let device := registered request known
  s.saveDevice account id device
  let presets ← Action.look (storedPresets s account)
  let recents ← Action.look (storedRecents s account)
  let sources ← Action.look (storedSources s account)
  return {
    token := ← Action.look (s.accountToken account)
    body := Dialect.document (Dialect.device presets recents sources device) }

/-- Removes a device. -/
def removeDevice (s : Store) (account device : String) : Action Unit := do
  let account ← Identifier.ofText account
  let device ← Identifier.ofText device
  s.removeDevice account device

end SpeakerHub.Account
