import SpeakerHub.Disk.Basic
import SpeakerHub.Error
import SpeakerHub.Record.Stored

/-! # The store

Accounts and their devices on the disk: one directory for each account, in it one document for each
of its lists, and under `devices` one directory for each device with its document. A document is
written beside the one it replaces and then takes its place.

* **`Store.presets`**, **`recents`**, **`sources`**, **`device`** — what is stored.
* **`Store.savePresets`**, **`saveRecents`**, **`saveSources`**, **`saveDevice`**,
  **`removeDevice`** — changes.
* **`Store.deviceNames`**, **`allDevices`** — listings.
* **`Sources.assignIds`** — sources without an id get the lowest free numbers. -/

namespace SpeakerHub

/-- A change of the disk that can fail on its way. -/
abbrev Action := ExceptT Error (StateM Disk)

namespace Action

/-- A look at the disk. -/
def look {α : Type} (f : Disk → Except Error α) : Action α :=
  fun d => (f d, d)

/-- A step on the disk; whatever is in its way is an error about a path. -/
def step (path : Path) (f : Disk → Except Fault Unit × Disk) : Action Unit :=
  fun d =>
    match f d with
    | (.ok (), d) => (.ok (), d)
    | (.error _, d) => (.error (.io path), d)

end Action

/-! ## Where things are -/

/-- The lists that an account has. -/
inductive Resource where
  /-- What is behind the buttons. -/
  | presets
  /-- What was played. -/
  | recents
  /-- The configured sources. -/
  | sources
  deriving DecidableEq

/-- All lists. -/
def Resource.all : List Resource :=
  [presets, recents, sources]

/-- The name of the file that holds a list. -/
def Resource.fileName : Resource → String
  | presets => "Presets.xml"
  | recents => "Recents.xml"
  | sources => "Sources.xml"

/-- A store in a directory. -/
structure Store where
  /-- The directory. -/
  directory : Path

namespace Store

/-- The directory of all accounts. -/
def accountsPath (s : Store) : Path :=
  s.directory ++ Path.ofTexts ["accounts"]

/-- The directory of an account. -/
def accountPath (s : Store) (account : Identifier) : Path :=
  s.accountsPath ++ Path.ofTexts [account.text]

/-- The directory of an account's devices. -/
def devicesPath (s : Store) (account : Identifier) : Path :=
  s.accountPath account ++ Path.ofTexts ["devices"]

/-- The directory of a device. -/
def devicePath (s : Store) (account device : Identifier) : Path :=
  s.devicesPath account ++ Path.ofTexts [device.text]

/-- The document of a device. -/
def recordPath (s : Store) (account device : Identifier) : Path :=
  s.devicePath account device ++ Path.ofTexts ["DeviceInfo.xml"]

/-- The document of a list. -/
def resourcePath (s : Store) (account : Identifier) (resource : Resource) : Path :=
  s.accountPath account ++ Path.ofTexts [resource.fileName]

end Store

/-! ## Numbers for sources -/

namespace Sources

/-- The first number from `least` on that is not taken. Among one number more than are taken there
is one. -/
def firstFree (taken : List Nat) (least : Nat) : Nat :=
  ((List.range' least (taken.length + 1)).find? (!taken.contains ·)).getD least

/-- Gives numbers from `least` on that are not taken to the sources without an id, in their
order. -/
def assignFrom (taken : List Nat) (least : Nat) : List Source → List Source
  | [] => []
  | s :: rest =>
    if s.id.isEmpty then
      let n := firstFree taken least
      { s with id := Nat.repr n } :: assignFrom taken (n + 1) rest
    else s :: assignFrom taken least rest

/-- The numbers that are ids of sources. -/
def numbers (sources : List Source) : List Nat :=
  sources.filterMap fun s => Numeral.unsigned? UInt64.size s.id

/-- Gives every source without an id the lowest free number. -/
def assignIds (sources : List Source) : List Source :=
  assignFrom (numbers sources) Catalog.firstSourceId sources

end Sources

/-! ## Reading -/

/-- A device and the account it is filed under. -/
structure FiledDevice where
  /-- The account. -/
  account : Identifier
  /-- The record. -/
  device : Device

namespace Store

/-- What a document says. -/
def read {α : Type} (path : Path) (ofText? : String → Option α) (d : Disk) : Except Error α :=
  match d.content path with
  | .error .notFound => .error (.notFound path)
  | .error _ => .error (.io path)
  | .ok content =>
    match String.fromUTF8? content with
    | none => .error (.io path)
    | some text =>
      match ofText? text with
      | none => .error (.corrupted path)
      | some value => .ok value

/-- The presets of an account. -/
def presets (s : Store) (account : Identifier) : Disk → Except Error (List Preset) :=
  read (s.resourcePath account .presets) Presets.ofText?

/-- The recents of an account. -/
def recents (s : Store) (account : Identifier) : Disk → Except Error (List Recent) :=
  read (s.resourcePath account .recents) Recents.ofText?

/-- The sources of an account, each with an id. -/
def sources (s : Store) (account : Identifier) (d : Disk) : Except Error (List Source) :=
  (read (s.resourcePath account .sources) Sources.ofText? d).map Sources.assignIds

/-- The record of a device. -/
def device (s : Store) (account device : Identifier) : Disk → Except Error Device :=
  read (s.recordPath account device) Device.ofText?

/-- The record of a device, or a new one with its id alone if there is none. -/
def deviceOrNew (s : Store) (account id : Identifier) (d : Disk) : Except Error Device :=
  match s.device account id d with
  | .error (.notFound _) => .ok { id := id.text }
  | result => result

/-- The names of the directories in a directory, none if it does not exist. -/
def directories (path : Path) (d : Disk) : Except Error (List String) :=
  match d.directories path with
  | .ok names => .ok names
  | .error .notFound => .ok []
  | .error _ => .error (.io path)

/-- The names under which an account has devices. -/
def deviceNames (s : Store) (account : Identifier) : Disk → Except Error (List String) :=
  directories (s.devicesPath account)

/-- The devices of an account whose records can be read. -/
def readableDevices (s : Store) (d : Disk) (account : Identifier) : List FiledDevice :=
  match s.deviceNames account d with
  | .ok names =>
    (names.filterMap Identifier.ofText?).filterMap fun id =>
      match s.device account id d with
      | .ok device => some { account, device }
      | .error _ => none
  | .error _ => []

/-- The devices whose records can be read, of one account or of all. -/
def allDevices (s : Store) (account? : Option Identifier) (d : Disk) :
    Except Error (List FiledDevice) := do
  let accounts ← match account? with
    | some account => pure [account]
    | none => (directories s.accountsPath d).map (·.filterMap Identifier.ofText?)
  return accounts.flatMap (s.readableDevices d)

/-! ## Changing -/

/-- Writes a document: makes the directories around it, writes it under another name, and gives it
its own. -/
def write (path : Path) (text : String) : Action Unit := do
  let draft := path.sibling ".tmp"
  Action.step path.parent (Disk.makeDirectories path.parent)
  Action.step draft (Disk.put draft text.toUTF8)
  Action.step path (Disk.rename draft path)

/-- Stores the presets of an account in place of the ones it has. -/
def savePresets (s : Store) (account : Identifier) (presets : List Preset) : Action Unit :=
  write (s.resourcePath account .presets) (Presets.toText presets)

/-- Stores the recents of an account in place of the ones it has. -/
def saveRecents (s : Store) (account : Identifier) (recents : List Recent) : Action Unit :=
  write (s.resourcePath account .recents) (Recents.toText recents)

/-- Stores the sources of an account in place of the ones it has. -/
def saveSources (s : Store) (account : Identifier) (sources : List Source) : Action Unit :=
  write (s.resourcePath account .sources) (Sources.toText sources)

/-- Stores the record of a device. -/
def saveDevice (s : Store) (account id : Identifier) (device : Device) : Action Unit :=
  write (s.recordPath account id) device.toText

/-- Removes a device with everything stored about it. It need not be there. -/
def removeDevice (s : Store) (account id : Identifier) : Action Unit :=
  let path := s.devicePath account id
  fun d =>
    match d.removeTree path with
    | (.ok (), d) => (.ok (), d)
    | (.error .notFound, d) => (.ok (), d)
    | (.error _, d) => (.error (.io path), d)

end Store

end SpeakerHub
