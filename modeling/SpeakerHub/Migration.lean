import SpeakerHub.Remote.Shell
import SpeakerHub.Speaker
import SpeakerHub.Store

/-! # Migration

Speakers read the addresses of the services they use from a file of their own. Migration puts the
addresses of this server there and restarts the speaker; a summary shows what would be changed.

* **`Migration.plannedConfig`** — the file.
* **`Migration.migrate`** — marks the speaker for remote services, uploads the file, restarts.
* **`Migration.enableRemoteServices`** — marks the speaker in the first place that can be written.
* **`Migration.summary`** — what is known about a speaker, from the store, from itself and from its
  files. -/

namespace SpeakerHub

open Markup

namespace Migration

/-- The speaker's file with the addresses of its services. -/
def configPath : String :=
  "/opt/Bose/etc/SoundTouchSdkPrivateCfg.xml"

/-- The files that enable remote services, the best one first. -/
def markers : List String :=
  ["/etc/remote_services", "/mnt/nv/remote_services", "/tmp/remote_services"]

/-- The marker that is gone after a restart. -/
def volatileMarker : String :=
  "/tmp/remote_services"

/-- Makes the speaker's files writable. -/
def remountCommand : String :=
  "rw"

/-- Restarts the speaker. -/
def rebootCommand : String :=
  "rw && reboot"

/-- Does nothing, and so shows that the speaker is there. -/
def livenessCommand : String :=
  "ls /"

/-- Shows what is in a file. -/
def readCommand (path : String) : String :=
  "cat " ++ path

/-- Makes an empty file. -/
def touchCommand (path : String) : String :=
  "touch " ++ path

/-- Succeeds if a file is there. -/
def probeCommand (path : String) : String :=
  "[ -e " ++ path ++ " ]"

/-! ## The planned file -/

/-- A text without the slashes it ends with. -/
def withoutSlashes (target : String) : String :=
  String.ofList (target.toList.reverse.dropWhile (· == '/')).reverse

/-- The file that points a speaker at a target. -/
def plannedConfig (target : String) : String :=
  let target := withoutSlashes target
  let root := (Element.named "SoundTouchSdkPrivateCfg").append
    [.leaf "margeServerUrl" (target ++ "/marge"),
      .leaf "statsServerUrl" target,
      .leaf "swUpdateUrl" (target ++ "/updates/soundtouch"),
      .leaf "usePandoraProductionServer" "true",
      .leaf "isZeroconfEnabled" "true",
      .leaf "saveMargeCustomerReport" "false",
      .leaf "bmxRegistryUrl" (target ++ "/bmx/registry/v1/services")]
  { declaration := "<?xml version=\"1.0\" encoding=\"utf-8\"?>", indent := some "  ",
    root : Document }.render

/-- The target that is asked for, or the server's own address. -/
def resolveTarget (publicUrl : String) (target : Option String) : String :=
  match target with
  | some target => if target.isEmpty then publicUrl else target
  | none => publicUrl

/-! ## Changing a speaker -/

section

variable {σ : Type} (shell : Shell σ) (host : String)

/-- Marks a speaker in the first of some places that can be written. -/
def touchFirst : List String → Conversation σ (Option String)
  | [] => pure none
  | marker :: rest => do
    match ← shell.run host (touchCommand marker) with
    | .ok _ => pure (some marker)
    | .error _ => touchFirst rest

/-- Enables remote services, and says in which place. -/
def enableRemoteServices : Conversation σ (Except Error String) := do
  let _ ← shell.run host remountCommand
  match ← touchFirst shell host markers with
  | some marker => pure (.ok marker)
  | none => pure (.error (.remoteServicesUnavailable markers))

/-- Points a speaker at a target and restarts it. Without remote services it goes on; without the
new file there is no restart. -/
def migrate (target : String) : Conversation σ (Except Error Unit) := do
  let _ ← enableRemoteServices shell host
  match ← shell.upload host (plannedConfig target) configPath with
  | .error e => pure (.error e)
  | .ok _ =>
    match ← shell.run host rebootCommand with
    | .error e => pure (.error e)
    | .ok _ => pure (.ok ())

end

/-! ## Summaries -/

/-- What is known about the file with the addresses. -/
inductive ConfigState where
  /-- What it says. -/
  | content (text : String)
  /-- The speaker is there, but the file could not be read. -/
  | unreadable (reason : Error)
  /-- The speaker is not there. -/
  | offline (reason : Error)

namespace ConfigState

/-- Whether the speaker is there. -/
def isOnline : ConfigState → Bool
  | offline _ => false
  | _ => true

/-- What the file says. -/
def text? : ConfigState → Option String
  | content text => some text
  | _ => none

/-- Why it could not be read. -/
def diagnostic? : ConfigState → Option String
  | content _ => none
  | unreadable reason => some ("Error reading config: " ++ reason.message)
  | offline reason => some ("SSH connection failed: " ++ reason.message)

end ConfigState

/-- What is known about the markers. -/
structure MarkerState where
  /-- The markers that were found. -/
  found : List String := []
  /-- Why not all were looked for. -/
  checkError : Option String := none

/-- Who a speaker is, as far as that is known. -/
structure KnownIdentity where
  /-- Its name. -/
  name : Option String := none
  /-- Its type. -/
  model : Option String := none
  /-- Its serial number. -/
  serial : Option String := none
  /-- The version of its software. -/
  firmware : Option String := none

/-- What is known about a speaker. -/
structure Summary where
  /-- The file with the addresses. -/
  config : ConfigState
  /-- The file that would be put there. -/
  plannedConfig : String
  /-- The markers of remote services. -/
  markers : MarkerState
  /-- Who it is. -/
  identity : KnownIdentity

namespace Summary

/-- Whether the speaker's shell was reached. -/
def isOnline (s : Summary) : Bool :=
  s.config.isOnline

/-- Whether remote services are enabled. -/
def remoteServicesEnabled (s : Summary) : Bool :=
  !s.markers.found.isEmpty

/-- Whether they stay enabled after a restart. -/
def remoteServicesPersistent (s : Summary) : Bool :=
  s.markers.found.any (· != volatileMarker)

end Summary

/-- Who a speaker is according to its record. -/
def KnownIdentity.ofDevice (d : Device) : KnownIdentity :=
  { name := some d.name, model := some d.productCode, serial := some d.serial,
    firmware := some d.firmware }

/-- Who a speaker is: what it says itself, and what is known beside that. -/
def KnownIdentity.updated (known : KnownIdentity) (live : LiveIdentity) : KnownIdentity :=
  { name := live.name.or known.name
    model := live.model.or known.model
    serial := live.serial.or known.serial
    firmware := live.firmware.or known.firmware }

/-- Who the speaker at a host is, from the first record with that address and from itself. -/
def identityOf (s : Store) (d : Disk) (speakers : Speakers) (host : String) : KnownIdentity :=
  let cached? := match s.allDevices none d with
    | .ok devices => devices.find? fun (filed : FiledDevice) => filed.device.address == host
    | .error _ => none
  let known : KnownIdentity := match cached? with
    | some cached => .ofDevice cached.device
    | none => {}
  match Speaker.ask speakers host with
  | .ok live => known.updated live
  | .error _ => known

section

variable {σ : Type} (shell : Shell σ) (host : String)

/-- Reads the file with the addresses. If there is nothing to be read, a second command shows
whether the speaker is there. -/
def readConfig : Conversation σ ConfigState := do
  let answer ← shell.run host (readCommand configPath)
  match answer with
  | .ok text =>
    if text.isEmpty then
      match ← shell.run host livenessCommand with
      | .ok _ => pure (.content text)
      | .error e => pure (.offline e)
    else pure (.content text)
  | .error reason =>
    match ← shell.run host livenessCommand with
    | .ok _ => pure (.unreadable reason)
    | .error e => pure (.offline e)

/-- Looks for some markers, up to an error that is more than a missing file. -/
def probeMarkers : List String → Conversation σ MarkerState
  | [] => pure {}
  | marker :: rest => do
    match ← shell.run host (probeCommand marker) with
    | .ok _ =>
      let state ← probeMarkers rest
      pure { state with found := marker :: state.found }
    | .error (.commandFailed _) => probeMarkers rest
    | .error e => pure { checkError := some e.message }

/-- What is known about the speaker at a host. -/
def summary (s : Store) (d : Disk) (speakers : Speakers) (target : String) :
    Conversation σ Summary := do
  let config ← readConfig shell host
  let markers ←
    if config.isOnline then probeMarkers shell host markers
    else pure { checkError := some "Skipped, the device is not reachable" }
  pure { config, plannedConfig := plannedConfig target, markers,
         identity := identityOf s d speakers host }

end

end Migration

end SpeakerHub
