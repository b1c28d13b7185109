import SpeakerHub.Error
import SpeakerHub.Record.Device
import SpeakerHub.Text.Utf8

/-! # Asking speakers who they are

Every speaker describes itself under an address of its own.

* **`LiveIdentity`** — what a speaker says; what it leaves blank is not said.
* **`Speaker.infoUrl`** — the address that is asked.
* **`Speaker.ask`** — the answer, or the error that there is none that could be read. -/

namespace SpeakerHub

/-- What a speaker says about itself. -/
structure LiveIdentity where
  /-- The id it gives itself. -/
  deviceId : Option String
  /-- Its name. -/
  name : Option String
  /-- The type of the device. -/
  model : Option String
  /-- The serial number of its module, or else of the product. -/
  serial : Option String
  /-- The version of its software. -/
  firmware : Option String
  /-- Where it is reached. -/
  address : Option String
  deriving DecidableEq

namespace LiveIdentity

/-- A text, unless it is empty. -/
def said (text : String) : Option String :=
  if text.isEmpty then none else some text

/-- What is said is the text, which then is not empty. -/
theorem said_eq_some_iff {text value : String} :
    said text = some value ↔ text = value ∧ value ≠ "" := by
  rw [said]
  by_cases hempty : text = ""
  · subst hempty
    refine iff_of_false nofun ?_
    rintro ⟨rfl, hne⟩
    exact hne rfl
  · have hfalse : text.isEmpty = false := by simpa using hempty
    rw [hfalse, if_neg nofun, Option.some.injEq]
    exact ⟨fun h => ⟨h, h ▸ hempty⟩, fun h => h.1⟩

/-- What both halves of a document say together. -/
def ofHalves (i : Identity) (n : Network) : LiveIdentity :=
  let control? := i.last? Component.controlModule
  let product? := i.last? Component.packagedProduct
  { deviceId := said i.deviceId
    name := said i.name
    model := said i.deviceType
    serial := (control?.bind (said ·.serialNumber)).or (product?.bind (said ·.serialNumber))
    firmware := control?.bind (said ·.softwareVersion)
    address := n.main?.bind (said ·.address) }

/-- Reads what a speaker says. -/
def ofText? (text : String) : Option LiveIdentity := do
  return ofHalves (← Identity.ofText? text) (← Network.ofText? text)

end LiveIdentity

/-! ## Answers -/

/-- An answer to a request. -/
structure Reply where
  /-- The status; from 400 on it tells of a failure. -/
  status : Nat
  /-- What is answered. -/
  body : List UInt8

/-- What is answered under an address, nothing if nobody is there. -/
abbrev Speakers := String → Option Reply

namespace Speaker

/-- The speakers of a place where nobody answers. -/
def nobody : Speakers :=
  fun _ => none

/-- The address under which a host describes itself. A host that is given with a port is asked
there. -/
def infoUrl (host : String) : String :=
  let place := if host.toList.contains ':' then host else host ++ ":8090"
  "http://" ++ place ++ "/info"

/-- Asks a host who it is. -/
def ask (speakers : Speakers) (host : String) : Except Error LiveIdentity :=
  let url := infoUrl host
  match speakers url with
  | none => .error (.identityQuery url "no answer")
  | some reply =>
    if 400 ≤ reply.status then .error (.identityQuery url ("status " ++ Nat.repr reply.status))
    else
      match LiveIdentity.ofText? (Utf8.decodeLossy reply.body) with
      | some live => .ok live
      | none => .error (.identityQuery url "unreadable answer")

end Speaker

end SpeakerHub
