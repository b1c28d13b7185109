import SpeakerHub.Error
import SpeakerHub.Markup.Fields

/-! # What speakers say

The bodies of a speaker's requests. A field that is missing is empty.

* **`PresetRequest`** — a button is to play something.
* **`RecentRequest`** — something was played.
* **`DeviceRequest`** — a device is to be registered. -/

namespace SpeakerHub

open Markup

/-- A button is to play something. -/
structure PresetRequest where
  /-- The id of the source. -/
  sourceId : String
  /-- Where the source finds the item. -/
  location : String
  /-- The kind of item. -/
  kind : String
  /-- The title. -/
  name : String
  /-- The address of a picture. -/
  containerArt : String

/-- Something was played. -/
structure RecentRequest where
  /-- The time as a timestamp. -/
  lastPlayedAt : String
  /-- The id of the source. -/
  sourceId : String
  /-- The title. -/
  name : String
  /-- Where the source finds the item. -/
  location : String
  /-- The kind of item. -/
  kind : String

/-- A device is to be registered. -/
structure DeviceRequest where
  /-- The id of the device. -/
  deviceId : String
  /-- Its name. -/
  name : String
  /-- Where it is reached. -/
  address : String
  /-- The version of its software. -/
  firmware : String
  /-- The serial number of its module. -/
  serial : String

/-- Reads a request with a reader for its fields. -/
def request {α : Type} (read? : Fields → Option α) (body : String) : Except Error α :=
  match (Fields.ofText? body).bind read? with
  | some r => .ok r
  | none => .error .malformedRequest

/-- Reads what a button is to play. -/
def PresetRequest.ofText : String → Except Error PresetRequest :=
  request fun f => do
    return {
      sourceId := ← f.text? "sourceid"
      location := ← f.text? "location"
      kind := ← f.text? "contentItemType"
      name := ← f.text? "name"
      containerArt := ← f.text? "containerArt" }

/-- Reads what was played. -/
def RecentRequest.ofText : String → Except Error RecentRequest :=
  request fun f => do
    return {
      lastPlayedAt := ← f.text? "lastplayedat"
      sourceId := ← f.text? "sourceid"
      name := ← f.text? "name"
      location := ← f.text? "location"
      kind := ← f.text? "contentItemType" }

/-- Reads which device is to be registered. -/
def DeviceRequest.ofText : String → Except Error DeviceRequest :=
  request fun f => do
    return {
      deviceId := ← f.text? "@deviceid"
      name := ← f.text? "name"
      address := ← f.text? "ipaddress"
      firmware := ← f.text? "firmwareVersion"
      serial := ← f.text? "serialnumber" }

end SpeakerHub
