import SpeakerHub.Calendar.Timestamp
import SpeakerHub.Markup.Printer
import SpeakerHub.Record.Device
import SpeakerHub.Record.Item

/-! # What speakers are told

Records as the elements that a speaker's firmware understands. The firmware reads fields in a fixed
order, so every element has the order given here.

* **`Dialect.source`**, **`preset`**, **`recent`**, **`device`**, **`account`** — records.
* **`Dialect.presets`**, **`recents`** — lists; recents are sorted, the latest first.
* **`Dialect.sourceProviders`**, **`softwareUpdate`**, **`providerSettings`** — fixed answers. -/

namespace SpeakerHub.Dialect

open Markup

/-- An element with children. -/
def group (name : String) (children : List (Element Attributes)) : Element Attributes :=
  (Element.named name).append children

/-- A timestamp, or the one that stands for an unknown time. -/
def timestampOrDefault (text : String) : String :=
  if text.isEmpty then Catalog.timestamp else text

/-- The second of a play as a timestamp, empty if it is none or cannot be written. -/
def lastPlayedAt (utcTime : String) : String :=
  match Numeral.signed? utcTime with
  | some seconds => if Timestamp.IsWritable seconds then Timestamp.ofSeconds seconds else ""
  | none => ""

/-! ## Catalog -/

/-- A provider with its number. -/
def sourceProvider (number : Nat) (name : String) : Element Attributes :=
  ((Element.named "sourceProvider").attr "id" (Nat.repr number)).append
    [.leaf "createdOn" Catalog.timestamp, .leaf "name" name, .leaf "updatedOn" Catalog.timestamp]

/-- All providers. -/
def sourceProviders : Element Attributes :=
  group "sourceProviders" (Catalog.providers.mapIdx fun i name => sourceProvider (i + 1) name)

/-- The answer that there is no newer software. -/
def softwareUpdate : Element Attributes :=
  group "software_update" [.leaf "softwareUpdateLocation" ""]

/-- The settings of an account at its providers. -/
def providerSettings (account : String) : Element Attributes :=
  group "providerSettings"
    [group "providerSetting"
      [.leaf "boseId" account,
        .leaf "keyName" "ELIGIBLE_FOR_TRIAL",
        .leaf "value" "true",
        .leaf "providerId" "14"]]

/-! ## Records -/

/-- A source. -/
def source (s : Source) : Element Attributes :=
  ((Element.named "source").attr "id" s.id |>.attr "type" "Audio").append
    [.leaf "createdOn" Catalog.timestamp,
      ((Element.named "credential").attr "type" "token").text s.secret,
      .leaf "name" s.key.account,
      .leaf "sourceproviderid" (Nat.repr s.providerNumber),
      .leaf "sourcename" s.displayName,
      .leaf "sourcesettings" "",
      .leaf "updatedOn" Catalog.timestamp,
      .leaf "username" s.key.account]

/-- The first of some sources that serves an item, as a list of at most one element. -/
def servingSource (sources : List Source) (item : ContentItem) : List (Element Attributes) :=
  ((sources.find? (·.serves item)).map source).toList

/-- A preset with the source that serves it. -/
def preset (sources : List Source) (p : Preset) : Element Attributes :=
  ((Element.named "preset").attr "buttonNumber" p.item.id).append
    ([.leaf "containerArt" p.containerArt,
      .leaf "contentItemType" p.item.kind,
      .leaf "createdOn" (timestampOrDefault p.createdOn),
      .leaf "location" p.item.location,
      .leaf "name" p.item.name]
    ++ servingSource sources p.item
    ++ [.leaf "updatedOn" (timestampOrDefault p.updatedOn)])

/-- A list of presets. -/
def presets (sources : List Source) (presets : List Preset) : Element Attributes :=
  group "presets" (presets.map (preset sources))

/-- A recent with the source that serves it. -/
def recent (sources : List Source) (r : Recent) : Element Attributes :=
  ((Element.named "recent").attr "id" r.item.id).append
    ([.leaf "contentItemType" r.item.kind,
      .leaf "createdOn" Catalog.timestamp,
      .leaf "lastplayedat" (lastPlayedAt r.utcTime),
      .leaf "location" r.item.location,
      .leaf "name" r.item.name]
    ++ servingSource sources r.item
    ++ [.leaf "updatedOn" Catalog.timestamp])

/-- Whether a recent comes in front of another one, or may do so: it was played no earlier. What was
played at no known time comes last. -/
def isNoEarlier (r s : Recent) : Bool :=
  match r.playedAt, s.playedAt with
  | some at₁, some at₂ => at₂ ≤ at₁
  | some _, none => true
  | none, some _ => false
  | none, none => true

/-- A list of recents, the latest first; among equals the order is kept. -/
def recents (sources : List Source) (recents : List Recent) : Element Attributes :=
  group "recents" ((recents.mergeSort isNoEarlier).map (recent sources))

/-- A device with the presets and recents of its account. -/
def device (presets : List Preset) (recents : List Recent) (sources : List Source) (d : Device) :
    Element Attributes :=
  ((Element.named "device").attr "deviceid" d.id).append
    [((Element.named "attachedProduct").attr "product_code" d.productCode).append
        [.named "components",
          .leaf "productlabel" d.productCode,
          .leaf "serialnumber" d.productSerial],
      .leaf "createdOn" Catalog.timestamp,
      .leaf "firmwareVersion" d.firmware,
      .leaf "ipaddress" d.address,
      .leaf "name" d.name,
      Dialect.presets sources presets,
      Dialect.recents sources recents,
      .leaf "serialnumber" d.serial,
      .leaf "updatedOn" Catalog.timestamp]

/-- An account with everything it has. -/
def account (id : String) (devices : List Device) (presets : List Preset) (recents : List Recent)
    (sources : List Source) : Element Attributes :=
  ((Element.named "account").attr "id" id).append
    [.leaf "accountStatus" "OK",
      group "devices" (devices.map (device presets recents sources)),
      .leaf "mode" "global",
      .leaf "preferrendLanguage" "en",
      providerSettings id,
      group "sources" (sources.map source)]

/-- An element as the document that is served. -/
def document (root : Element Attributes) : String :=
  { root : Document }.render

end SpeakerHub.Dialect
