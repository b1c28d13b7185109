import SpeakerHub.Record.Device
import SpeakerHub.Record.Item

/-! # The stored form of records

Every record and every list is one indented document. A reader takes what a writer wrote, and any
other document with the same fields.

* **`Stored.document`** — the document around a root.
* **`Presets`**, **`Recents`**, **`Sources`** — the text of a list (`toText`) and the list in a text
  (`ofText?`). -/

namespace SpeakerHub

open Markup

namespace Stored

/-- A stored document: a plain declaration, and four spaces for each level. -/
def document (root : Element Attributes) : String :=
  { declaration := plainDeclaration, indent := some "    ", root : Document }.render

/-- The written form of a yes or no. -/
def flag (value : Bool) : String :=
  if value then "true" else "false"

/-- Reads a yes or no: only `false` means no. -/
def readFlag (text : String) : Bool :=
  text != "false"

/-- An item and its picture as an element. -/
def itemElement (tag : String) (item : ContentItem) (containerArt : String) : Element Attributes :=
  ((Element.named tag).attrUnlessEmpty "source" item.source.kind
    |>.attr "type" item.kind
    |>.attr "location" item.location
    |>.attrUnlessEmpty "sourceAccount" item.source.account
    |>.attr "isPresetable" (flag item.isPresetable)).append
      [.leaf "itemName" item.name, .leaf "containerArt" containerArt]

/-- Reads an item, whose id stands outside of it, and its picture. -/
def item? (id : String) (f : Fields) : Option (ContentItem × String) := do
  let kind ← f.text? "@source"
  let account ← f.text? "@sourceAccount"
  let item : ContentItem := {
    id
    name := ← f.text? "itemName"
    source := { kind, account }
    kind := ← f.text? "@type"
    location := ← f.text? "@location"
    isPresetable := readFlag (← f.text? "@isPresetable") }
  return (item, ← f.text? "containerArt")

/-- Reads the list under a key of a document, with a reader for its elements. -/
def list? {α : Type} (key : String) (read? : Fields → Option α) (text : String) :
    Option (List α) := do
  (← (← Fields.ofText? text).items? key).mapM read?

end Stored

/-! ## Devices -/

/-- The stored text of a device. -/
def Device.toText (d : Device) : String :=
  Stored.document d.toElement

/-! ## Presets -/

namespace Preset

/-- A preset as a stored element. -/
def toElement (p : Preset) : Element Attributes :=
  ((Element.named "preset").attr "id" p.item.id
    |>.attr "createdOn" p.createdOn
    |>.attr "updatedOn" p.updatedOn).child
      (Stored.itemElement "ContentItem" p.item p.containerArt)

/-- Reads a stored preset. -/
def ofFields? (f : Fields) : Option Preset := do
  let (item, containerArt) ← Stored.item? (← f.text? "@id") (← f.nested? "ContentItem")
  return { item, containerArt,
           createdOn := ← f.text? "@createdOn", updatedOn := ← f.text? "@updatedOn" }

end Preset

/-- The stored text of a list of presets. -/
def Presets.toText (presets : List Preset) : String :=
  Stored.document ((Element.named "presets").append (presets.map Preset.toElement))

/-- The presets in a stored text. -/
def Presets.ofText? : String → Option (List Preset) :=
  Stored.list? "preset" Preset.ofFields?

/-! ## Recents -/

namespace Recent

/-- A recent as a stored element. -/
def toElement (r : Recent) : Element Attributes :=
  ((Element.named "recent").attr "id" r.item.id
    |>.attr "deviceID" r.deviceId
    |>.attr "utcTime" r.utcTime).child
      (Stored.itemElement "contentItem" r.item r.containerArt)

/-- Reads a stored recent. -/
def ofFields? (f : Fields) : Option Recent := do
  let (item, containerArt) ← Stored.item? (← f.text? "@id") (← f.nested? "contentItem")
  return { item, containerArt,
           deviceId := ← f.text? "@deviceID", utcTime := ← f.text? "@utcTime" }

end Recent

/-- The stored text of a list of recents. -/
def Recents.toText (recents : List Recent) : String :=
  Stored.document ((Element.named "recents").append (recents.map Recent.toElement))

/-- The recents in a stored text. -/
def Recents.ofText? : String → Option (List Recent) :=
  Stored.list? "recent" Recent.ofFields?

/-! ## Sources -/

namespace Source

/-- A source as a stored element. A source without an id is written without one. -/
def toElement (s : Source) : Element Attributes :=
  ((Element.named "source").attr "displayName" s.displayName
    |>.attrUnlessEmpty "id" s.id
    |>.attr "secret" s.secret
    |>.attr "secretType" s.secretType).child
      ((Element.named "sourceKey").attr "type" s.key.kind |>.attr "account" s.key.account)

/-- Reads a stored source. -/
def ofFields? (f : Fields) : Option Source := do
  let key ← f.nested? "sourceKey"
  return {
    displayName := ← f.text? "@displayName"
    id := ← f.text? "@id"
    secret := ← f.text? "@secret"
    secretType := ← f.text? "@secretType"
    key := { kind := ← key.text? "@type", account := ← key.text? "@account" } }

end Source

/-- The stored text of a list of sources. -/
def Sources.toText (sources : List Source) : String :=
  Stored.document ((Element.named "sources").append (sources.map Source.toElement))

/-- The sources in a stored text, with the ids they were stored with. -/
def Sources.ofText? : String → Option (List Source) :=
  Stored.list? "source" Source.ofFields?

end SpeakerHub
