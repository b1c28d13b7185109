import SpeakerHub.Account.Dialect
import SpeakerHub.Account.Request
import SpeakerHub.Proofs.Markup.Records

/-! # What speakers are told reads back as what they say

The elements that speakers are told are records, and a request that is read out of one of them holds
the fields of the record itself. The same names stand deeper in them as well, in the source of an
item, in the product of a device and in its lists, but whatever stands deeper is passed over.

* **`Dialect.isRecord_preset`**, **`isRecord_recent`**, **`isRecord_device`** — the elements are
  records.
* **`PresetRequest.ofText_preset`**, **`RecentRequest.ofText_recent`** — what is read out of an
  item.
* **`DeviceRequest.ofText_device`** — what is read out of a device, on its own or as a document. -/

namespace SpeakerHub

open Markup

namespace Dialect

/-! ## Records -/

/-- A group of elements with plain names is a record. -/
theorem isRecord_group {name : String} (h : IsName name) {children : List (Element Attributes)}
    (hchildren : ∀ x ∈ children, x.IsWellFormed ∧ IsPlainName x.name) :
    (group name children).IsRecord children :=
  (Element.IsRecord.named h).append hchildren

/-- The element of a source can be written. -/
theorem isWellFormed_source (s : Source) : (source s).IsWellFormed := by
  simp +decide [source]

/-- The source that serves an item can be written. -/
theorem isWellFormed_servingSource {sources : List Source} {item : ContentItem} :
    ∀ x ∈ servingSource sources item, x.IsWellFormed ∧ x.name = "source" := by
  intro x hx
  rw [servingSource, Option.mem_toList, Option.map_eq_some_iff] at hx
  obtain ⟨s, -, rfl⟩ := hx
  exact ⟨isWellFormed_source s, rfl⟩

/-- Some elements, then the source that serves an item, then a time. -/
def withSource (front : List (Element Attributes)) (sources : List Source) (item : ContentItem)
    (updatedOn : String) : List (Element Attributes) :=
  front ++ servingSource sources item ++ [.leaf "updatedOn" updatedOn]

section

variable {e : Element Attributes} {front : List (Element Attributes)} {sources : List Source}
variable {item : ContentItem} {updatedOn : String}

/-- A record stays one with a source and a time behind it. -/
theorem isRecord_withSource (h : e.IsRecord [])
    (hfront : ∀ x ∈ front, x.IsWellFormed ∧ IsPlainName x.name) :
    (e.append (withSource front sources item updatedOn)).IsRecord
      (withSource front sources item updatedOn) := by
  refine h.append fun x hx => ?_
  rw [withSource, List.mem_append, List.mem_append, List.mem_singleton] at hx
  rcases hx with (hx | hx) | rfl
  · exact hfront x hx
  · obtain ⟨hformed, hname⟩ := isWellFormed_servingSource x hx
    rw [hname]
    exact ⟨hformed, by decide⟩
  · simp +decide

/-- **The source is passed over**: under other names there is what stands in front of it. -/
theorem filter_withSource {key : String} (hsource : key ≠ "source") (htime : key ≠ "updatedOn") :
    (withSource front sources item updatedOn).filter (·.name == key)
      = front.filter (·.name == key) := by
  have hnone : (servingSource sources item).filter (·.name == key) = [] := by
    rw [List.filter_eq_nil_iff]
    intro x hx he
    rw [(isWellFormed_servingSource x hx).2, beq_iff_eq] at he
    exact hsource he.symm
  have hlast : [Element.leaf "updatedOn" updatedOn].filter (·.name == key) = [] := by
    simp [htime.symm]
  rw [withSource, List.filter_append, List.filter_append, hnone, hlast, List.append_nil,
    List.append_nil]

/-- A leaf in front of the source is read as its text. -/
theorem text_withSource (h : e.IsRecord (withSource front sources item updatedOn)) (key : String)
    {content : String} (hkey : '@' ∉ key.toList ∧ key ≠ "source" ∧ key ≠ "updatedOn")
    (honly : front.filter (·.name == key) = [.leaf key content]) :
    (Fields.of e).text? key = some content :=
  h.text_child hkey.1 ((filter_withSource hkey.2.1 hkey.2.2).trans honly)

end

/-- What stands between the tags of a preset in front of its source. -/
def presetElements (p : Preset) : List (Element Attributes) :=
  [.leaf "containerArt" p.containerArt,
    .leaf "contentItemType" p.item.kind,
    .leaf "createdOn" (timestampOrDefault p.createdOn),
    .leaf "location" p.item.location,
    .leaf "name" p.item.name]

/-- The element of a preset is a record. -/
theorem isRecord_preset (sources : List Source) (p : Preset) :
    (preset sources p).IsRecord
      (withSource (presetElements p) sources p.item (timestampOrDefault p.updatedOn)) := by
  refine isRecord_withSource ((Element.IsRecord.named (by decide)).attr (by decide) ?_ _) ?_
  · simp
  · simp +decide

/-- What stands between the tags of a recent in front of its source. -/
def recentElements (r : Recent) : List (Element Attributes) :=
  [.leaf "contentItemType" r.item.kind,
    .leaf "createdOn" Catalog.timestamp,
    .leaf "lastplayedat" (lastPlayedAt r.utcTime),
    .leaf "location" r.item.location,
    .leaf "name" r.item.name]

/-- The element of a recent is a record. -/
theorem isRecord_recent (sources : List Source) (r : Recent) :
    (recent sources r).IsRecord
      (withSource (recentElements r) sources r.item Catalog.timestamp) := by
  refine isRecord_withSource ((Element.IsRecord.named (by decide)).attr (by decide) ?_ _) ?_
  · simp
  · simp +decide

/-- A list of presets can be written. -/
theorem isWellFormed_presets (sources : List Source) (xs : List Preset) :
    (presets sources xs).IsWellFormed := by
  refine (isRecord_group (by decide) ?_).wellFormed
  rw [List.forall_mem_map]
  exact fun p _ => ⟨(isRecord_preset sources p).wellFormed, (by decide : IsPlainName "preset")⟩

/-- A list of recents can be written. -/
theorem isWellFormed_recents (sources : List Source) (xs : List Recent) :
    (recents sources xs).IsWellFormed := by
  refine (isRecord_group (by decide) ?_).wellFormed
  rw [List.forall_mem_map]
  exact fun r _ => ⟨(isRecord_recent sources r).wellFormed, (by decide : IsPlainName "recent")⟩

/-- The element of the product around a device. -/
def productElement (d : Device) : Element Attributes :=
  ((Element.named "attachedProduct").attr "product_code" d.productCode).append
    [.named "components",
      .leaf "productlabel" d.productCode,
      .leaf "serialnumber" d.productSerial]

/-- What stands between the tags of a device. -/
def deviceElements (xs : List Preset) (ys : List Recent) (sources : List Source) (d : Device) :
    List (Element Attributes) :=
  [productElement d,
    .leaf "createdOn" Catalog.timestamp,
    .leaf "firmwareVersion" d.firmware,
    .leaf "ipaddress" d.address,
    .leaf "name" d.name,
    presets sources xs,
    recents sources ys,
    .leaf "serialnumber" d.serial,
    .leaf "updatedOn" Catalog.timestamp]

/-- The element of a device is a record. -/
theorem isRecord_device (xs : List Preset) (ys : List Recent) (sources : List Source)
    (d : Device) : (device xs ys sources d).IsRecord (deviceElements xs ys sources d) := by
  have hpresets : IsPlainName (presets sources xs).name := (by decide : IsPlainName "presets")
  have hrecents : IsPlainName (recents sources ys).name := (by decide : IsPlainName "recents")
  refine ((Element.IsRecord.named (by decide)).attr (by decide) (by simp) _).append ?_
  simp +decide [hpresets, hrecents, isWellFormed_presets, isWellFormed_recents]

end Dialect

/-! ## Requests -/

/-- A request is read out of the fields of a text. -/
theorem request_of_fields {α : Type} {read? : Fields → Option α} {body : String} {f : Fields}
    {r : α} (hfields : Fields.ofText? body = some f) (hread : read? f = some r) :
    request read? body = .ok r := by
  rw [request, hfields, Option.bind_some, hread]

/-- **What is read out of a preset** is the preset, without the id of its source. -/
theorem PresetRequest.ofText_preset (sources : List Source) (p : Preset) :
    PresetRequest.ofText (Dialect.preset sources p).render = .ok
      { sourceId := ""
        location := p.item.location
        kind := p.item.kind
        name := p.item.name
        containerArt := p.containerArt } := by
  have h := Dialect.isRecord_preset sources p
  have hid : (Fields.of (Dialect.preset sources p)).text? "sourceid" = some "" :=
    h.text_none (by decide) (Dialect.filter_withSource (by decide) (by decide))
  have hlocation := Dialect.text_withSource h "location" (by decide) rfl
  have hkind := Dialect.text_withSource h "contentItemType" (by decide) rfl
  have hname := Dialect.text_withSource h "name" (by decide) rfl
  have hart := Dialect.text_withSource h "containerArt" (by decide) rfl
  refine request_of_fields (Fields.ofText_render h.wellFormed).1 ?_
  simp only [hid, hlocation, hkind, hname, hart, Option.bind_eq_bind, Option.bind_some]
  rfl

/-- **What is read out of a recent** is the recent, without the id of its source. -/
theorem RecentRequest.ofText_recent (sources : List Source) (r : Recent) :
    RecentRequest.ofText (Dialect.recent sources r).render = .ok
      { lastPlayedAt := Dialect.lastPlayedAt r.utcTime
        sourceId := ""
        name := r.item.name
        location := r.item.location
        kind := r.item.kind } := by
  have h := Dialect.isRecord_recent sources r
  have hid : (Fields.of (Dialect.recent sources r)).text? "sourceid" = some "" :=
    h.text_none (by decide) (Dialect.filter_withSource (by decide) (by decide))
  have hplayed := Dialect.text_withSource h "lastplayedat" (by decide) rfl
  have hlocation := Dialect.text_withSource h "location" (by decide) rfl
  have hkind := Dialect.text_withSource h "contentItemType" (by decide) rfl
  have hname := Dialect.text_withSource h "name" (by decide) rfl
  refine request_of_fields (Fields.ofText_render h.wellFormed).1 ?_
  simp only [hid, hplayed, hlocation, hkind, hname, Option.bind_eq_bind, Option.bind_some]
  rfl

/-- What a device says about itself. -/
def Device.request (d : Device) : DeviceRequest :=
  { deviceId := d.id
    name := d.name
    address := d.address
    firmware := d.firmware
    serial := d.serial }

/-- **What is read out of a device** is the device, and nothing of its product, its lists or their
sources. -/
theorem DeviceRequest.ofText_device (xs : List Preset) (ys : List Recent) (sources : List Source)
    (d : Device) :
    DeviceRequest.ofText (Dialect.device xs ys sources d).render = .ok d.request
      ∧ DeviceRequest.ofText (Dialect.document (Dialect.device xs ys sources d))
        = .ok d.request := by
  have h := Dialect.isRecord_device xs ys sources d
  have hid : (Fields.of (Dialect.device xs ys sources d)).text? "@deviceid" = some d.id :=
    h.text_attr "deviceid" rfl (by simp [Dialect.device])
  have hname : (Fields.of (Dialect.device xs ys sources d)).text? "name" = some d.name :=
    h.text_child (by decide) rfl
  have haddress : (Fields.of (Dialect.device xs ys sources d)).text? "ipaddress"
      = some d.address := h.text_child (by decide) rfl
  have hfirmware : (Fields.of (Dialect.device xs ys sources d)).text? "firmwareVersion"
      = some d.firmware := h.text_child (by decide) rfl
  have hserial : (Fields.of (Dialect.device xs ys sources d)).text? "serialnumber"
      = some d.serial := h.text_child (by decide) rfl
  obtain ⟨helement, hdocument⟩ := Fields.ofText_render h.wellFormed
  have hdocument := hdocument { root := Dialect.device xs ys sources d } rfl
    isDeclaration_standalone isIndent_none
  constructor
  · refine request_of_fields helement ?_
    simp only [hid, hname, haddress, hfirmware, hserial, Option.bind_eq_bind, Option.bind_some]
    rfl
  · refine request_of_fields hdocument ?_
    simp only [hid, hname, haddress, hfirmware, hserial, Option.bind_eq_bind, Option.bind_some]
    rfl

end SpeakerHub
