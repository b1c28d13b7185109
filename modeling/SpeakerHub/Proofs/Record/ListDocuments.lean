import SpeakerHub.Proofs.Markup.Records
import SpeakerHub.Record.Stored

/-! # Stored lists read back

Presets, recents and sources are read from their stored text as they were stored, whatever text
their fields hold. Attributes that were left out come back empty.

* **`Stored.fields_document`** — a stored document is read as the members of its root.
* **`Stored.list_document`** — a stored list is read item by item, if each item reads back.
* **`Preset.ofFields_of`**, **`Recent.ofFields_of`**, **`Source.ofFields_of`** — the items.
* **`Presets.ofText_toText`**, **`Recents.ofText_toText`**, **`Sources.ofText_toText`** — the lists;
  **`lists_survive_storing`** — all three. -/

namespace SpeakerHub

open Markup

namespace Stored

/-- Four spaces are indentation. -/
theorem isIndent_document : IsIndent (some "    ") := by
  intro unit h
  obtain rfl : "    " = unit := by simpa using h
  exact List.all_eq_true.1 (by decide : "    ".toList.all isBlank = true)

/-- **A stored document is read as the members of its root.** -/
theorem fields_document {root : Element Attributes} (h : root.IsWellFormed) :
    Fields.ofText? (document root) = some (Fields.of root) :=
  (Fields.ofText_render h).2 _ rfl isDeclaration_plain isIndent_document

/-- **A stored list is read item by item**, if each item reads back. -/
theorem list_document {α : Type} {root key : String} {write : α → Element Attributes}
    {read? : Fields → Option α} (hroot : IsName root) (hkey : IsPlainName key)
    (hwrite : ∀ x, (write x).IsWellFormed ∧ (write x).name = key)
    (hread : ∀ x, read? (Fields.of (write x)) = some x) (xs : List α) :
    list? key read? (document ((Element.named root).append (xs.map write))) = some xs := by
  have hitems : ∀ y ∈ xs.map write, y.IsWellFormed ∧ y.name = key := by
    rw [List.forall_mem_map]
    exact fun x _ => hwrite x
  have hrecord : ((Element.named root).append (xs.map write)).IsRecord
      ([] ++ (xs.map write ++ [])) := by
    rw [List.append_nil]
    exact (Element.IsRecord.named hroot).append fun y hy =>
      ⟨(hitems y hy).1, (hitems y hy).2.symm ▸ hkey⟩
  have hat : '@' ∉ key.toList := fun hmem =>
    ne_of_isNameChar (hkey.1.isNameChar hmem) (by decide) rfl
  have hall : ((xs.map write).map Fields.of).mapM read? = some xs := by
    rw [List.mapM_map, List.mapM_map]
    have hxs := mapM_eq_some fun x (_ : x ∈ xs) => hread x
    rw [List.map_id'] at hxs
    exact hxs
  rw [list?, fields_document hrecord.wellFormed]
  simp only [Option.bind_eq_bind, Option.bind_some,
    hrecord.items hat hitems (by simp) (by simp)]
  exact hall

/-! ## Items -/

/-- A stored yes or no reads back. -/
@[simp] theorem readFlag_flag (value : Bool) : readFlag (flag value) = value := by
  cases value <;> rfl

/-- The element of an item is a record. -/
theorem isRecord_itemElement {tag : String} (htag : IsName tag) (item : ContentItem)
    (containerArt : String) :
    (itemElement tag item containerArt).IsRecord
      [.leaf "itemName" item.name, .leaf "containerArt" containerArt] := by
  unfold itemElement
  refine ((((((Element.IsRecord.named htag).attrUnlessEmpty (by decide) (by simp) _).attr
    (by decide) ?_ _).attr (by decide) ?_ _).attrUnlessEmpty (by decide) ?_ _).attr (by decide)
    ?_ _).append ?_
  all_goals simp +decide

/-- **A stored item reads back** with the id that stands outside of it. -/
theorem item_itemElement {tag : String} (htag : IsName tag) (item : ContentItem)
    (containerArt : String) :
    item? item.id (Fields.of (itemElement tag item containerArt)) = some (item, containerArt) := by
  have h := isRecord_itemElement htag item containerArt
  have hsource : (Fields.of (itemElement tag item containerArt)).text? "@source"
      = some item.source.kind := h.text_attr "source" rfl (by simp [itemElement])
  have haccount : (Fields.of (itemElement tag item containerArt)).text? "@sourceAccount"
      = some item.source.account := h.text_attr "sourceAccount" rfl (by simp [itemElement])
  have hname : (Fields.of (itemElement tag item containerArt)).text? "itemName"
      = some item.name := h.text_child (by decide) rfl
  have hkind : (Fields.of (itemElement tag item containerArt)).text? "@type"
      = some item.kind := h.text_attr "type" rfl (by simp [itemElement])
  have hlocation : (Fields.of (itemElement tag item containerArt)).text? "@location"
      = some item.location := h.text_attr "location" rfl (by simp [itemElement])
  have hflag : (Fields.of (itemElement tag item containerArt)).text? "@isPresetable"
      = some (flag item.isPresetable) := h.text_attr "isPresetable" rfl (by simp [itemElement])
  have hart : (Fields.of (itemElement tag item containerArt)).text? "containerArt"
      = some containerArt := h.text_child (by decide) rfl
  simp only [item?, hsource, haccount, hname, hkind, hlocation, hflag, hart, Option.bind_eq_bind,
    Option.bind_some, readFlag_flag]
  rfl

end Stored

/-! ## Presets, recents and sources -/

/-- The element of a preset is a record. -/
theorem Preset.isRecord_toElement (p : Preset) : p.toElement.IsRecord
    [Stored.itemElement "ContentItem" p.item p.containerArt] := by
  have hitem := Stored.isRecord_itemElement (by decide : IsName "ContentItem") p.item p.containerArt
  unfold Preset.toElement
  refine ((((Element.IsRecord.named (by decide)).attr (by decide) ?_ _).attr (by decide) ?_ _).attr
    (by decide) ?_ _).child hitem.wellFormed ?_
  all_goals simp +decide [Stored.itemElement]

/-- **A stored preset reads back.** -/
theorem Preset.ofFields_of (p : Preset) : Preset.ofFields? (Fields.of p.toElement) = some p := by
  have h := p.isRecord_toElement
  have hid : (Fields.of p.toElement).text? "@id" = some p.item.id :=
    h.text_attr "id" rfl (by simp [Preset.toElement])
  have hcreated : (Fields.of p.toElement).text? "@createdOn" = some p.createdOn :=
    h.text_attr "createdOn" rfl (by simp [Preset.toElement])
  have hupdated : (Fields.of p.toElement).text? "@updatedOn" = some p.updatedOn :=
    h.text_attr "updatedOn" rfl (by simp [Preset.toElement])
  have hitem : (Fields.of p.toElement).nested? "ContentItem"
      = some (Fields.of (Stored.itemElement "ContentItem" p.item p.containerArt)) :=
    h.nested (by decide) (by simp [Stored.itemElement])
      (Stored.isRecord_itemElement (by decide) p.item p.containerArt).wellFormed
  simp only [Preset.ofFields?, hid, hitem, hcreated, hupdated, Option.bind_eq_bind,
    Option.bind_some, Stored.item_itemElement (by decide : IsName "ContentItem")]
  rfl

/-- The element of a recent is a record. -/
theorem Recent.isRecord_toElement (r : Recent) : r.toElement.IsRecord
    [Stored.itemElement "contentItem" r.item r.containerArt] := by
  have hitem := Stored.isRecord_itemElement (by decide : IsName "contentItem") r.item r.containerArt
  unfold Recent.toElement
  refine ((((Element.IsRecord.named (by decide)).attr (by decide) ?_ _).attr (by decide) ?_ _).attr
    (by decide) ?_ _).child hitem.wellFormed ?_
  all_goals simp +decide [Stored.itemElement]

/-- **A stored recent reads back.** -/
theorem Recent.ofFields_of (r : Recent) : Recent.ofFields? (Fields.of r.toElement) = some r := by
  have h := r.isRecord_toElement
  have hid : (Fields.of r.toElement).text? "@id" = some r.item.id :=
    h.text_attr "id" rfl (by simp [Recent.toElement])
  have hdevice : (Fields.of r.toElement).text? "@deviceID" = some r.deviceId :=
    h.text_attr "deviceID" rfl (by simp [Recent.toElement])
  have htime : (Fields.of r.toElement).text? "@utcTime" = some r.utcTime :=
    h.text_attr "utcTime" rfl (by simp [Recent.toElement])
  have hitem : (Fields.of r.toElement).nested? "contentItem"
      = some (Fields.of (Stored.itemElement "contentItem" r.item r.containerArt)) :=
    h.nested (by decide) (by simp [Stored.itemElement])
      (Stored.isRecord_itemElement (by decide) r.item r.containerArt).wellFormed
  simp only [Recent.ofFields?, hid, hitem, hdevice, htime, Option.bind_eq_bind,
    Option.bind_some, Stored.item_itemElement (by decide : IsName "contentItem")]
  rfl

/-- The element of a source's key. -/
def SourceKey.element (key : SourceKey) : Element Attributes :=
  (Element.named "sourceKey").attr "type" key.kind |>.attr "account" key.account

/-- The element of a source's key is a record. -/
theorem SourceKey.isRecord_element (key : SourceKey) : key.element.IsRecord [] := by
  refine ((Element.IsRecord.named (by decide)).attr (by decide) ?_ _).attr (by decide) ?_ _
  all_goals simp

/-- The element of a source is a record. -/
theorem Source.isRecord_toElement (s : Source) : s.toElement.IsRecord [s.key.element] := by
  unfold Source.toElement
  refine (((((Element.IsRecord.named (by decide)).attr (by decide) ?_ _).attrUnlessEmpty
    (by decide) ?_ _).attr (by decide) ?_ _).attr (by decide) ?_ _).child
      (SourceKey.isRecord_element s.key).wellFormed ?_
  all_goals simp +decide

/-- **A stored source reads back**, with an empty id if it has none. -/
theorem Source.ofFields_of (s : Source) : Source.ofFields? (Fields.of s.toElement) = some s := by
  have h := s.isRecord_toElement
  have hkey := SourceKey.isRecord_element s.key
  have hname : (Fields.of s.toElement).text? "@displayName" = some s.displayName :=
    h.text_attr "displayName" rfl (by simp [Source.toElement])
  have hid : (Fields.of s.toElement).text? "@id" = some s.id :=
    h.text_attr "id" rfl (by simp [Source.toElement])
  have hsecret : (Fields.of s.toElement).text? "@secret" = some s.secret :=
    h.text_attr "secret" rfl (by simp [Source.toElement])
  have htype : (Fields.of s.toElement).text? "@secretType" = some s.secretType :=
    h.text_attr "secretType" rfl (by simp [Source.toElement])
  have hnested : (Fields.of s.toElement).nested? "sourceKey" = some (Fields.of s.key.element) :=
    h.nested (by decide) rfl hkey.wellFormed
  have hkind : (Fields.of s.key.element).text? "@type" = some s.key.kind :=
    hkey.text_attr "type" rfl (by simp [SourceKey.element])
  have haccount : (Fields.of s.key.element).text? "@account" = some s.key.account :=
    hkey.text_attr "account" rfl (by simp [SourceKey.element])
  simp only [Source.ofFields?, hnested, hname, hid, hsecret, htype, hkind, haccount,
    Option.bind_eq_bind, Option.bind_some]
  rfl

/-! ## Lists -/

/-- Stored presets read back. -/
theorem Presets.ofText_toText (presets : List Preset) :
    Presets.ofText? (Presets.toText presets) = some presets := by
  have hroot : IsName "presets" := by decide
  have hkey : IsPlainName "preset" := by decide
  have hwrite (p : Preset) : p.toElement.IsWellFormed ∧ p.toElement.name = "preset" :=
    ⟨p.isRecord_toElement.wellFormed, by simp [Preset.toElement]⟩
  exact Stored.list_document hroot hkey hwrite Preset.ofFields_of presets

/-- Stored recents read back. -/
theorem Recents.ofText_toText (recents : List Recent) :
    Recents.ofText? (Recents.toText recents) = some recents := by
  have hroot : IsName "recents" := by decide
  have hkey : IsPlainName "recent" := by decide
  have hwrite (r : Recent) : r.toElement.IsWellFormed ∧ r.toElement.name = "recent" :=
    ⟨r.isRecord_toElement.wellFormed, by simp [Recent.toElement]⟩
  exact Stored.list_document hroot hkey hwrite Recent.ofFields_of recents

/-- Stored sources read back, with the ids they were stored with. -/
theorem Sources.ofText_toText (sources : List Source) :
    Sources.ofText? (Sources.toText sources) = some sources := by
  have hroot : IsName "sources" := by decide
  have hkey : IsPlainName "source" := by decide
  have hwrite (s : Source) : s.toElement.IsWellFormed ∧ s.toElement.name = "source" :=
    ⟨s.isRecord_toElement.wellFormed, by simp [Source.toElement]⟩
  exact Stored.list_document hroot hkey hwrite Source.ofFields_of sources

/-- **Lists survive being stored.** What is read from the stored text of a list is the list,
whatever text the fields of its entries hold: markup, quotes, line breaks, blanks at either end or
nothing. -/
theorem lists_survive_storing (presets : List Preset) (recents : List Recent)
    (sources : List Source) :
    Presets.ofText? (Presets.toText presets) = some presets
      ∧ Recents.ofText? (Recents.toText recents) = some recents
      ∧ Sources.ofText? (Sources.toText sources) = some sources :=
  ⟨Presets.ofText_toText presets, Recents.ofText_toText recents, Sources.ofText_toText sources⟩

end SpeakerHub
