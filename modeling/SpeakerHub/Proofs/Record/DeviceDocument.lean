import SpeakerHub.Proofs.Record.ListDocuments

/-! # Stored devices read back

The document of a device is read twice, once for each of its halves, and gives the device it was
written from. Only its product code may come back shorter: it is cut at its first space, and glued
with a space only if something stands behind it.

* **`Device.stored`** — the device that comes back.
* **`Device.storedProductCode_eq_iff`** — which product codes are kept.
* **`Device.ofText_toText`** — the document reads back; `device_survives_storing` — with the exact
  loss, and that there is none the second time. -/

namespace SpeakerHub

open Markup

namespace Device

/-! ## The product code -/

/-- A product code after it was cut and glued. -/
def storedProductCode (code : String) : String :=
  joinProductCode (splitProductCode code).1 (splitProductCode code).2

/-- A device after it was stored. -/
def stored (d : Device) : Device :=
  { d with productCode := storedProductCode d.productCode }

/-- A code without a space is the type of the device. -/
theorem splitProductCode_of_not_mem {code : String} (h : ' ' ∉ code.toList) :
    splitProductCode code = (code, "") := by
  have hkeep : ∀ c ∈ code.toList, (c != ' ') = true := fun c hc =>
    bne_iff_ne.2 fun he => h (he ▸ hc)
  rw [splitProductCode, List.takeWhile_eq_self_iff.2 hkeep, List.dropWhile_eq_nil_iff.2 hkeep,
    String.ofList_toList]
  rfl

/-- A code is cut at its first space. -/
theorem splitProductCode_append {type : String} (h : ' ' ∉ type.toList) (module : String) :
    splitProductCode (type ++ " " ++ module) = (type, module) := by
  have hkeep : ∀ c ∈ type.toList, (c != ' ') = true := fun c hc =>
    bne_iff_ne.2 fun he => h (he ▸ hc)
  have hparts : (type ++ " " ++ module).toList = type.toList ++ ' ' :: module.toList := by
    simp [String.toList_append]
  rw [splitProductCode, hparts, List.takeWhile_append_of_pos hkeep,
    List.dropWhile_append_of_pos hkeep]
  simp

/-- A code has no space, or a first one. -/
theorem productCode_cases (code : String) :
    ' ' ∉ code.toList
      ∨ ∃ type module : String, ' ' ∉ type.toList ∧ code = type ++ " " ++ module := by
  by_cases h : ' ' ∈ code.toList
  · obtain ⟨front, back, hcode, hfront⟩ := List.eq_append_cons_of_mem h
    refine .inr ⟨String.ofList front, String.ofList back, by rwa [String.toList_ofList], ?_⟩
    rw [← String.toList_inj, hcode]
    simp [String.toList_append]
  · exact .inl h

/-- A code that ends in its only space loses it. -/
theorem storedProductCode_append_space {type : String} (h : ' ' ∉ type.toList) :
    storedProductCode (type ++ " ") = type := by
  have hsplit := splitProductCode_append h ""
  rw [String.append_empty] at hsplit
  rw [storedProductCode, hsplit]
  rfl

/-- A code with something behind its first space is kept. -/
theorem storedProductCode_append {type module : String} (h : ' ' ∉ type.toList)
    (hmodule : module ≠ "") :
    storedProductCode (type ++ " " ++ module) = type ++ " " ++ module := by
  have hempty : module.isEmpty = false := by simpa using hmodule
  rw [storedProductCode, splitProductCode_append h, joinProductCode, hempty]
  rfl

/-- A code without a space is kept. -/
theorem storedProductCode_of_not_mem {code : String} (h : ' ' ∉ code.toList) :
    storedProductCode code = code := by
  rw [storedProductCode, splitProductCode_of_not_mem h]
  rfl

/-- **A code is kept unless it ends in its only space.** -/
theorem storedProductCode_eq_iff (code : String) :
    storedProductCode code = code ↔ ¬∃ type : String, ' ' ∉ type.toList ∧ code = type ++ " " := by
  constructor
  · rintro hkept ⟨type, htype, rfl⟩
    rw [storedProductCode_append_space htype] at hkept
    exact htype (by rw [hkept]; simp [String.toList_append])
  · intro hnot
    rcases productCode_cases code with hnone | ⟨type, module, htype, rfl⟩
    · exact storedProductCode_of_not_mem hnone
    · refine storedProductCode_append htype ?_
      rintro rfl
      exact hnot ⟨type, htype, String.append_empty⟩

/-- Cutting a code that was cut and glued gives the same parts. -/
theorem splitProductCode_stored (code : String) :
    splitProductCode (storedProductCode code) = splitProductCode code := by
  rcases productCode_cases code with hnone | ⟨type, module, htype, rfl⟩
  · rw [storedProductCode_of_not_mem hnone]
  · by_cases hmodule : module = ""
    · subst hmodule
      have hsplit := splitProductCode_append htype ""
      rw [String.append_empty] at hsplit ⊢
      rw [storedProductCode_append_space htype, splitProductCode_of_not_mem htype, hsplit]
    · rw [storedProductCode_append htype hmodule]

/-- A device that was stored is written as before. -/
theorem toText_stored (d : Device) : d.stored.toText = d.toText := by
  simp only [toText, toElement, stored, splitProductCode_stored]

/-! ## The document -/

/-- The element of the module that talks to the network. -/
def controlElement (d : Device) : Element Attributes :=
  (Element.named "component").append
    [.leaf "componentCategory" Component.controlModule,
      .leaf "softwareVersion" d.firmware,
      .leaf "serialNumber" d.serial]

/-- The element of the product around it. -/
def productElement (d : Device) : Element Attributes :=
  (Element.named "component").append
    [.leaf "componentCategory" Component.packagedProduct,
      .leaf "serialNumber" d.productSerial]

/-- The element of the parts. -/
def componentsElement (d : Device) : Element Attributes :=
  (Element.named "components").append [d.controlElement, d.productElement]

/-- The element of the connection. -/
def connectionElement (d : Device) : Element Attributes :=
  ((Element.named "networkInfo").attr "type" Component.controlModule).child
    (.leaf "ipAddress" d.address)

/-- The elements in front of the connection. -/
def identityElements (d : Device) : List (Element Attributes) :=
  [.leaf "name" d.name,
    .leaf "type" (splitProductCode d.productCode).1,
    .leaf "moduleType" (splitProductCode d.productCode).2,
    d.componentsElement]

/-- The element of the module is a record. -/
theorem isRecord_controlElement (d : Device) : d.controlElement.IsRecord
    [.leaf "componentCategory" Component.controlModule,
      .leaf "softwareVersion" d.firmware,
      .leaf "serialNumber" d.serial] := by
  refine (Element.IsRecord.named (by decide)).append ?_
  simp +decide

/-- The element of the product is a record. -/
theorem isRecord_productElement (d : Device) : d.productElement.IsRecord
    [.leaf "componentCategory" Component.packagedProduct,
      .leaf "serialNumber" d.productSerial] := by
  refine (Element.IsRecord.named (by decide)).append ?_
  simp +decide

/-- The element of the parts is a record. -/
theorem isRecord_componentsElement (d : Device) :
    d.componentsElement.IsRecord [d.controlElement, d.productElement] := by
  have hparts : ∀ x ∈ [d.controlElement, d.productElement],
      x.IsWellFormed ∧ IsPlainName x.name := by
    have hplain : IsPlainName "component" := by decide
    rw [List.forall_mem_cons, List.forall_mem_singleton]
    exact ⟨⟨d.isRecord_controlElement.wellFormed, hplain⟩,
      ⟨d.isRecord_productElement.wellFormed, hplain⟩⟩
  exact (Element.IsRecord.named (by decide)).append hparts

/-- The element of the connection is a record. -/
theorem isRecord_connectionElement (d : Device) :
    d.connectionElement.IsRecord [.leaf "ipAddress" d.address] := by
  refine ((Element.IsRecord.named (by decide)).attr (by decide) ?_ _).child ?_ ?_
  all_goals simp +decide

/-- The element of a device is a record: its name, its types and its parts, then its connection. -/
theorem isRecord_toElement (d : Device) :
    d.toElement.IsRecord (d.identityElements ++ ([d.connectionElement] ++ [])) := by
  refine ((Element.IsRecord.named (by decide)).attr (by decide) (by simp) _).append ?_
  simp +decide

/-! ## Both halves read back -/

/-- The module reads back. -/
theorem component_controlElement (d : Device) :
    Component.ofFields? (Fields.of d.controlElement) = some
      { category := Component.controlModule
        softwareVersion := d.firmware
        serialNumber := d.serial } := by
  have h := d.isRecord_controlElement
  have hcategory : (Fields.of d.controlElement).text? "componentCategory"
      = some Component.controlModule := h.text_child (by decide) rfl
  have hversion : (Fields.of d.controlElement).text? "softwareVersion" = some d.firmware :=
    h.text_child (by decide) rfl
  have hserial : (Fields.of d.controlElement).text? "serialNumber" = some d.serial :=
    h.text_child (by decide) rfl
  simp only [Component.ofFields?, hcategory, hversion, hserial, Option.bind_eq_bind,
    Option.bind_some]
  rfl

/-- The product reads back, without a version. -/
theorem component_productElement (d : Device) :
    Component.ofFields? (Fields.of d.productElement) = some
      { category := Component.packagedProduct
        softwareVersion := ""
        serialNumber := d.productSerial } := by
  have h := d.isRecord_productElement
  have hcategory : (Fields.of d.productElement).text? "componentCategory"
      = some Component.packagedProduct := h.text_child (by decide) rfl
  have hversion : (Fields.of d.productElement).text? "softwareVersion" = some "" :=
    h.text_none (by decide) rfl
  have hserial : (Fields.of d.productElement).text? "serialNumber" = some d.productSerial :=
    h.text_child (by decide) rfl
  simp only [Component.ofFields?, hcategory, hversion, hserial, Option.bind_eq_bind,
    Option.bind_some]
  rfl

/-- The half of a stored device that says what it is. -/
def identity (d : Device) : Identity :=
  { deviceId := d.id
    name := d.name
    deviceType := (splitProductCode d.productCode).1
    moduleType := (splitProductCode d.productCode).2
    components :=
      [{ category := Component.controlModule
         softwareVersion := d.firmware
         serialNumber := d.serial },
       { category := Component.packagedProduct
         softwareVersion := ""
         serialNumber := d.productSerial }] }

/-- The half of a stored device that says where it is reached. -/
def network (d : Device) : Network :=
  { connections := [{ kind := Component.controlModule, address := d.address }] }

/-- **What a stored device is reads back.** -/
theorem identity_toText (d : Device) : Identity.ofText? d.toText = some d.identity := by
  have h := d.isRecord_toElement
  have hid : (Fields.of d.toElement).text? "@deviceID" = some d.id :=
    h.text_attr "deviceID" rfl (by simp [toElement])
  have hname : (Fields.of d.toElement).text? "name" = some d.name := h.text_child (by decide) rfl
  have htype : (Fields.of d.toElement).text? "type" = some (splitProductCode d.productCode).1 :=
    h.text_child (by decide) rfl
  have hmodule : (Fields.of d.toElement).text? "moduleType"
      = some (splitProductCode d.productCode).2 := h.text_child (by decide) rfl
  have hparts : (Fields.of d.toElement).nested? "components"
      = some (Fields.of d.componentsElement) :=
    h.nested (by decide) rfl d.isRecord_componentsElement.wellFormed
  have hlist : (Fields.of d.componentsElement).items? "component"
      = some ([d.controlElement, d.productElement].map Fields.of) := by
    have hrecord : d.componentsElement.IsRecord
        ([] ++ ([d.controlElement, d.productElement] ++ [])) := d.isRecord_componentsElement
    refine hrecord.items (by decide) ?_ (by simp) (by simp)
    rw [List.forall_mem_cons, List.forall_mem_singleton]
    exact ⟨⟨d.isRecord_controlElement.wellFormed, rfl⟩,
      ⟨d.isRecord_productElement.wellFormed, rfl⟩⟩
  simp only [Identity.ofText?, toText, Stored.fields_document h.wellFormed, hid, hname, htype,
    hmodule, hparts, hlist, Option.bind_eq_bind, Option.bind_some, List.map_cons, List.map_nil,
    List.mapM_cons, List.mapM_nil, component_controlElement, component_productElement]
  rfl

/-- **Where a stored device is reached reads back.** -/
theorem network_toText (d : Device) : Network.ofText? d.toText = some d.network := by
  have h := d.isRecord_toElement
  have hconnection := d.isRecord_connectionElement
  have hlist : (Fields.of d.toElement).items? "networkInfo"
      = some ([d.connectionElement].map Fields.of) := by
    refine h.items (by decide) ?_ (by simp [identityElements, componentsElement]) (by simp)
    exact List.forall_mem_singleton.2 ⟨hconnection.wellFormed, rfl⟩
  have hkind : (Fields.of d.connectionElement).text? "@type" = some Component.controlModule :=
    hconnection.text_attr "type" rfl (by simp [connectionElement])
  have haddress : (Fields.of d.connectionElement).text? "ipAddress" = some d.address :=
    hconnection.text_child (by decide) rfl
  simp only [Network.ofText?, toText, Stored.fields_document h.wellFormed, hlist,
    Option.bind_eq_bind, Option.bind_some, List.map_cons, List.map_nil, List.mapM_cons,
    List.mapM_nil, Connection.ofFields?, hkind, haddress]
  rfl

/-- Put together, the halves of a stored device are the device. -/
theorem ofHalves_stored (d : Device) : ofHalves d.identity d.network = d.stored := by
  rfl

/-- A stored device reads back. -/
theorem ofText_toText (d : Device) : ofText? d.toText = some d.stored := by
  rw [ofText?, identity_toText, network_toText, ← ofHalves_stored]
  rfl

end Device

/-- **A device survives being stored**, whatever text its fields hold. Only its product code may
come back shorter, which happens exactly if it ends in its only space: then it comes back without
it. The device that comes back is written as before, so it does not change again. -/
theorem device_survives_storing (d : Device) :
    Device.ofText? d.toText
        = some { d with productCode := Device.storedProductCode d.productCode }
      ∧ (∀ type : String, ' ' ∉ type.toList → d.productCode = type ++ " " →
          Device.storedProductCode d.productCode = type)
      ∧ (Device.storedProductCode d.productCode = d.productCode
          ↔ ¬∃ type : String, ' ' ∉ type.toList ∧ d.productCode = type ++ " ")
      ∧ d.stored.toText = d.toText := by
  refine ⟨d.ofText_toText, ?_, Device.storedProductCode_eq_iff d.productCode, d.toText_stored⟩
  intro type htype hcode
  rw [hcode]
  exact Device.storedProductCode_append_space htype

end SpeakerHub
