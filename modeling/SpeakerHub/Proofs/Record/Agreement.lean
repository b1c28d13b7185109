import Mathlib.Data.List.Induction
import SpeakerHub.Proofs.Record.DeviceDocument
import SpeakerHub.Speaker

/-! # Records and live identities agree

The document that describes a device has two readers: the store makes a record of it, and whoever
asks a speaker who it is makes out what the speaker says. Each goes through the parts in their order
and keeps what it needs, so that a later part of a category counts in place of an earlier one, also
where it leaves something blank.

* **`Component.take`** — what a reader makes of one part more; **`Identity.foldl_take`** — of all of
  them the last one of each category is left.
* **`Device.ofHalves_eq_foldl`**, **`LiveIdentity.ofHalves_eq_foldl`** — the two readers, part by
  part.
* **`LiveIdentity.Parts.Agrees`** — what is said is what the record holds, unless that is empty;
  **`Agrees.take`** — one part keeps it so, **`Agrees.foldl`** — all of them do.
* **`readers_agree`** — both readers refuse the same documents, and tell the same of all others. -/

namespace SpeakerHub

open Markup

/-! ## Part by part -/

/-- The two categories that count are different. -/
theorem Component.packagedProduct_ne : packagedProduct ≠ controlModule := by
  decide

/-- What a reader has after one part more: it knows what to make of a module and of a product, and
passes over all other parts. -/
def Component.take {σ : Type} (control product : Component → σ → σ) (s : σ) (c : Component) : σ :=
  if c.category = controlModule then control c s
  else if c.category = packagedProduct then product c s
  else s

/-- A part that is listed last is the last one of its category. -/
theorem Identity.last?_concat (i : Identity) (parts : List Component) (c : Component)
    (category : String) :
    { i with components := parts ++ [c] : Identity }.last? category
      = if c.category = category then some c
        else { i with components := parts : Identity }.last? category := by
  simp only [last?, List.reverse_append, List.reverse_singleton, List.singleton_append,
    List.find?_cons]
  by_cases h : c.category = category
  · rw [if_pos h, beq_iff_eq.2 h]
  · rw [if_neg h, beq_eq_false_iff_ne.2 h]

/-- **Of all parts the last one of each category is left**, for a reader that overwrites what it has
made of a module and of a product, and keeps them apart. -/
theorem Identity.foldl_take {σ : Type} (control product : Component → σ → σ)
    (hcontrol : ∀ c c' s, control c (control c' s) = control c s)
    (hproduct : ∀ c c' s, product c (product c' s) = product c s)
    (happart : ∀ c c' s, control c (product c' s) = product c' (control c s))
    (i : Identity) (s : σ) :
    i.components.foldl (Component.take control product) s
      = (i.last? Component.packagedProduct).elim id product
          ((i.last? Component.controlModule).elim id control s) := by
  obtain ⟨id, name, deviceType, moduleType, parts⟩ := i
  -- The part that is listed last decides first, so the list is taken from its end.
  induction parts using List.reverseRecOn with
  | nil => rfl
  | append_singleton parts c ih =>
    have hlast := Identity.last?_concat ⟨id, name, deviceType, moduleType, []⟩ parts c
    simp only at ih hlast ⊢
    rw [List.foldl_append, List.foldl_cons, List.foldl_nil, ih, Component.take, hlast, hlast]
    by_cases hc : c.category = Component.controlModule
    · have hc' : c.category ≠ Component.packagedProduct := fun h =>
        Component.packagedProduct_ne (h.symm.trans hc)
      rw [if_pos hc, if_pos hc, if_neg hc']
      cases last? _ Component.packagedProduct <;> cases last? _ Component.controlModule <;>
        simp [hcontrol, happart]
    · rw [if_neg hc, if_neg hc]
      by_cases hc' : c.category = Component.packagedProduct
      · rw [if_pos hc', if_pos hc']
        cases last? _ Component.packagedProduct <;> simp [hproduct]
      · rw [if_neg hc', if_neg hc']

/-! ## The two readers -/

namespace Device

/-- A record takes from a module what it says, or leaves blank. -/
def takeControl (c : Component) (d : Device) : Device :=
  { d with firmware := c.softwareVersion, serial := c.serialNumber }

/-- A record takes from a product what it says, or leaves blank. -/
def takeProduct (c : Component) (d : Device) : Device :=
  { d with productSerial := c.serialNumber }

/-- A record without any part. -/
def withoutParts (i : Identity) (n : Network) : Device where
  id := i.deviceId
  name := i.name
  productCode := joinProductCode i.deviceType i.moduleType
  address := (n.main?.map (·.address)).getD ""

/-- **A record is made part by part.** -/
theorem ofHalves_eq_foldl (i : Identity) (n : Network) :
    ofHalves i n
      = i.components.foldl (Component.take takeControl takeProduct) (withoutParts i n) := by
  have hfold := Identity.foldl_take takeControl takeProduct
    (fun _ _ _ => rfl) (fun _ _ _ => rfl) (fun _ _ _ => rfl) i (withoutParts i n)
  rw [hfold, ofHalves]
  cases i.last? Component.packagedProduct <;> cases i.last? Component.controlModule <;> rfl

end Device

namespace LiveIdentity

/-- What a speaker says of its parts. -/
structure Parts where
  /-- The version of the software of its module. -/
  firmware : Option String := none
  /-- The serial number of its module. -/
  serial : Option String := none
  /-- The serial number of the product. -/
  productSerial : Option String := none

namespace Parts

/-- Of a module is said what is not blank. -/
def takeControl (c : Component) (p : Parts) : Parts :=
  { p with firmware := said c.softwareVersion, serial := said c.serialNumber }

/-- Of a product is said what is not blank. -/
def takeProduct (c : Component) (p : Parts) : Parts :=
  { p with productSerial := said c.serialNumber }

end Parts

/-- What is said with what is said of the parts. -/
def withParts (i : Identity) (n : Network) (p : Parts) : LiveIdentity where
  deviceId := said i.deviceId
  name := said i.name
  model := said i.deviceType
  serial := p.serial.or p.productSerial
  firmware := p.firmware
  address := n.main?.bind (said ·.address)

/-- **A live identity is made out part by part.** -/
theorem ofHalves_eq_foldl (i : Identity) (n : Network) :
    ofHalves i n = withParts i n
      (i.components.foldl (Component.take Parts.takeControl Parts.takeProduct) {}) := by
  have hfold := Identity.foldl_take Parts.takeControl Parts.takeProduct
    (fun _ _ _ => rfl) (fun _ _ _ => rfl) (fun _ _ _ => rfl) i {}
  rw [hfold, ofHalves]
  cases i.last? Component.packagedProduct <;> cases i.last? Component.controlModule <;> rfl

/-! ## What they have in common -/

/-- **What is said of the parts is what the record holds**, unless that is empty. -/
structure Parts.Agrees (p : Parts) (d : Device) : Prop where
  /-- The version of the software. -/
  firmware : p.firmware = said d.firmware
  /-- The serial number of the module. -/
  serial : p.serial = said d.serial
  /-- The serial number of the product. -/
  productSerial : p.productSerial = said d.productSerial

namespace Parts.Agrees

variable {p : Parts} {d : Device}

/-- **One part more** keeps it so, whatever its category and whatever it leaves blank. -/
theorem take (h : p.Agrees d) (c : Component) :
    (Component.take takeControl takeProduct p c).Agrees
      (Component.take Device.takeControl Device.takeProduct d c) := by
  unfold Component.take
  split
  · exact ⟨rfl, rfl, h.productSerial⟩
  · split
    · exact ⟨h.firmware, h.serial, rfl⟩
    · exact h

/-- **All parts together** keep it so. -/
theorem foldl (h : p.Agrees d) (parts : List Component) :
    (parts.foldl (Component.take takeControl takeProduct) p).Agrees
      (parts.foldl (Component.take Device.takeControl Device.takeProduct) d) := by
  induction parts generalizing p d with
  | nil => exact h
  | cons c parts ih => exact ih (h.take c)

end Parts.Agrees

/-- **Both readers agree** on the halves of a document. -/
theorem ofHalves_agrees (i : Identity) (n : Network) :
    let d := Device.ofHalves i n
    let live := ofHalves i n
    live.deviceId = said d.id ∧ live.name = said d.name ∧ live.firmware = said d.firmware
      ∧ live.address = said d.address ∧ live.serial = (said d.serial).or (said d.productSerial)
      ∧ d.productCode = Device.joinProductCode (live.model.getD "") i.moduleType := by
  intro d live
  -- Before any part both have nothing of the parts, and each part keeps them in agreement.
  have hstart : ({} : Parts).Agrees (Device.withoutParts i n) := ⟨rfl, rfl, rfl⟩
  have hparts := hstart.foldl i.components
  have hd : d = _ := Device.ofHalves_eq_foldl i n
  have hlive : live = _ := ofHalves_eq_foldl i n
  have haddress : live.address = said d.address := by
    show n.main?.bind (said ·.address) = said ((n.main?.map (·.address)).getD "")
    cases n.main? <;> rfl
  have hmodel : live.model.getD "" = i.deviceType := by
    show (said i.deviceType).getD "" = i.deviceType
    unfold said
    split
    case isTrue hempty => exact (String.isEmpty_iff.1 hempty).symm
    case isFalse => rfl
  refine ⟨rfl, rfl, ?_, haddress, ?_, ?_⟩
  · rw [hd, hlive]
    exact hparts.firmware
  · rw [hd, hlive, ← hparts.serial, ← hparts.productSerial]
    rfl
  · rw [hmodel]
    rfl

end LiveIdentity

/-! ## Documents -/

/-- The module type of a document is the text of its field. -/
theorem Identity.moduleType_eq {text : String} {i : Identity} (h : ofText? text = some i) :
    ∃ f, Fields.ofText? text = some f ∧ f.text? "moduleType" = some i.moduleType := by
  simp only [ofText?, Option.bind_eq_bind, Option.bind_eq_some_iff] at h
  obtain ⟨f, hf, _, -, _, -, _, -, module, hmodule, _, -, _, -, _, -, hi⟩ := h
  cases hi
  exact ⟨f, hf, hmodule⟩

/-- **The reader of records and the reader of live identities agree** on every text. One refuses it
exactly if the other does. If they read it, what is said of a speaker is what its record holds,
unless that is empty; the serial number that is said is that of the module, or else that of the
product; and the product code of the record is made of the model that is said and of the document's
type of module. -/
theorem readers_agree (text : String) :
    (Device.ofText? text = none ↔ LiveIdentity.ofText? text = none)
      ∧ ∀ d live, Device.ofText? text = some d → LiveIdentity.ofText? text = some live →
        live.deviceId = LiveIdentity.said d.id ∧ live.name = LiveIdentity.said d.name
        ∧ live.firmware = LiveIdentity.said d.firmware
        ∧ live.address = LiveIdentity.said d.address
        ∧ live.serial = (LiveIdentity.said d.serial).or (LiveIdentity.said d.productSerial)
        ∧ ∃ f moduleType, Fields.ofText? text = some f
          ∧ f.text? "moduleType" = some moduleType
          ∧ d.productCode = Device.joinProductCode (live.model.getD "") moduleType := by
  rcases hidentity : Identity.ofText? text with _ | i
  · simp [Device.ofText?, LiveIdentity.ofText?, hidentity]
  rcases hnetwork : Network.ofText? text with _ | n
  · simp [Device.ofText?, LiveIdentity.ofText?, hidentity, hnetwork]
  have hdevice : Device.ofText? text = some (Device.ofHalves i n) := by
    rw [Device.ofText?, hidentity, hnetwork]
    rfl
  have hlive : LiveIdentity.ofText? text = some (LiveIdentity.ofHalves i n) := by
    rw [LiveIdentity.ofText?, hidentity, hnetwork]
    rfl
  rw [hdevice, hlive]
  refine ⟨by simp, ?_⟩
  rintro _ _ ⟨⟩ ⟨⟩
  obtain ⟨hid, hname, hfirmware, haddress, hserial, hcode⟩ := LiveIdentity.ofHalves_agrees i n
  obtain ⟨f, hf, hmodule⟩ := Identity.moduleType_eq hidentity
  exact ⟨hid, hname, hfirmware, haddress, hserial, f, i.moduleType, hf, hmodule, hcode⟩

/-- A speaker whose module leaves its serial number blank says that of the product. -/
theorem blank_serial_falls_back :
    let d : Device :=
      { id := "A1", productCode := "ST10 sm2", firmware := " ", productSerial := "P<1>" }
    let live : LiveIdentity :=
      { deviceId := some "A1", name := none, model := some "ST10", serial := some "P<1>"
        firmware := some " ", address := none }
    Device.ofText? d.toText = some d ∧ LiveIdentity.ofText? d.toText = some live
      ∧ live.firmware = LiveIdentity.said d.firmware
      ∧ live.serial = (LiveIdentity.said d.serial).or (LiveIdentity.said d.productSerial) := by
  intro d live
  have hkept : d.stored = d := by decide
  have hdevice : Device.ofText? d.toText = some d := by rw [d.ofText_toText, hkept]
  have hlive : LiveIdentity.ofText? d.toText = some live := by
    rw [LiveIdentity.ofText?, d.identity_toText, d.network_toText]
    decide
  obtain ⟨-, hagree⟩ := readers_agree d.toText
  obtain ⟨-, -, hfirmware, -, hserial, -⟩ := hagree d live hdevice hlive
  exact ⟨hdevice, hlive, hfirmware, hserial⟩

end SpeakerHub
