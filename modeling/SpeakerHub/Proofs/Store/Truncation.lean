import SpeakerHub.Proofs.Markup.Truncation
import SpeakerHub.Proofs.Store.Saving

/-! # Stored documents that were cut off

A stored document that was cut off is never taken for a shorter one. Its bytes may end inside a
character, and then they are no text; otherwise the text ends before the last tag does, and no
reader takes it.

* **`isCutOff_of_extract`** — bytes that were cut off, if they are text.
* **`Stored.fields_of_isCutOff`**, **`Stored.list_of_isCutOff`** — no reader takes what is left of a
  document or of a list.
* **`Store.refusal`**, **`Store.get_of_extract`** — what the store says of it.
* **`cut_off_documents_are_refused`** — all of this, for every kind of document. -/

namespace SpeakerHub

open Markup

/-! ## Bytes -/

/-- **Bytes that were cut off**, if they are text, are what is left of the text. -/
theorem isCutOff_of_extract {front text : String} {n : Nat} (hn : n < text.utf8ByteSize)
    (h : front.toUTF8 = text.toUTF8.extract 0 n) : IsCutOff front text := by
  have hvalid : String.Pos.Raw.IsValid text ⟨n⟩ := by
    refine String.Pos.Raw.isValid_iff_isValidUTF8_extract_zero.2 ⟨?_, ?_⟩
    · exact Nat.le_of_lt hn
    · exact h ▸ front.isValidUTF8
  have hparts : text.toUTF8
      = front.toUTF8 ++ text.toUTF8.extract n text.utf8ByteSize := by
    rw [h, ByteArray.extract_append_extract, Nat.zero_min, Nat.max_eq_right (Nat.le_of_lt hn)]
    exact ByteArray.extract_zero_size.symm
  -- The cut is between two characters, so what is missing is text as well.
  let back : String := String.ofByteArray _ hvalid.isValidUTF8_extract_utf8ByteSize
  have htext : text = front ++ back := by
    rw [← String.toByteArray_inj, String.toByteArray_append]
    exact hparts
  refine ⟨back, fun hempty => ?_, htext⟩
  rw [hempty, String.append_empty] at htext
  have hsize : front.toUTF8.size = n := by
    rw [h, ByteArray.size_extract, Nat.sub_zero]
    exact Nat.min_eq_left (Nat.le_of_lt hn)
  rw [← htext] at hsize
  exact Nat.ne_of_gt hn hsize

/-! ## Texts -/

namespace Stored

/-- **A stored document that was cut off** has no fields. -/
theorem fields_of_isCutOff {root : Element Attributes} (h : root.IsWellFormed) {front : String}
    (hcut : IsCutOff front (document root)) : Fields.ofText? front = none := by
  let d : Document := { declaration := plainDeclaration, indent := some "    ", root }
  have hread : read? front = none :=
    read_of_isCutOff d isDeclaration_plain isIndent_document h hcut
  rw [Fields.ofText?, hread]
  rfl

/-- **A stored list that was cut off** is no list, whatever its items are. -/
theorem list_of_isCutOff {α : Type} {root key : String} {write : α → Element Attributes}
    {read? : Fields → Option α} (hroot : IsName root) (hwrite : ∀ x, (write x).IsWellFormed)
    {xs : List α} {front : String}
    (hcut : IsCutOff front (document ((Element.named root).append (xs.map write)))) :
    list? key read? front = none := by
  have hwf : ((Element.named root).append (xs.map write)).IsWellFormed := by
    rw [Element.isWellFormed_append, Element.isWellFormed_named, List.forall_mem_map]
    exact ⟨hroot, fun x _ => hwrite x⟩
  rw [list?, fields_of_isCutOff hwf hcut]
  rfl

end Stored

/-- **Presets that were cut off** are no presets. -/
theorem Presets.ofText_of_isCutOff {presets : List Preset} {front : String}
    (hcut : IsCutOff front (toText presets)) : ofText? front = none :=
  Stored.list_of_isCutOff (by decide) (fun p => p.isRecord_toElement.wellFormed) hcut

/-- **Recents that were cut off** are no recents. -/
theorem Recents.ofText_of_isCutOff {recents : List Recent} {front : String}
    (hcut : IsCutOff front (toText recents)) : ofText? front = none :=
  Stored.list_of_isCutOff (by decide) (fun r => r.isRecord_toElement.wellFormed) hcut

/-- **Sources that were cut off** are no sources. -/
theorem Sources.ofText_of_isCutOff {sources : List Source} {front : String}
    (hcut : IsCutOff front (toText sources)) : ofText? front = none :=
  Stored.list_of_isCutOff (by decide) (fun s => s.isRecord_toElement.wellFormed) hcut

/-- **A device that was cut off** is no device: not even what it is can be read. -/
theorem Device.ofText_of_isCutOff {device : Device} {front : String}
    (hcut : IsCutOff front device.toText) : ofText? front = none := by
  have hfields : Fields.ofText? front = none :=
    Stored.fields_of_isCutOff device.isRecord_toElement.wellFormed hcut
  rw [ofText?, Identity.ofText?, hfields]
  rfl

/-! ## The store -/

namespace Store

/-- **Why bytes are not taken**: they are no text, or not the text of a document. -/
def refusal (p : Path) (content : ByteArray) : Error :=
  if (String.fromUTF8? content).isSome then .corrupted p else .io p

variable {s : Store} {d : Disk} {n : Nat}

/-- **A document that was cut off** is refused, after however many bytes that was. -/
theorem read_of_extract {α : Type} {p : Path} {text : String} {ofText? : String → Option α}
    (hn : n < text.utf8ByteSize) (hcontent : d.content p = .ok (text.toUTF8.extract 0 n))
    (hread : ∀ front, IsCutOff front text → ofText? front = none) :
    read p ofText? d = .error (refusal p (text.toUTF8.extract 0 n)) := by
  unfold read refusal
  rw [hcontent]
  by_cases hvalid : (text.toUTF8.extract 0 n).IsValidUTF8
  · -- The cut is between two characters.
    have hcut : IsCutOff (String.fromUTF8 _ hvalid) text := isCutOff_of_extract hn rfl
    simp only [String.fromUTF8?, dif_pos hvalid, hread _ hcut, Option.isSome_some, if_true]
  · -- The cut is inside a character.
    simp only [String.fromUTF8?, dif_neg hvalid, Option.isSome_none, Bool.false_eq_true, if_false]

/-- **What was saved and then cut off** is not given. -/
theorem get_of_extract {save : Save} {k : Key} (hkey : save.key = .ok k)
    (hn : n < save.text.utf8ByteSize)
    (hcontent : d.content (k.path s) = .ok (save.text.toUTF8.extract 0 n)) :
    s.get k d = .error (refusal (k.path s) (save.text.toUTF8.extract 0 n)) := by
  cases Save.goesTo_of_key hkey with
  | presets account xs =>
    exact congrArg (Except.map _)
      (read_of_extract hn hcontent fun _ => Presets.ofText_of_isCutOff)
  | recents account xs =>
    exact congrArg (Except.map _)
      (read_of_extract hn hcontent fun _ => Recents.ofText_of_isCutOff)
  | sources account xs =>
    exact congrArg (Except.map _) (congrArg (Except.map _)
      (read_of_extract hn hcontent fun _ => Sources.ofText_of_isCutOff))
  | device account id record =>
    rw [Key.path_device] at hcontent ⊢
    exact congrArg (Except.map _)
      (read_of_extract hn hcontent fun _ => Device.ofText_of_isCutOff)

end Store

/-- **Documents that were cut off are refused.** No reader takes what is left of a text that was
written without its last characters, down to the empty text: whatever was written, and wherever it
ends. So if a file in the store holds the first bytes of a document that was saved there, but not
all of them, the document is not given, and neither is a shorter one: the file is corrupted, or it
cannot be read as text if it ends inside a character. -/
theorem cut_off_documents_are_refused (s : Store) :
    (∀ (presets : List Preset) (front : String),
      IsCutOff front (Presets.toText presets) → Presets.ofText? front = none)
    ∧ (∀ (recents : List Recent) (front : String),
      IsCutOff front (Recents.toText recents) → Recents.ofText? front = none)
    ∧ (∀ (sources : List Source) (front : String),
      IsCutOff front (Sources.toText sources) → Sources.ofText? front = none)
    ∧ (∀ (device : Device) (front : String),
      IsCutOff front device.toText → Device.ofText? front = none)
    ∧ ∀ (save : Save) (k : Key) (d : Disk) (n : Nat), save.key = .ok k →
      n < save.text.utf8ByteSize →
      d.content (k.path s) = .ok (save.text.toUTF8.extract 0 n) →
      s.get k d = .error (Store.refusal (k.path s) (save.text.toUTF8.extract 0 n)) :=
  ⟨fun _ _ => Presets.ofText_of_isCutOff, fun _ _ => Recents.ofText_of_isCutOff,
    fun _ _ => Sources.ofText_of_isCutOff, fun _ _ => Device.ofText_of_isCutOff,
    fun _ _ _ _ => Store.get_of_extract⟩

/-- An empty list without its last character is not read, and sources that were cut off inside the
name of one of them are not given. -/
theorem sources_cut_off_inside_a_name :
    let s : Store := { directory := Path.ofTexts ["data"] }
    let k : Key := .list { text := "A", valid := by decide } .sources
    let save : Save := .sources "A" [{ displayName := "Küche" }]
    let left := save.text.toUTF8.extract 0 76
    let d := (Disk.put (k.path s) left ((save.run s).run { clock := 1000 }).2).2
    Presets.ofText? "<?xml version=\"1.0\" encoding=\"UTF-8\"?>\n<presets/" = none
      ∧ d.content (k.path s) = .ok left
      ∧ s.get k d = .error (.io (k.path s)) := by
  intro s k save left d
  obtain ⟨presets, -, -, -, stored⟩ := cut_off_documents_are_refused s
  have hempty : Presets.toText []
      = "<?xml version=\"1.0\" encoding=\"UTF-8\"?>\n<presets/" ++ ">" := by decide
  have hkey : save.key = .ok k := by decide
  have hcontent : d.content (k.path s) = .ok left := by decide +kernel
  have hleft : Store.refusal (k.path s) left = .io (k.path s) := by decide +kernel
  refine ⟨presets [] _ ⟨">", by decide, hempty⟩, hcontent, ?_⟩
  rw [← hleft]
  exact stored save k d 76 hkey (by decide +kernel) hcontent

end SpeakerHub
