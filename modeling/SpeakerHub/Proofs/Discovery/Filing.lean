import SpeakerHub.Proofs.Discovery.Recording

/-! # The model that a speaker is filed under

A product code is a model, maybe with a space and the type of a module behind it, which a search
does not show. So a code that begins with the model that was found is kept. But the space is not
looked for: a code in which something else follows is kept too, and the speaker stays filed under
another model.

* **`Discovery.IsFiledUnder`** — a code that says the model that was found.
* **`Discovery.GoesOn`** — a code that begins with the model, but says another one.
* **`Discovery.isFiledUnder_storedCode_iff`** — which codes are right afterwards.
* **`found_speakers_are_filed`** — every speaker that is recorded;
  **`longer_model_is_kept`** — one that stays under another model. -/

namespace SpeakerHub

namespace Device

/-- A code that does not end in a space is kept. -/
theorem storedProductCode_of_not_suffix {code : String} (h : ¬[' '] <:+ code.toList) :
    storedProductCode code = code := by
  rw [storedProductCode_eq_iff]
  rintro ⟨type, -, rfl⟩
  apply h
  rw [String.toList_append]
  exact List.suffix_append _ _

end Device

namespace Discovery

open Device

/-- **A device is filed under a model**: its product code is the model, or it was known before that
there is a space behind the model and something else behind that. -/
def IsFiledUnder (model known code : String) : Prop :=
  code = model ∨ ∃ more, code = model ++ " " ++ more ∧ code = known

/-- **A product code goes on behind a model** with something that is no space. -/
def GoesOn (model code : String) : Prop :=
  ∃ c rest, c ≠ ' ' ∧ code.toList = model.toList ++ c :: rest

section

variable {model known : String}

/-- A code with a space behind the model is filed under it when it is stored. -/
theorem isFiledUnder_of_space {more : String} (h : known = model ++ " " ++ more) :
    IsFiledUnder model known (storedProductCode known) := by
  by_cases hkept : storedProductCode known = known
  · rw [hkept]
    exact .inr ⟨more, h, rfl⟩
  · -- The code ends in its only space, so that is the one behind the model.
    rw [storedProductCode_eq_iff, not_not] at hkept
    obtain ⟨type, htype, hknown⟩ := hkept
    rw [hknown, storedProductCode_append_space htype]
    have hlist : model.toList ++ ' ' :: more.toList = type.toList ++ [' '] := by
      have hparts := congrArg String.toList (h.symm.trans hknown)
      simpa [String.toList_append] using hparts
    rcases List.eq_nil_or_concat more.toList with hnil | ⟨front, last, hconcat⟩
    · rw [hnil] at hlist
      exact .inl (String.toList_inj.1 (List.append_cancel_right hlist)).symm
    · rw [hconcat, List.concat_eq_append, ← List.cons_append, ← List.append_assoc] at hlist
      have hfront := (List.append_inj' hlist rfl).1
      exact absurd (hfront ▸ List.mem_append_right _ List.mem_cons_self) htype

/-- A code that goes on behind the model is not filed under it when it is stored. -/
theorem not_isFiledUnder_of_goesOn (h : GoesOn model known) :
    ¬IsFiledUnder model known (storedProductCode known) := by
  obtain ⟨c, rest, hc, hknown⟩ := h
  rintro (hmodel | ⟨more, hmore, hkept⟩)
  · -- What is lost is at most a space behind the model, and there is none.
    rcases eq_storedProductCode_or known with hsame | hspace
    · rw [← hsame] at hmodel
      rw [hmodel] at hknown
      simp at hknown
    · rw [hspace, hmodel, String.toList_append, List.append_cancel_left_eq] at hknown
      exact hc (List.cons.inj hknown).1.symm
  · rw [hkept] at hmore
    rw [hmore, String.toList_append, String.toList_append, List.append_assoc,
      List.append_cancel_left_eq] at hknown
    exact hc (List.cons.inj hknown).1.symm

/-- **A device is filed under the model that was found**, unless its code goes on behind it. -/
theorem isFiledUnder_storedCode_iff (hend : ¬[' '] <:+ model.toList) (known : String) :
    IsFiledUnder model known (storedCode known model) ↔ ¬GoesOn model known := by
  by_cases hkept : model.toList <+: known.toList
  · rw [storedCode_of_isPrefix hkept]
    obtain ⟨rest, hrest⟩ := hkept
    cases rest with
    | nil =>
      obtain rfl : model = known := String.toList_inj.1 (by rw [← hrest, List.append_nil])
      refine iff_of_true (.inl (storedProductCode_of_not_suffix hend)) ?_
      rintro ⟨c, rest, -, hlonger⟩
      simp at hlonger
    | cons c rest =>
      by_cases hc : c = ' '
      · subst hc
        have hspace : known = model ++ " " ++ String.ofList rest := by
          rw [← String.toList_inj, ← hrest]
          simp [String.toList_append]
        refine iff_of_true (isFiledUnder_of_space hspace) ?_
        rintro ⟨c, rest', hc, hother⟩
        rw [← hrest, List.append_cancel_left_eq] at hother
        exact hc (List.cons.inj hother).1.symm
      · have hgoes : GoesOn model known := ⟨c, rest, hc, hrest.symm⟩
        exact iff_of_false (not_isFiledUnder_of_goesOn hgoes) (not_not_intro hgoes)
  · -- The code is replaced by the model.
    rw [storedCode_of_not hkept]
    refine iff_of_true (.inl (storedProductCode_of_not_suffix hend)) ?_
    rintro ⟨c, rest, -, hprefix⟩
    exact hkept ⟨c :: rest, hprefix.symm⟩

end

section

variable {s : Store} {account : String} {a id : Identifier} {f : Found} {known : Device} {d : Disk}

/-- A find whose record can be read is merged with it and written. -/
theorem run_record (hfor : IsFor account a id f) (hknown : s.deviceOrNew a id d = .ok known) :
    (record s account f).run d = (s.saveDevice a id (merged f known)).run d := by
  have ha := Identifier.ofText_eq_ok_iff.2 hfor.1
  have hid := Identifier.ofText_eq_ok_iff.2 hfor.2
  rw [record, ha, Action.ok_bind, hid, Action.ok_bind, Action.run_look_bind_ok hknown]

/-- **A find is recorded** exactly if its names are identifiers, the record that there is can be
read, and nothing is in the way of the new one. -/
theorem record_eq_ok_iff :
    ((record s account f).run d).1 = .ok () ↔
      ∃ a id known, IsFor account a id f ∧ s.deviceOrNew a id d = .ok known
        ∧ s.CanWrite (.device a id) d := by
  constructor
  · intro hok
    rcases ha : Identifier.ofText account with e | a
    · rw [record, ha] at hok
      cases hok
    rcases hid : Identifier.ofText f.id with e | id
    · rw [record, ha, Action.ok_bind, hid] at hok
      cases hok
    rcases hknown : s.deviceOrNew a id d with e | known
    · rw [record, ha, Action.ok_bind, hid, Action.ok_bind,
        Action.run_look_bind_error hknown] at hok
      cases hok
    have hfor : IsFor account a id f :=
      ⟨Identifier.ofText_eq_ok_iff.1 ha, Identifier.ofText_eq_ok_iff.1 hid⟩
    rw [run_record hfor hknown] at hok
    exact ⟨a, id, known, hfor, hknown, saveDevice_eq_ok_iff.1 hok⟩
  · rintro ⟨a, id, known, hfor, hknown, hcan⟩
    rw [run_record hfor hknown]
    exact saveDevice_eq_ok_iff.2 hcan

/-- **What is recorded is read**: what was known, merged with what was found. -/
theorem exists_run_record (hfor : IsFor account a id f) (hknown : s.deviceOrNew a id d = .ok known)
    (hcan : s.CanWrite (.device a id) d) :
    ∃ d', (record s account f).run d = (.ok (), d')
      ∧ s.device a id d' = .ok (merged f known).stored := by
  have hok : ((record s account f).run d).1 = .ok () :=
    record_eq_ok_iff.2 ⟨a, id, known, hfor, hknown, hcan⟩
  have hlook := (records s account f d).look_of_own hfor hcan hknown
  exact ⟨_, Prod.ext hok rfl, Store.read_file hlook (merged f known).ofText_toText⟩

/-- A record that is saved can be saved again. -/
theorem canWrite_saveDevice (hcan : s.CanWrite (.device a id) d) (device : Device) :
    s.CanWrite (.device a id) ((s.saveDevice a id device).run d).2 :=
  ((writes_saveDevice s a id device d).canWrite_iff _).2 hcan

/-- A record that is saved is what the next find meets. -/
theorem deviceOrNew_saveDevice (hcan : s.CanWrite (.device a id) d) (device : Device) :
    s.deviceOrNew a id ((s.saveDevice a id device).run d).2 = .ok device.stored := by
  have hwrites := writes_saveDevice s a id device d
  rw [saveDevice_eq_ok_iff.2 hcan] at hwrites
  have hlook := hwrites.look_of_ok
  rw [← Key.path, Key.path_device] at hlook
  exact Account.deviceOrNew_of_look hlook

end

/-- **Every speaker that is recorded is filed under the model that was found**, unless the product
code that is known begins with this model and goes on with something that is no space. Such a code
is kept, although it says another model. -/
theorem found_speakers_are_filed (s : Store) {account : String} {f : Found} {d d' : Disk}
    (hend : ¬[' '] <:+ f.model.toList) (hrun : (record s account f).run d = (.ok (), d')) :
    ∃ a id known device, IsFor account a id f ∧ s.deviceOrNew a id d = .ok known
      ∧ s.device a id d' = .ok device
      ∧ (IsFiledUnder f.model known.productCode device.productCode
        ↔ ¬GoesOn f.model known.productCode)
      ∧ (GoesOn f.model known.productCode →
        device.productCode = storedProductCode known.productCode) := by
  have hok : ((record s account f).run d).1 = .ok () := congrArg Prod.fst hrun
  obtain ⟨a, id, known, hfor, hknown, hcan⟩ := record_eq_ok_iff.1 hok
  obtain ⟨d'', hrun', hread⟩ := exists_run_record hfor hknown hcan
  obtain rfl : d' = d'' := congrArg Prod.snd (hrun.symm.trans hrun')
  have hcode : (merged f known).stored.productCode = storedCode known.productCode f.model := by
    rw [storedCode, stored, merged]
  refine ⟨a, id, known, (merged f known).stored, hfor, hknown, hread, ?_, ?_⟩
  · rw [hcode]
    exact isFiledUnder_storedCode_iff hend known.productCode
  · rintro ⟨c, rest, -, hlonger⟩
    rw [hcode]
    exact storedCode_of_isPrefix ⟨c :: rest, hlonger.symm⟩

/-- A device that is saved on an empty disk is known, and can be recorded. -/
theorem known_on_empty_disk {known : Device} (hstored : known.stored = known) :
    let s : Store := { directory := Path.ofTexts ["data"] }
    let a : Identifier := { text := "A", valid := by decide }
    let id : Identifier := { text := "D", valid := by decide }
    let d := ((s.saveDevice a id known).run { clock := 1000 }).2
    s.deviceOrNew a id d = .ok known ∧ s.CanWrite (.device a id) d := by
  intro s a id d
  have hsaved : ((s.saveDevice a id {}).run { clock := 1000 }).1 = .ok () := by decide
  have hcan := saveDevice_eq_ok_iff.1 hsaved
  have hread := deviceOrNew_saveDevice hcan known
  rw [hstored] at hread
  exact ⟨hread, canWrite_saveDevice hcan known⟩

/-- A code with the type of the module behind the model is right, and stays as it is. -/
theorem module_type_is_kept :
    let s : Store := { directory := Path.ofTexts ["data"] }
    let a : Identifier := { text := "A", valid := by decide }
    let id : Identifier := { text := "D", valid := by decide }
    let known : Device := { id := "D", productCode := "SoundTouch 10 sm2" }
    let f : Found := { id := "D", name := "", host := "10.0.0.7", model := "SoundTouch 10" }
    let d := ((s.saveDevice a id known).run { clock := 1000 }).2
    ∃ d' device, (record s "A" f).run d = (.ok (), d') ∧ s.device a id d' = .ok device
      ∧ IsFiledUnder f.model known.productCode device.productCode := by
  intro s a id known f d
  have hstored : known.stored = known := by decide
  obtain ⟨hread, hcan⟩ : s.deviceOrNew a id d = .ok known ∧ s.CanWrite (.device a id) d :=
    known_on_empty_disk hstored
  clear_value d
  have hfor : IsFor "A" a id f := ⟨rfl, rfl⟩
  obtain ⟨d', hrun, -⟩ := exists_run_record hfor hread hcan
  have hend : ¬[' '] <:+ f.model.toList := by decide
  obtain ⟨a', id', known', device, hfor', hread', hdevice, hfiled, -⟩ :=
    found_speakers_are_filed s hend hrun
  obtain ⟨rfl, rfl⟩ := hfor.unique hfor'
  obtain rfl := Except.ok.inj (hread'.symm.trans hread)
  refine ⟨d', device, hrun, hdevice, hfiled.2 ?_⟩
  rintro ⟨c, rest, hc, hlonger⟩
  have hknown : known.productCode.toList = f.model.toList ++ ' ' :: "sm2".toList := by
    decide
  rw [hknown, List.append_cancel_left_eq] at hlonger
  exact hc (List.cons.inj hlonger).1.symm

/-- **A longer model is kept**: a speaker that says one model stays filed under another one that
begins with it. -/
theorem longer_model_is_kept :
    let s : Store := { directory := Path.ofTexts ["data"] }
    let a : Identifier := { text := "A", valid := by decide }
    let id : Identifier := { text := "D", valid := by decide }
    let known : Device := { id := "D", productCode := "SoundTouch 300" }
    let f : Found := { id := "D", name := "", host := "10.0.0.7", model := "SoundTouch 30" }
    let d := ((s.saveDevice a id known).run { clock := 1000 }).2
    ∃ d' device, (record s "A" f).run d = (.ok (), d') ∧ s.device a id d' = .ok device
      ∧ device.productCode = "SoundTouch 300"
      ∧ ¬IsFiledUnder f.model known.productCode device.productCode := by
  intro s a id known f d
  have hstored : known.stored = known := by decide
  obtain ⟨hread, hcan⟩ : s.deviceOrNew a id d = .ok known ∧ s.CanWrite (.device a id) d :=
    known_on_empty_disk hstored
  clear_value d
  have hfor : IsFor "A" a id f := ⟨rfl, rfl⟩
  obtain ⟨d', hrun, hdevice⟩ := exists_run_record hfor hread hcan
  have hcode : (merged f known).stored.productCode = "SoundTouch 300" := by decide
  refine ⟨d', (merged f known).stored, hrun, hdevice, hcode, ?_⟩
  have hkept : storedProductCode known.productCode = "SoundTouch 300" := by decide
  have hgoes : GoesOn f.model known.productCode := ⟨'0', [], by decide, by decide⟩
  have hnot := not_isFiledUnder_of_goesOn hgoes
  rwa [hkept, ← hcode] at hnot

end Discovery

end SpeakerHub
