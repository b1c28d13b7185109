import SpeakerHub.Proofs.Discovery.Recording

/-! # Scanning again

A scan asks all hosts and records those that answer. It forgets nothing that was known but what the
speakers say anew, and what it comes to does not change if it is done again.

* **`Answers`**, **`foundBy`** — who answers with which id, and what is found.
* **`Leaves.remembered`**, **`Leaves.address`**, **`Leaves.content_of_unreadable`**,
  **`Leaves.again`** — what finds leave of a record, once and twice.
* **`Remembers`** — what is still known of a device.
* **`rediscovery_converges`** — what is left of all records after a scan, and after another one. -/

namespace SpeakerHub.Discovery

open Store

/-! ## Who is found -/

/-- A host answers with an id. -/
def Answers (speakers : Speakers) (host id : String) (live : LiveIdentity) : Prop :=
  Speaker.ask speakers host = .ok live ∧ live.deviceId = some id

/-- What is found at some hosts, in their order. -/
def foundBy (speakers : Speakers) (hosts : List String) : List Found :=
  hosts.filterMap fun host => (probe speakers host).toOption

section

variable {speakers : Speakers} {host : String} {hosts : List String} {f : Found}

/-- **A host is found** if it answers with an id. -/
theorem probe_eq_ok_iff : probe speakers host = .ok f
    ↔ ∃ live, Answers speakers host f.id live
      ∧ f = { id := f.id, name := live.name.getD "", host, model := live.model.getD "" } := by
  rw [probe, bind_eq_ok_iff]
  refine exists_congr fun live => ?_
  rw [Answers, and_assoc]
  refine and_congr_right fun _ => ?_
  cases live.deviceId with
  | none => exact iff_of_false nofun (fun h => nomatch h.1)
  | some id =>
    rw [Option.some.injEq]
    constructor
    · intro h
      obtain rfl := Except.ok.inj h
      exact ⟨rfl, rfl⟩
    · rintro ⟨rfl, h⟩
      exact congrArg Except.ok h.symm

/-- **What is found** comes of a host that answered. -/
theorem mem_foundBy : f ∈ foundBy speakers hosts ↔ ∃ host ∈ hosts, probe speakers host = .ok f := by
  rw [foundBy, List.mem_filterMap]
  refine exists_congr fun host => and_congr_right fun _ => ?_
  cases probe speakers host with
  | error e => exact iff_of_false nofun nofun
  | ok g => exact ⟨fun h => congrArg _ (Option.some.inj h), fun h => congrArg _ (Except.ok.inj h)⟩

/-- **The name that is found** is the one that the speaker says. -/
theorem name_eq_of_name? {name : String} (hprobe : probe speakers host = .ok f)
    (hname : f.name? = some name) :
    ∃ live, Answers speakers host f.id live ∧ live.name = some name ∧ name ≠ "" := by
  obtain ⟨live, hanswers, hf⟩ := probe_eq_ok_iff.1 hprobe
  obtain ⟨heq, hne⟩ := LiveIdentity.said_eq_some_iff.1 hname
  have hgiven : live.name.getD "" = name := (congrArg Found.name hf).symm.trans heq
  refine ⟨live, hanswers, ?_, hne⟩
  cases hlive : live.name with
  | none =>
    rw [hlive] at hgiven
    exact absurd hgiven.symm hne
  | some said =>
    rw [hlive] at hgiven
    exact congrArg some hgiven

/-- **The last host that answers with an id** is found last with it. -/
theorem findsFor_foundBy (a : Identifier) {id : Identifier} (front : List String)
    {back : List String} {live : LiveIdentity}
    (hanswers : Answers speakers host id.text live)
    (hlast : ∀ other ∈ back, ∀ live, ¬Answers speakers other id.text live) :
    ∃ f, foundBy speakers (front ++ host :: back)
        = foundBy speakers front ++ f :: foundBy speakers back
      ∧ f.id = id.text ∧ f.host = host
      ∧ findsFor a.text a id (foundBy speakers (front ++ host :: back))
        = findsFor a.text a id (foundBy speakers front) ++ [f] := by
  let f : Found :=
    { id := id.text, name := live.name.getD "", host, model := live.model.getD "" }
  have hprobe : probe speakers host = .ok f := probe_eq_ok_iff.2 ⟨live, hanswers, rfl⟩
  have hfound : foundBy speakers (front ++ host :: back)
      = foundBy speakers front ++ f :: foundBy speakers back := by
    rw [foundBy, List.filterMap_append, List.filterMap_cons, hprobe]
    rfl
  have hback : findsFor a.text a id (foundBy speakers back) = [] := by
    rw [findsFor, List.filter_eq_nil_iff]
    intro g hg hfor
    obtain ⟨other, hother, hg⟩ := mem_foundBy.1 hg
    obtain ⟨live, hlive, -⟩ := probe_eq_ok_iff.1 hg
    have hid : id.text = g.id := (of_decide_eq_true hfor).2
    exact hlast other hother live (hid ▸ hlive)
  have hown : IsFor a.text a id f := ⟨rfl, rfl⟩
  refine ⟨f, hfound, rfl, rfl, ?_⟩
  rw [hfound, findsFor, List.filter_append, ← findsFor, ← findsFor, findsFor_cons_of_isFor hown,
    hback]

end

/-! ## What is left of a record -/

namespace Leaves

variable {s : Store} {a id : Identifier} {finds : List Found} {d d' d'' : Disk} {known : Device}

/-- What was read is read again if it is still there. -/
theorem device_of_look (hlook : ∀ i, d'.look (s.recordPath a id) = .ok i
    ↔ d.look (s.recordPath a id) = .ok i) (h : s.device a id d = .ok known) :
    s.device a id d' = .ok known := by
  obtain ⟨i, hi⟩ := exists_look_of_read h
  have hsame : d'.look (s.recordPath a id) = d.look (s.recordPath a id) :=
    ((hlook i).2 hi).trans hi.symm
  exact (read_congr hsame Device.ofText?).trans h

/-- A record that was merged is read. -/
theorem device_rediscovered (hfinds : finds ≠ []) {m : Int}
    (hlook : d'.look (s.recordPath a id)
      = .ok (.file (rediscovered finds known).toText.toUTF8 m)) :
    s.device a id d' = .ok (rediscovered finds known) := by
  have hread : s.device a id d' = .ok (rediscovered finds known).stored :=
    read_file hlook (rediscovered finds known).ofText_toText
  rwa [stored_rediscovered hfinds] at hread

/-- **What could be read can be read**, as it was or merged with all finds. -/
theorem device_of_readable (h : Leaves s a id finds d d') (hread : s.device a id d = .ok known) :
    s.device a id d' = .ok known ∨ s.device a id d' = .ok (rediscovered finds known) := by
  cases h with
  | blocked hcannot hlook => exact .inl (device_of_look hlook hread)
  | kept hcan hwhy hlook => exact .inl (device_of_look (fun i => by rw [hlook]) hread)
  | written hcan hfinds hknown hlook =>
    rw [deviceOrNew, hread] at hknown
    obtain rfl := Except.ok.inj hknown
    exact .inr (device_rediscovered hfinds hlook)

/-- **The last find says where a device is reached**, if its record can be read and written. -/
theorem address (h : Leaves s a id finds d d') (hcan : s.CanWrite (.device a id) d)
    (hknown : s.deviceOrNew a id d = .ok known) {front : List Found} {f : Found}
    (hlast : finds = front ++ [f]) :
    ∃ device, s.device a id d' = .ok device ∧ device.address = f.host := by
  have hfinds : finds ≠ [] := by
    rw [hlast]
    exact List.append_ne_nil_of_right_ne_nil front (List.cons_ne_nil f [])
  cases h with
  | blocked hcannot _ => exact absurd hcan hcannot
  | kept _ hwhy _ =>
    rcases hwhy with hnone | ⟨e, herror⟩
    · exact absurd hnone hfinds
    · cases hknown.symm.trans herror
  | @written known' m _ _ _ hlook =>
    refine ⟨_, device_rediscovered hfinds hlook, ?_⟩
    rw [hlast, rediscovered_concat]
    rfl

/-- **What could not be read** is left byte for byte. -/
theorem content_of_unreadable (h : Leaves s a id finds d d') {bytes : ByteArray}
    (hcontent : d.content (s.recordPath a id) = .ok bytes)
    (hunreadable : ∀ known, s.device a id d ≠ .ok known) :
    d'.content (s.recordPath a id) = .ok bytes := by
  obtain ⟨m, hm⟩ := Disk.content_eq_ok_iff.1 hcontent
  rw [Disk.content_eq_ok_iff]
  cases h with
  | blocked hcannot hlook => exact ⟨m, (hlook _).2 hm⟩
  | kept hcan hwhy hlook => exact ⟨m, hlook.trans hm⟩
  | @written known m' hcan hfinds hknown hlook =>
    -- Only a record that does not exist could be taken for a new one.
    exfalso
    rw [deviceOrNew] at hknown
    split at hknown
    next path hmissing =>
      rw [Store.device, Store.read, hcontent] at hmissing
      simp only at hmissing
      split at hmissing
      · cases hmissing
      · split at hmissing <;> cases hmissing
    next hother => exact hunreadable known hknown

/-- The time is not in the way of a document. -/
theorem canWrite_of_atTime {k : Key} {clock : Int} (h : s.CanWrite k (d.atTime clock)) :
    s.CanWrite k d :=
  ⟨h.place_usable, h.draft_usable, h.short, h.clear, h.place_free, h.draft_free⟩

/-- **The same finds leave every byte** the second time, whatever the time is then. -/
theorem again (h : Leaves s a id finds d d') {clock : Int}
    (h' : Leaves s a id finds (d'.atTime clock) d'')
    (hcan : s.CanWrite (.device a id) d' ↔ s.CanWrite (.device a id) d) (bytes : ByteArray) :
    d''.content (s.recordPath a id) = .ok bytes ↔ d'.content (s.recordPath a id) = .ok bytes := by
  have hclock : (d'.atTime clock).look (s.recordPath a id) = d'.look (s.recordPath a id) := rfl
  rw [Disk.content_eq_ok_iff, Disk.content_eq_ok_iff]
  -- Only where both scans wrote the record is there something to be shown.
  cases h' with
  | blocked hcannot hlook' => exact exists_congr fun m => hlook' _
  | kept _ hwhy hlook' => rw [hlook', hclock]
  | @written known' m' hcan' hfinds hknown' hlook' =>
    have hknown₁ : s.deviceOrNew a id d' = .ok known' := hknown'
    cases h with
    | blocked hcannot _ => exact absurd (hcan.1 (canWrite_of_atTime hcan')) hcannot
    | kept _ hwhy hlook =>
      rcases hwhy with hnone | ⟨e, herror⟩
      · exact absurd hnone hfinds
      · rw [deviceOrNew_congr hlook, herror] at hknown₁
        cases hknown₁
    | @written known m _ _ hknown hlook =>
      -- The record that is read is what the finds made of it, and they make nothing else of it.
      have hread := Account.deviceOrNew_of_look hlook
      rw [stored_rediscovered hfinds] at hread
      obtain rfl := Except.ok.inj (hread.symm.trans hknown₁)
      rw [rediscovered_again] at hlook'
      simp only [hlook, hlook', Except.ok.injEq, Inode.file.injEq, exists_and_left, exists_eq',
        and_true]

end Leaves

/-! ## All records -/

/-- **What is still known of a device** after a scan: all but its address and its product code, and
its name unless a speaker that answers with its id says another. -/
structure Remembers (speakers : Speakers) (hosts : List String) (account : String)
    (a filed : Identifier) (known device : Device) : Prop where
  /-- The id it gives itself. -/
  id : device.id = known.id
  /-- The version of its software. -/
  firmware : device.firmware = known.firmware
  /-- The serial number of its module. -/
  serial : device.serial = known.serial
  /-- The serial number of the product. -/
  productSerial : device.productSerial = known.productSerial
  /-- Its name, or one that is said. -/
  name : device.name = known.name ∨ a.text = account ∧ ∃ host ∈ hosts, ∃ live,
    Answers speakers host filed.text live ∧ live.name = some device.name ∧ device.name ≠ ""

/-- **Nothing is forgotten** of a record that is merged with finds. -/
theorem remembers_rediscovered (speakers : Speakers) (hosts : List String) (account : String)
    (a id : Identifier) (known : Device) :
    Remembers speakers hosts account a id known
      (rediscovered (findsFor account a id (foundBy speakers hosts)) known) := by
  rw [rediscovered_eq]
  refine ⟨rfl, rfl, rfl, rfl, ?_⟩
  cases hname : ((findsFor account a id (foundBy speakers hosts)).filterMap
    Found.name?).getLast? with
  | none => exact .inl rfl
  | some name =>
    right
    obtain ⟨f, hf, hsaid⟩ := List.mem_filterMap.1 (List.mem_of_getLast? hname)
    obtain ⟨hfound, hfor⟩ := List.mem_filter.1 hf
    obtain ⟨haccount, hid⟩ := of_decide_eq_true hfor
    obtain ⟨host, hhost, hprobe⟩ := mem_foundBy.1 hfound
    obtain ⟨live, hanswers, hlive, hne⟩ := name_eq_of_name? hprobe hsaid
    exact ⟨haccount, host, hhost, live, hid ▸ hanswers, hlive, hne⟩

/-- **Rediscovery forgets nothing and converges.** Whatever is stored, whichever hosts are asked,
and whatever speakers answer there, several of them perhaps with the same id:

* A record that could be read still can be, and still says what it said, but for the address, the
  product code, and the name if a speaker that answered with its id said one.
* If the record of an id in the account can be read or is missing, and a save of it goes well
  whenever the id is found, then the last host that answered with it is its address.
* A record that cannot be read is left byte for byte.
* The same scan at any other time leaves every document of a device byte for byte. -/
theorem rediscovery_converges (s : Store) (account : String) (speakers : Speakers)
    (hosts : List String) (d : Disk) :
    let d' := (scan s account speakers hosts d).2
    (∀ a id known, s.device a id d = .ok known →
        ∃ device, s.device a id d' = .ok device
          ∧ Remembers speakers hosts account a id known device)
      ∧ (∀ a id known, a.text = account → s.deviceOrNew a id d = .ok known →
        (∀ front f back, foundBy speakers hosts = front ++ f :: back → f.id = id.text →
          ∃ device, ((s.saveDevice a id device).run (publish s account front d)).1 = .ok ()) →
        ∀ front host back live, hosts = front ++ host :: back →
          Answers speakers host id.text live →
          (∀ other ∈ back, ∀ live, ¬Answers speakers other id.text live) →
          ∃ device, s.device a id d' = .ok device ∧ device.address = host)
      ∧ (∀ a id bytes, d.content (s.recordPath a id) = .ok bytes →
        (∀ known, s.device a id d ≠ .ok known) → d'.content (s.recordPath a id) = .ok bytes)
      ∧ ∀ clock x y bytes,
        (scan s account speakers hosts (d'.atTime clock)).2.content (recordIn s x y) = .ok bytes
          ↔ d'.content (recordIn s x y) = .ok bytes := by
  intro d'
  have hleaves (a id : Identifier) (d : Disk) :
      Leaves s a id (findsFor account a id (foundBy speakers hosts)) d
        (scan s account speakers hosts d).2 :=
    leaves_publish s account a id (foundBy speakers hosts) d
  refine ⟨?_, ?_, ?_, ?_⟩
  · intro a id known hread
    rcases (hleaves a id d).device_of_readable hread with hsame | hmerged
    · exact ⟨known, hsame, rfl, rfl, rfl, rfl, .inl rfl⟩
    · exact ⟨_, hmerged, remembers_rediscovered speakers hosts account a id known⟩
  · rintro a id known rfl hknown hsaves front host back live rfl hanswers hlast
    obtain ⟨f, hfound, hid, rfl, hfinds⟩ :=
      findsFor_foundBy a front hanswers hlast
    obtain ⟨device, hsaved⟩ := hsaves _ f _ hfound hid
    have hcan : s.CanWrite (.device a id) d :=
      (canWrite_publish _ _ _ _).1 (saveDevice_eq_ok_iff.1 hsaved)
    exact (hleaves a id d).address hcan hknown hfinds
  · intro a id bytes hcontent hunreadable
    exact (hleaves a id d).content_of_unreadable hcontent hunreadable
  · intro clock x y bytes
    by_cases hnamed : ∃ a id : Identifier, x = .text a.text ∧ y = .text id.text
    · obtain ⟨a, id, rfl, rfl⟩ := hnamed
      rw [recordIn_text]
      exact (hleaves a id d).again (hleaves a id (d'.atTime clock)) (canWrite_publish _ _ _ _) bytes
    · rw [Disk.content_eq_ok_iff, Disk.content_eq_ok_iff]
      refine exists_congr fun m => ?_
      exact look_publish_of_unnamed (fun a id h => hnamed ⟨a, id, h⟩) account
        (foundBy speakers hosts) (d'.atTime clock) _

/-- A speaker that is found at two hosts is filed under the second. -/
theorem second_host_is_kept :
    let s : Store := { directory := Path.ofTexts ["data"] }
    let document : String := "<info deviceID=\"D\"><name>Kitchen</name></info>"
    let speakers : Speakers := fun _ => some { status := 200, body := document.toUTF8.toList }
    let a : Identifier := { text := "A", valid := by decide }
    let id : Identifier := { text := "D", valid := by decide }
    let d' := (scan s "A" speakers ["10.0.0.7", "10.0.0.8"] { clock := 1000 }).2
    ∃ device, s.device a id d' = .ok device ∧ device.address = "10.0.0.8" := by
  intro s document speakers a id d'
  have hknown : s.deviceOrNew a id { clock := 1000 } = .ok { id := "D" } := by decide
  have hsaved : ((s.saveDevice a id {}).run { clock := 1000 }).1 = .ok () := by decide
  obtain ⟨live, hanswers⟩ : ∃ live, Answers speakers "10.0.0.8" "D" live := by
    have hask : ((Speaker.ask speakers "10.0.0.8").toOption.bind (·.deviceId)) = some "D" := by
      decide +kernel
    cases hlive : Speaker.ask speakers "10.0.0.8" with
    | error e =>
      rw [hlive] at hask
      cases hask
    | ok live =>
      rw [hlive] at hask
      exact ⟨live, hlive, hask⟩
  have hcan : s.CanWrite (.device a id) { clock := 1000 } := saveDevice_eq_ok_iff.1 hsaved
  have hsaves (front : List Found) :
      ((s.saveDevice a id {}).run (publish s "A" front { clock := 1000 })).1 = .ok () :=
    saveDevice_eq_ok_iff.2 ((canWrite_publish _ _ _ _).2 hcan)
  have hscan := rediscovery_converges s "A" speakers ["10.0.0.7", "10.0.0.8"] { clock := 1000 }
  exact hscan.2.1 a id _ rfl hknown (fun front f back _ _ => ⟨{}, hsaves front⟩)
    ["10.0.0.7"] "10.0.0.8" [] live rfl hanswers fun other hother => absurd hother List.not_mem_nil

end SpeakerHub.Discovery
