import SpeakerHub.Proofs.Account.Answers
import SpeakerHub.Proofs.Account.Changes
import SpeakerHub.Proofs.Account.Requests

/-! # Registering a device

A registration that is understood saves the record of the device and answers with the device and all
that its account has. The answer is itself a registration: it says what the record says, so that
posting it back changes nothing, as long as the record carries the id it is filed under.

* **`Writes.look_same`**, **`Writes.of_device`**, **`look_list`** — a text written over itself, a
  device, and the lists beside it.
* **`Store.CarriesId`** — the id of a record; **`CarriesId.writes`** — a record that is written with
  it carries it.
* **`Account.run_addDevice`** — a registration that is understood; **`AddsDevice`**,
  **`addsDevice`** — how registrations end; **`Registers`** — one that goes well.
* **`Account.content_addDevice_document`**, **`Registers.again`** — the answer posted back.
* **`answers_read_as_requests`** — all that speakers are told reads back as what they say. -/

namespace SpeakerHub

/-! ## Contents -/

namespace Disk

/-- **The content of a file** is there exactly if the file is. -/
theorem content_eq_ok_iff {d : Disk} {p : Path} {content : ByteArray} :
    d.content p = .ok content ↔ ∃ m, d.look p = .ok (.file content m) := by
  unfold Disk.content look
  rcases d.find p with fault | (⟨content', m⟩ | ⟨entries, m⟩)
  · simp [Except.map]
  · simp [Except.map]
  · simp [Except.map]

end Disk

namespace Action

/-- A look after a look is one look. -/
theorem look_bind_look {α β : Type} (f : Disk → Except Error α) (g : α → Disk → Except Error β) :
    (look f >>= fun x => look (g x)) = look fun d => f d >>= fun x => g x d := by
  funext d
  show (look f >>= fun x => look (g x)).run d = _
  cases h : f d with
  | error e =>
    rw [run_look_bind_error h, look, h]
    rfl
  | ok x =>
    rw [run_look_bind_ok h, look, h]
    rfl

end Action

namespace Store

variable {s : Store} {a id : Identifier} {d d' : Disk} {r : Except Error Unit}

/-! ## Writing a device -/

/-- A document that could not be written is as it was. -/
theorem Writes.look_of_error {p : Path} {file text : String} {e : Error}
    (h : Writes p file text d (.error e) d') (hshort : Path.IsShort (p ++ [.text file])) :
    d'.look (p ++ [.text file]) = d.look (p ++ [.text file]) := by
  apply h.look_kept hshort
  · intro hinside
    exact draft_ne p file (hinside.eq_of_length (by simp))
  · exact .inr ⟨e, rfl⟩
  · intro hinside
    have hlength := hinside.length_le
    rw [List.length_append, List.length_singleton] at hlength
    omega

/-- **A text that is written over itself** is there afterwards, whether that went well or not. -/
theorem Writes.look_same {p : Path} {file text : String} {m : Int}
    (h : Writes p file text d r d')
    (hold : d.look (p ++ [.text file]) = .ok (.file text.toUTF8 m)) :
    ∃ m, d'.look (p ++ [.text file]) = .ok (.file text.toUTF8 m) := by
  cases r with
  | ok => exact ⟨d.now, h.look_of_ok⟩
  | error e => exact ⟨m, (h.look_of_error (Disk.isShort_of_look hold)).trans hold⟩

/-- **A device is written** under its key. -/
theorem Writes.of_device {text : String}
    (h : Writes (s.devicePath a id) "DeviceInfo.xml" text d r d') :
    Writes ((Key.device a id).parent s) (Key.device a id).fileName text d r d' := by
  rw [Key.parent_device]
  exact h

/-- **The lists of an account** are left when a device of it is written. -/
theorem Writes.look_list {text : String}
    (h : Writes (s.devicePath a id) "DeviceInfo.xml" text d r d')
    (hshort : (s.accountPath a).IsShort) (resource : Resource) :
    d'.look (s.resourcePath a resource) = d.look (s.resourcePath a resource) := by
  obtain ⟨hs, ha⟩ := isShort_accountPath.1 hshort
  have hlist : (Key.list a resource).IsShort := ha
  rw [← Key.path_list]
  exact look_path_kept h.of_device hs hlist (.inl nofun)

/-- The record of a device, if there is one, carries the id that it is filed under. -/
def CarriesId (s : Store) (a id : Identifier) (d : Disk) : Prop :=
  ∀ device, s.device a id d = .ok device → device.id = id.text

/-- What is known of a device carries its id if its record does. -/
theorem CarriesId.deviceOrNew (h : s.CarriesId a id d) {known : Device}
    (hknown : s.deviceOrNew a id d = .ok known) : known.id = id.text := by
  unfold Store.deviceOrNew at hknown
  split at hknown
  · cases hknown
    rfl
  · exact h known hknown

/-- **A record that is written with its id** carries it. -/
theorem CarriesId.writes (h : s.CarriesId a id d) {device : Device} (hid : device.id = id.text)
    (hwrites : Writes (s.devicePath a id) "DeviceInfo.xml" device.toText d r d') :
    s.CarriesId a id d' := by
  intro record hrecord
  cases r with
  | ok =>
    have hstored : s.device a id d' = .ok device.stored :=
      read_file hwrites.look_of_ok device.ofText_toText
    rw [hstored] at hrecord
    cases hrecord
    exact hid
  | error e =>
    obtain ⟨i, hi⟩ := exists_look_of_read hrecord
    apply h
    rw [← hrecord]
    exact (read_congr (hwrites.look_of_error (Disk.isShort_of_look hi)) _).symm

end Store

namespace Account

variable {s : Store} {account body : String} {a id : Identifier} {d d' : Disk}

/-! ## The answer -/

/-- The answer to a registration: the device with all that its account has. -/
def deviceAnswer (s : Store) (account : Identifier) (device : Device) (d : Disk) :
    Except Error Written := do
  let presets ← storedPresets s account d
  let recents ← storedRecents s account d
  let sources ← storedSources s account d
  let token ← s.accountToken account d
  return { token, body := Dialect.document (Dialect.device presets recents sources device) }

/-- **The answer** is made of the lists of the account and their token. -/
theorem deviceAnswer_eq_ok_iff {device : Device} {w : Written} :
    deviceAnswer s a device d = .ok w
      ↔ ∃ presets recents sources, storedPresets s a d = .ok presets
        ∧ storedRecents s a d = .ok recents ∧ storedSources s a d = .ok sources
        ∧ s.accountToken a d = .ok w.token
        ∧ w.body = Dialect.document (Dialect.device presets recents sources device) := by
  simp only [deviceAnswer, bind_eq_ok_iff, exists_and_left]
  constructor
  · rintro ⟨xs, hxs, ys, hys, sources, hsources, t, ht, hw⟩
    cases hw
    exact ⟨xs, hxs, ys, hys, sources, hsources, ht, rfl⟩
  · rintro ⟨xs, hxs, ys, hys, sources, hsources, ht, hbody⟩
    refine ⟨xs, hxs, ys, hys, sources, hsources, w.token, ht, ?_⟩
    rw [← hbody]
    rfl

/-- The answer depends on what the lists of the account look like. -/
theorem deviceAnswer_congr (device : Device)
    (h : ∀ resource, d'.look (s.resourcePath a resource) = d.look (s.resourcePath a resource)) :
    deviceAnswer s a device d' = deviceAnswer s a device d := by
  have htoken (resource : Resource) :
      s.resourceToken a resource d' = s.resourceToken a resource d := Store.token_congr (h resource)
  have haccount : s.accountToken a d' = s.accountToken a d := by
    simp only [Store.accountToken, htoken]
  simp only [deviceAnswer, storedPresets_congr (h _), storedRecents_congr (h _),
    storedSources_congr (h _), haccount]

/-! ## The registration -/

/-- **A registration that is understood** saves the device and answers. -/
theorem run_addDevice {request : DeviceRequest} {known : Device}
    (hrequest : DeviceRequest.ofText body = .ok request)
    (hid : Identifier.ofText request.deviceId = .ok id)
    (haccount : Identifier.ofText account = .ok a) (hknown : s.deviceOrNew a id d = .ok known) :
    (addDevice s account body).run d
      = (s.saveDevice a id (registered request known) >>= fun _ =>
          Action.look (deviceAnswer s a (registered request known))).run d := by
  rw [addDevice, hrequest, Action.ok_bind, hid, Action.ok_bind, haccount, Action.ok_bind,
    Action.run_look_bind_ok hknown]
  have hpure (w : Written) : (pure w : Action Written) = Action.look fun _ => .ok w := rfl
  simp only [hpure, Action.look_bind_look]
  rfl

/-- **A registration that went well** was understood, and saved the device. -/
structure Registers (s : Store) (account body : String) (d : Disk) (w : Written) (d' : Disk)
    (request : DeviceRequest) (a id : Identifier) (known : Device) : Prop where
  /-- What was asked for. -/
  request_eq : DeviceRequest.ofText body = .ok request
  /-- The device. -/
  id_eq : id.text = request.deviceId
  /-- The account. -/
  account_eq : a.text = account
  /-- The device as it was known. -/
  known_eq : s.deviceOrNew a id d = .ok known
  /-- The device is saved. -/
  saved : Store.Writes (s.devicePath a id) "DeviceInfo.xml" (registered request known).toText d
    (.ok ()) d'
  /-- The answer. -/
  answer_eq : deviceAnswer s a (registered request known) d' = .ok w

/-- **How registering a device ends.** -/
inductive AddsDevice (s : Store) (account body : String) (d : Disk) :
    Except Error Written → Disk → Prop where
  /-- It fails, and the device is not saved. -/
  | failed {e : Error} {d' : Disk} (h : s.Fails d d') : AddsDevice s account body d (.error e) d'
  /-- The device is saved. Only then it shows whether there is an answer. -/
  | saved {request : DeviceRequest} {a id : Identifier} {known : Device}
      {r : Except Error Written} {d' : Disk}
      (hrequest : DeviceRequest.ofText body = .ok request)
      (hid : Identifier.ofText request.deviceId = .ok id)
      (haccount : Identifier.ofText account = .ok a)
      (hknown : s.deviceOrNew a id d = .ok known)
      (hsaved : Store.Writes (s.devicePath a id) "DeviceInfo.xml"
        (registered request known).toText d (.ok ()) d')
      (hanswer : deviceAnswer s a (registered request known) d' = r) :
      AddsDevice s account body d r d'

/-- **Registering a device** ends in one of these ways. -/
theorem addsDevice (s : Store) (account body : String) (d : Disk) :
    AddsDevice s account body d ((addDevice s account body).run d).1
      ((addDevice s account body).run d).2 := by
  rcases hrequest : DeviceRequest.ofText body with e | request
  · rw [addDevice, hrequest]
    exact .failed .refused
  rcases hid : Identifier.ofText request.deviceId with e | id
  · rw [addDevice, hrequest, Action.ok_bind, hid]
    exact .failed .refused
  rcases haccount : Identifier.ofText account with e | a
  · rw [addDevice, hrequest, Action.ok_bind, hid, Action.ok_bind, haccount]
    exact .failed .refused
  rcases hknown : s.deviceOrNew a id d with e | known
  · rw [addDevice, hrequest, Action.ok_bind, hid, Action.ok_bind, haccount, Action.ok_bind,
      Action.run_look_bind_error hknown]
    exact .failed .refused
  rw [run_addDevice hrequest hid haccount hknown]
  let device := registered request known
  have hwrites : Store.Writes (s.devicePath a id) "DeviceInfo.xml" device.toText d
      ((s.saveDevice a id device).run d).1 ((s.saveDevice a id device).run d).2 :=
    Store.writes _ _ _ d
  rcases hsaved : (s.saveDevice a id device).run d with ⟨e | _, d₁⟩ <;> rw [hsaved] at hwrites
  · rw [Action.run_bind_error hsaved]
    exact .failed (.broken hwrites.of_device)
  · rw [Action.run_bind_ok hsaved]
    exact .saved hrequest hid haccount hknown hwrites rfl

/-- Whatever went well is such a registration. -/
theorem exists_registers {w : Written} (h : (addDevice s account body).run d = (.ok w, d')) :
    ∃ request a id known, Registers s account body d w d' request a id known := by
  have hcases := addsDevice s account body d
  rw [h] at hcases
  cases hcases with
  | @saved request a id known _ _ hrequest hid haccount hknown hsaved hanswer =>
    exact ⟨request, a, id, known, hrequest, Identifier.ofText_eq_ok_iff.1 hid,
      Identifier.ofText_eq_ok_iff.1 haccount, hknown, hsaved, hanswer⟩

/-! ## Posting an answer back -/

/-- A value that is given and known. -/
theorem given_self (value : String) : given value value = value := by
  unfold given
  split <;> rfl

/-- **A device that says what is known of it** is registered as it is. -/
theorem registered_stored (device : Device) :
    registered device.request device.stored = device.stored := by
  simp only [registered, Device.request, Device.stored, given_self]

/-- What a device was written as is what is known of it. -/
theorem deviceOrNew_of_look {device : Device} {m : Int}
    (h : d.look (s.recordPath a id) = .ok (.file device.toText.toUTF8 m)) :
    s.deviceOrNew a id d = .ok device.stored := by
  rw [Store.deviceOrNew, Store.device, Store.read_file h device.ofText_toText]

/-- **The document of a device** that was written, posted back, writes the device again. -/
theorem run_addDevice_document {device : Device} (hid : device.id = id.text) {m : Int}
    (h : d.look (s.recordPath a id) = .ok (.file device.toText.toUTF8 m)) (xs : List Preset)
    (ys : List Recent) (sources : List Source) :
    (addDevice s a.text (Dialect.document (Dialect.device xs ys sources device))).run d
      = (s.saveDevice a id device.stored >>= fun _ =>
          Action.look (deviceAnswer s a device.stored)).run d := by
  have hrequest := (DeviceRequest.ofText_device xs ys sources device).2
  have hdevice : Identifier.ofText device.request.deviceId = .ok id :=
    Identifier.ofText_eq_ok_iff.2 hid.symm
  have hknown : s.deviceOrNew a id d = .ok device.stored := deviceOrNew_of_look h
  rw [run_addDevice hrequest hdevice (ofText_text a) hknown, registered_stored]

/-- **The document of a device leaves its record as it is**, whether it can be saved or not. -/
theorem content_addDevice_document {device : Device} (hid : device.id = id.text)
    (h : d.content (s.recordPath a id) = .ok device.toText.toUTF8) (xs : List Preset)
    (ys : List Recent) (sources : List Source) :
    ((addDevice s a.text (Dialect.document (Dialect.device xs ys sources device))).run d).2.content
      (s.recordPath a id) = .ok device.toText.toUTF8 := by
  obtain ⟨m, hm⟩ := Disk.content_eq_ok_iff.1 h
  have hwrites : Store.Writes (s.devicePath a id) "DeviceInfo.xml" device.stored.toText d
      ((s.saveDevice a id device.stored).run d).1 ((s.saveDevice a id device.stored).run d).2 :=
    Store.writes _ _ _ d
  rw [device.toText_stored] at hwrites
  rw [run_addDevice_document hid hm, Action.Looks.run_bind fun _ => Action.looks_look _]
  exact Disk.content_eq_ok_iff.2 (hwrites.look_same hm)

/-- The directory of an account is on the way to the records of its devices. -/
theorem isShort_accountPath_of_record {i : Inode} (h : d.look (s.recordPath a id) = .ok i) :
    (s.accountPath a).IsShort := by
  have hrecord := Disk.isShort_of_look h
  have hdevice := (Path.isShort_append.1 hrecord).1
  have hdevices := (Path.isShort_append.1 hdevice).1
  exact (Path.isShort_append.1 hdevices).1

/-- **An answer that is posted back** is answered, at any time. -/
theorem Registers.again {w : Written} {request : DeviceRequest} {known : Device}
    (h : Registers s account body d w d' request a id known)
    (hid : (registered request known).id = id.text) (clock : Int) :
    ∃ again d'', (addDevice s account w.body).run (d'.atTime clock) = (.ok again, d'') := by
  obtain rfl := h.account_eq
  let device := registered request known
  obtain ⟨xs, ys, sources, hxs, hys, hsources, ht, hbody⟩ := deviceAnswer_eq_ok_iff.1 h.answer_eq
  have hlook : (d'.atTime clock).look (s.recordPath a id)
      = .ok (.file device.toText.toUTF8 d.now) := h.saved.look_of_ok
  have hwrites : Store.Writes (s.devicePath a id) "DeviceInfo.xml" device.stored.toText
      (d'.atTime clock) ((s.saveDevice a id device.stored).run (d'.atTime clock)).1
      ((s.saveDevice a id device.stored).run (d'.atTime clock)).2 :=
    Store.writes _ _ _ _
  rw [hbody, run_addDevice_document hid hlook]
  have hsaved := h.saved.again hwrites
  -- The lists and their tokens are what they were for the first answer.
  have hlists := hwrites.look_list (isShort_accountPath_of_record hlook)
  have hanswer := deviceAnswer_congr device.stored hlists
  let again : Written :=
    { token := w.token
      body := Dialect.document (Dialect.device xs ys sources device.stored) }
  have hagain : deviceAnswer s a device.stored (d'.atTime clock) = .ok again :=
    deviceAnswer_eq_ok_iff.2 ⟨xs, ys, sources, hxs, hys, hsources, ht, rfl⟩
  rw [Action.run_bind_ok (Prod.ext hsaved rfl)]
  exact ⟨again, _, Prod.ext (hanswer.trans hagain) rfl⟩

end Account

/-- A speaker that is found is filed under the id that its record carries. -/
theorem Discovery.carriesId_record {s : Store} {a id : Identifier} {d : Disk}
    (h : s.CarriesId a id d) {found : Found} (hid : id.text = found.id) :
    s.CarriesId a id ((record s a.text found).run d).2 := by
  rw [record, Account.ofText_text, Action.ok_bind, ← hid, Account.ofText_text, Action.ok_bind]
  rcases hknown : s.deviceOrNew a id d with e | known
  · rw [Action.run_look_bind_error hknown]
    exact h
  · rw [Action.run_look_bind_ok hknown]
    have hcarries : known.id = id.text := h.deviceOrNew hknown
    have hmerged : (merged found known).id = id.text := hcarries
    have hwrites := Store.writes (s.devicePath a id) "DeviceInfo.xml" (merged found known).toText d
    exact h.writes hmerged hwrites

/-- **What speakers are told reads back as what they say.** Whatever text the fields hold, what is
read out of a preset, a recent or a device is what it was written from; it has no id of a source,
and nothing that stands deeper in it is taken for its own.

So the answer to a registration can be posted back. If the record carries the id it is filed under,
its content stays the same to the byte, on every disk that holds it and whether the request goes
well or not; and right after the registration it does go well, whatever the clock says. Records
carry their ids if they have only ever been written by registrations and searches. -/
theorem answers_read_as_requests :
    (∀ (sources : List Source) (p : Preset),
      PresetRequest.ofText (Dialect.preset sources p).render = .ok
        { sourceId := "", location := p.item.location, kind := p.item.kind, name := p.item.name,
          containerArt := p.containerArt })
    ∧ (∀ (sources : List Source) (r : Recent),
      RecentRequest.ofText (Dialect.recent sources r).render = .ok
        { lastPlayedAt := Dialect.lastPlayedAt r.utcTime, sourceId := "", name := r.item.name,
          location := r.item.location, kind := r.item.kind })
    ∧ (∀ (presets : List Preset) (recents : List Recent) (sources : List Source) (d : Device),
      DeviceRequest.ofText (Dialect.device presets recents sources d).render = .ok
        { deviceId := d.id, name := d.name, address := d.address, firmware := d.firmware,
          serial := d.serial })
    ∧ (∀ (s : Store) (account body : String) (d d₁ : Disk) (w : Account.Written),
      (Account.addDevice s account body).run d = (.ok w, d₁) →
      ∃ (request : DeviceRequest) (a id : Identifier) (content : ByteArray),
        DeviceRequest.ofText body = .ok request ∧ id.text = request.deviceId ∧ a.text = account
        ∧ d₁.content (s.recordPath a id) = .ok content
        ∧ (s.CarriesId a id d → s.CarriesId a id d₁)
        ∧ (s.CarriesId a id d₁ →
          (∀ d₂, d₂.content (s.recordPath a id) = .ok content →
            ((Account.addDevice s account w.body).run d₂).2.content (s.recordPath a id)
              = .ok content)
          ∧ ∀ clock, ∃ again d₂,
            (Account.addDevice s account w.body).run (d₁.atTime clock) = (.ok again, d₂)
            ∧ d₂.content (s.recordPath a id) = .ok content))
    ∧ ∀ (s : Store) (a id : Identifier) (found : Discovery.Found) (d : Disk),
      id.text = found.id → s.CarriesId a id d →
        s.CarriesId a id ((Discovery.record s a.text found).run d).2 := by
  refine ⟨PresetRequest.ofText_preset, RecentRequest.ofText_recent,
    fun xs ys sources d => (DeviceRequest.ofText_device xs ys sources d).1, ?_,
    fun s a id found d hid h => Discovery.carriesId_record h hid⟩
  intro s account body d d₁ w hrun
  obtain ⟨request, a, id, known, h⟩ := Account.exists_registers hrun
  let device := Account.registered request known
  have hlook : d₁.look (s.recordPath a id) = .ok (.file device.toText.toUTF8 d.now) :=
    h.saved.look_of_ok
  have hcontent : d₁.content (s.recordPath a id) = .ok device.toText.toUTF8 :=
    Disk.content_eq_ok_iff.2 ⟨d.now, hlook⟩
  refine ⟨request, a, id, device.toText.toUTF8, h.request_eq, h.id_eq, h.account_eq, hcontent,
    fun hcarries => ?_, fun hcarries => ?_⟩
  · have hknown : known.id = id.text := hcarries.deviceOrNew h.known_eq
    have hid : (Account.registered request known).id = id.text := hknown
    exact hcarries.writes hid h.saved
  · have hid : device.id = id.text :=
      hcarries device.stored (Store.read_file hlook device.ofText_toText)
    obtain ⟨xs, ys, sources, -, -, -, -, hbody⟩ :=
      Account.deviceAnswer_eq_ok_iff.1 h.answer_eq
    obtain rfl := h.account_eq
    have hkept (d₂ : Disk) (hd₂ : d₂.content (s.recordPath a id) = .ok device.toText.toUTF8) :
        ((Account.addDevice s a.text w.body).run d₂).2.content (s.recordPath a id)
          = .ok device.toText.toUTF8 := by
      rw [hbody]
      exact Account.content_addDevice_document hid hd₂ xs ys sources
    refine ⟨hkept, fun clock => ?_⟩
    obtain ⟨again, d₂, hagain⟩ := h.again hid clock
    have hcontent₂ := hkept (d₁.atTime clock) hcontent
    rw [hagain] at hcontent₂
    exact ⟨again, d₂, hagain, hcontent₂⟩

/-- The first registration of a device is answered with a document that registers it as it is. -/
theorem first_answer_posted_back :
    let s : Store := { directory := Path.ofTexts ["data"] }
    let path := Path.ofTexts ["data", "accounts", "A", "devices", "D", "DeviceInfo.xml"]
    ∃ (w again : Account.Written) (d d' : Disk) (content : ByteArray),
      (Account.addDevice s "A" "<device deviceid=\"D\"/>").run { clock := 1000 } = (.ok w, d)
        ∧ d.content path = .ok content
        ∧ (Account.addDevice s "A" w.body).run (d.atTime 2000) = (.ok again, d')
        ∧ d'.content path = .ok content := by
  intro s path
  let body := "<device deviceid=\"D\"/>"
  have hok : ((Account.addDevice s "A" body).run { clock := 1000 }).1.isOk := by
    decide
  obtain ⟨w, d, hrun⟩ := Action.exists_of_isOk hok
  obtain ⟨request, a, id, content, hrequest, hid, ha, hcontent, hcarries, hback⟩ :=
    answers_read_as_requests.2.2.2.1 s "A" body { clock := 1000 } d w hrun
  have hdevice : (DeviceRequest.ofText body).map (·.deviceId) = .ok "D" := by
    decide
  rw [hrequest] at hdevice
  have hd : id.text = "D" := hid.trans (Except.ok.inj hdevice)
  have hpath : s.recordPath a id = path := by
    rw [Store.recordPath, Store.devicePath, Store.devicesPath, Store.accountPath, ha, hd]
    rfl
  rw [hpath] at hcontent hback
  have hnone : s.CarriesId a id { clock := 1000 } := fun device hread =>
    absurd hread (Store.read_empty (by simp [Store.recordPath, Path.ofTexts]) _ 1000 device)
  obtain ⟨-, hagain⟩ := hback (hcarries hnone)
  obtain ⟨again, d', hrun', hcontent'⟩ := hagain 2000
  exact ⟨w, again, d, d', content, hrun, hcontent, hrun', hcontent'⟩

end SpeakerHub
