import SpeakerHub.Proofs.Account.Registration
import SpeakerHub.Proofs.Account.Serving

/-! # Requests that fail

A request that changes a list reads all it needs before it saves. If it fails, everything is as it
was, and a list that cannot be read is not taken for one that was never stored. A registration reads
the lists of the account only for its answer, when the device is saved already. So it can fail with
the device saved, though only if one of these lists cannot be read.

* **`Store.Reads`** — how a document is read; **`Store.Unreadable`** — a list that is there but
  cannot be read.
* **`Account.unreadable_presets_iff`** to **`unreadable_sources_iff`** — such lists are not given.
* **`Account.Careful`** — a request that changes a list with care;
  **`failed_writes_change_nothing`** — presets and recents are changed so.
* **`Account.deviceAnswer_eq_error_iff`** — why a registration has no answer;
  **`Account.unanswered_of_saved`** — what it leaves then.
* **`failed_registrations`** — what is left of one that fails.
* **`unanswered_registration_is_saved`** — a device that is saved without an answer. -/

namespace SpeakerHub

/-! ## Lists that cannot be read -/

/-- What does not fail has a value. -/
theorem not_exists_error_iff {α : Type} {r : Except Error α} :
    (¬∃ e, r = .error e) ↔ ∃ x, r = .ok x := by
  cases r with
  | error e => exact iff_of_false (fun hno => hno ⟨e, rfl⟩) nofun
  | ok x => exact iff_of_true nofun ⟨x, rfl⟩

namespace Store

/-- **How a document is read.** -/
inductive Reads {α : Type} (p : Path) (d : Disk) : Except Error α → Prop where
  /-- There is none. -/
  | missing (hcontent : d.content p = .error .notFound) : Reads p d (.error (.notFound p))
  /-- There is something that is no such document. -/
  | unreadable {e : Error} (hcontent : d.content p ≠ .error .notFound)
      (he : ∀ q, e ≠ .notFound q) : Reads p d (.error e)
  /-- There is one. -/
  | document (x : α) : Reads p d (.ok x)

/-- **Reading a document** is one of these. -/
theorem reads {α : Type} (p : Path) (ofText? : String → Option α) (d : Disk) :
    Reads p d (read p ofText? d) := by
  unfold read
  rcases hcontent : d.content p with fault | content
  · cases fault with
    | notFound => exact .missing hcontent
    | _ => exact .unreadable (by simp [hcontent]) nofun
  · have hthere : d.content p ≠ .error .notFound := by
      simp [hcontent]
    rcases htext : String.fromUTF8? content with _ | text
    · simpa [htext] using .unreadable hthere nofun
    · rcases hvalue : ofText? text with _ | value
      · simpa [htext, hvalue] using .unreadable hthere nofun
      · simpa [htext, hvalue] using .document value

/-- It is read so in whatever form it is given. -/
theorem Reads.map {α β : Type} {p : Path} {d : Disk} {r : Except Error α} (h : Reads p d r)
    (f : α → β) : Reads p d (r.map f) := by
  cases h with
  | missing hcontent => exact .missing hcontent
  | unreadable hcontent he => exact .unreadable hcontent he
  | document x => exact .document (f x)

/-- **A list is there but cannot be read.** -/
def Unreadable (s : Store) (account : Identifier) (resource : Resource) (d : Disk) : Prop :=
  (∃ e, s.get (.list account resource) d = .error e)
    ∧ d.content (s.resourcePath account resource) ≠ .error .notFound

section

variable {α : Type} {p : Path} {d : Disk} {r : Except Error (List α)} (h : Reads p d r)
include h

/-- **A list that is taken as stored** is the one that is there, or there is none. -/
theorem Reads.eq_ok_of_orEmpty {xs : List α} (hxs : Account.orEmpty r = .ok xs) :
    r = .ok xs ∨ d.content p = .error .notFound ∧ xs = [] := by
  cases h with
  | missing hcontent =>
    cases hxs
    exact .inr ⟨hcontent, rfl⟩
  | @unreadable e hcontent he =>
    cases e with
    | notFound q => exact absurd rfl (he q)
    | _ => cases hxs
  | document x => exact .inl hxs

/-- **No list is taken as stored** exactly if it is there but cannot be read. -/
theorem Reads.orEmpty_eq_error_iff {β : Type} (f : List α → β) :
    (∃ e, Account.orEmpty r = .error e)
      ↔ (∃ e, r.map f = .error e) ∧ d.content p ≠ .error .notFound := by
  cases h with
  | missing hcontent => exact iff_of_false nofun fun ⟨_, hthere⟩ => hthere hcontent
  | @unreadable e hcontent he =>
    cases e with
    | notFound q => exact absurd rfl (he q)
    | _ => exact iff_of_true ⟨_, rfl⟩ ⟨⟨_, rfl⟩, hcontent⟩
  | document x => exact iff_of_false nofun nofun

end

section

variable (s : Store) (account : Identifier) (d : Disk)

/-- Presets are read in one of these ways. -/
theorem reads_presets : Reads (s.resourcePath account .presets) d (s.presets account d) :=
  reads _ _ d

/-- So are recents. -/
theorem reads_recents : Reads (s.resourcePath account .recents) d (s.recents account d) :=
  reads _ _ d

/-- So are sources. -/
theorem reads_sources : Reads (s.resourcePath account .sources) d (s.sources account d) :=
  (reads _ _ d).map _

end

end Store

namespace Account

variable {s : Store} {account : Identifier} {d d' : Disk}

/-- Presets that cannot be read are not given. -/
theorem unreadable_presets_iff :
    s.Unreadable account .presets d ↔ ∃ e, storedPresets s account d = .error e :=
  ((s.reads_presets account d).orEmpty_eq_error_iff Filed.presets).symm

/-- Recents that cannot be read are not given. -/
theorem unreadable_recents_iff :
    s.Unreadable account .recents d ↔ ∃ e, storedRecents s account d = .error e :=
  ((s.reads_recents account d).orEmpty_eq_error_iff Filed.recents).symm

/-- Sources that cannot be read are not given. -/
theorem unreadable_sources_iff :
    s.Unreadable account .sources d ↔ ∃ e, storedSources s account d = .error e :=
  ((s.reads_sources account d).orEmpty_eq_error_iff Filed.sources).symm

/-! ## Changing lists -/

/-- **A request changes a list with care.** -/
structure Careful {α : Type} (s : Store) (account : String) (resource : Resource)
    (filed : List α → Filed) (d : Disk) (r : Except Error Written) (d' : Disk) : Prop where
  /-- If it fails, everything that is stored is kept. -/
  kept : ∀ e, r = .error e → s.Kept d d'
  /-- It fails if its list or the sources are there but cannot be read. -/
  unreadable : ∀ id : Identifier, id.text = account →
    s.Unreadable id resource d ∨ s.Unreadable id .sources d → ∃ e, r = .error e
  /-- If it goes well, one entry is put into the list that is there, or into the empty one if there
  is none. -/
  changed : ∀ w, r = .ok w → ∃ (id : Identifier) (front : List α) (old? : Option α) (entry : α)
    (back : List α), id.text = account
      ∧ (s.get (.list id resource) d = .ok (filed (front ++ old?.toList ++ back))
        ∨ d.content (s.resourcePath id resource) = .error .notFound
          ∧ front ++ old?.toList ++ back = [])
      ∧ s.get (.list id resource) d' = .ok (filed (front ++ entry :: back))

/-- A request that is refused is careful. -/
theorem Careful.refused {α : Type} (s : Store) (account : String) (resource : Resource)
    (filed : List α → Filed) (d : Disk) (e : Error) :
    Careful s account resource filed d (.error e) d where
  kept _ _ := Store.Fails.refused.kept
  unreadable _ _ _ := ⟨e, rfl⟩
  changed _ h := by cases h

/-- **A request that stores its list** is careful if it takes that list and the sources as
stored. -/
theorem Stores.careful {α : Type} {resource : Resource} {filed : List α → Filed} {save : Save}
    {body : String} {r : Except Error Written} {list : Except Error (List α)}
    {sources : List Source} {IsSame : α → Prop} {before after front back : List α} {old? : Option α}
    {entry : α} (h : Stores s save body d r d')
    (hsave : save.list? = some (account.text, resource)) (hkept : save.kept = filed after)
    (hreads : Store.Reads (s.resourcePath account resource) d list)
    (hget : s.get (.list account resource) d = list.map filed)
    (hbefore : orEmpty list = .ok before) (hsources : storedSources s account d = .ok sources)
    (hreplaced : Replaced IsSame before after front old? entry back) :
    Careful s account.text resource filed d r d' where
  kept e he := by
    subst he
    cases h with
    | failed h => exact h.kept
  unreadable id hid hunreadable := by
    obtain rfl : id = account := Key.text_inj.1 hid
    -- Both were read before anything was saved.
    rcases hunreadable with hlist | hlist
    · rw [Store.Unreadable, hget, ← hreads.orEmpty_eq_error_iff] at hlist
      exact absurd hlist (not_exists_error_iff.2 ⟨before, hbefore⟩)
    · rw [unreadable_sources_iff] at hlist
      exact absurd hlist (not_exists_error_iff.2 ⟨sources, hsources⟩)
  changed w hw := by
    subst hw
    cases h with
    | done h =>
      refine ⟨account, front, old?, entry, back, rfl, ?_, ?_⟩
      · rw [← hreplaced.before_eq, hget]
        exact (hreads.eq_ok_of_orEmpty hbefore).imp_left (congrArg (Except.map filed))
      · rw [h.get_saved (Save.key_of_list hsave), hkept, hreplaced.after_eq]

end Account

/-- **A failed write of presets or recents changes nothing**, and a list that cannot be read is not
written over. Whatever is on the disk and whatever the arguments are: if a request to change presets
or recents fails, all documents of all accounts are there as before, with their times. It fails if
its list or the sources are there but cannot be read. If it goes well, it has put one entry into the
list that was there; only a list that is missing counts as empty. -/
theorem failed_writes_change_nothing (s : Store) (account device body : String) (d : Disk) :
    (∀ button,
      let result := (Account.putPreset s account device button body).run d
      Account.Careful s account .presets .presets d result.1 result.2)
    ∧ let result := (Account.addRecent s account device body).run d
      Account.Careful s account .recents .recents d result.1 result.2 := by
  constructor
  · intro button result
    have hcases : Account.PutsPreset s account device button body d result.1 result.2 :=
      Account.putsPreset s account device button body d
    generalize result.1 = r, result.2 = d' at hcases ⊢
    cases hcases with
    | refused e => exact .refused _ _ _ _ _ e
    | @stored number request _ id sources stored _ _ _ _ _ haccount hsources hstored h =>
      obtain rfl := Identifier.ofText_eq_ok_iff.1 haccount
      obtain ⟨front, old?, back, hreplaced⟩ := Account.replaced_withPreset number request sources
        (Timestamp.ofMilliseconds d.clock) stored
      exact h.careful rfl rfl (s.reads_presets id d) rfl hstored hsources hreplaced
  · intro result
    have hcases : Account.AddsRecent s account device body d result.1 result.2 :=
      Account.addsRecent s account device body d
    generalize result.1 = r, result.2 = d' at hcases ⊢
    cases hcases with
    | refused e => exact .refused _ _ _ _ _ e
    | @stored request deviceId id sources stored _ _ _ _ haccount hsources hstored h =>
      obtain rfl := Identifier.ofText_eq_ok_iff.1 haccount
      obtain ⟨front, old?, back, hreplaced⟩ := Account.replaced_withRecent deviceId request sources
        ((Timestamp.seconds? request.lastPlayedAt.toList).getD (d.clock / 1000)) stored
      exact h.careful rfl rfl (s.reads_recents id d) rfl hstored hsources hreplaced

/-- Presets that are cut off in the middle of a tag. -/
def Disk.cutOff : Disk :=
  let path := Path.ofTexts ["data", "accounts", "A", "Presets.xml"]
  ((Store.write path "<presets").run { clock := 1000 }).2

/-- Presets that are cut off are not written over. -/
theorem cut_off_presets_are_kept :
    let s : Store := { directory := Path.ofTexts ["data"] }
    ∃ e d', (Account.putPreset s "A" "D" "1" "<preset/>").run .cutOff = (.error e, d')
      ∧ s.Kept .cutOff d' := by
  intro s
  let id : Identifier := { text := "A", valid := by decide }
  have hpresets : Account.storedPresets s id .cutOff
      = .error (.corrupted (s.resourcePath id .presets)) := by decide
  have hcareful := (failed_writes_change_nothing s "A" "D" "<preset/>" .cutOff).1 "1"
  obtain ⟨e, he⟩ :=
    hcareful.unreadable id rfl (.inl (Account.unreadable_presets_iff.2 ⟨_, hpresets⟩))
  exact ⟨e, _, Prod.ext he rfl, hcareful.kept e he⟩

/-! ## Registrations -/

/-- What is missing can be seen by looking. -/
theorem Disk.content_eq_notFound_iff {d : Disk} {p : Path} :
    d.content p = .error .notFound ↔ d.look p = .error .notFound := by
  unfold Disk.content look
  rcases d.find p with fault | entry
  · simp [Except.map]
  · cases entry <;> simp [Except.map]

/-- A list that looks as before can be read as before. -/
theorem Store.unreadable_congr {s : Store} {account : Identifier} {resource : Resource}
    {d d' : Disk}
    (h : d'.look (s.resourcePath account resource) = d.look (s.resourcePath account resource)) :
    s.Unreadable account resource d' ↔ s.Unreadable account resource d := by
  rw [← Key.path_list] at h
  have hget := Store.get_congr h
  rw [Key.path_list] at h
  rw [Store.Unreadable, Store.Unreadable, hget, Ne, Ne, Disk.content_eq_notFound_iff,
    Disk.content_eq_notFound_iff, h]

namespace Account

variable {s : Store} {account : Identifier} {d d' : Disk}

/-- Sources that are given have a token. -/
theorem exists_token_of_storedSources {sources : List Source}
    (h : storedSources s account d = .ok sources) :
    ∃ t, s.resourceToken account .sources d = .ok t := by
  have hread : ∃ xs, orEmpty (Store.read (s.resourcePath account .sources) Sources.ofText? d)
      = .ok xs := by
    rw [storedSources, Store.sources] at h
    rcases hread : Store.read (s.resourcePath account .sources) Sources.ofText? d with e | xs
    · rw [hread] at h
      cases e with
      | notFound p => exact ⟨[], rfl⟩
      | _ => cases h
    · exact ⟨xs, rfl⟩
  obtain ⟨xs, hxs⟩ := hread
  exact exists_token_of_orEmpty hxs

/-- **A registration has an answer** unless a list of its account cannot be read. -/
theorem deviceAnswer_eq_error_iff {device : Device} :
    (∃ e, deviceAnswer s account device d = .error e)
      ↔ ∃ resource, s.Unreadable account resource d := by
  constructor
  · contrapose!
    intro hreadable
    obtain ⟨presets, hpresets⟩ :=
      not_exists_error_iff.1 (mt unreadable_presets_iff.2 (hreadable .presets))
    obtain ⟨recents, hrecents⟩ :=
      not_exists_error_iff.1 (mt unreadable_recents_iff.2 (hreadable .recents))
    obtain ⟨sources, hsources⟩ :=
      not_exists_error_iff.1 (mt unreadable_sources_iff.2 (hreadable .sources))
    -- A list that is given has a token, so there is one for the account.
    obtain ⟨p, hp⟩ := exists_token_of_orEmpty hpresets
    obtain ⟨r, hr⟩ := exists_token_of_orEmpty hrecents
    obtain ⟨c, hc⟩ := exists_token_of_storedSources hsources
    let answer : Written :=
      { token := (p.latest r).latest c
        body := Dialect.document (Dialect.device presets recents sources device) }
    have hanswer : deviceAnswer s account device d = .ok answer :=
      deviceAnswer_eq_ok_iff.2 ⟨presets, recents, sources, hpresets, hrecents, hsources,
        Store.accountToken_eq_ok_iff.2 ⟨p, r, c, hp, hr, hc, rfl⟩, rfl⟩
    rw [hanswer]
    nofun
  · rintro ⟨resource, hunreadable⟩
    by_contra hno
    obtain ⟨w, hw⟩ := not_exists_error_iff.1 hno
    obtain ⟨presets, recents, sources, hpresets, hrecents, hsources, -, -⟩ :=
      deviceAnswer_eq_ok_iff.1 hw
    cases resource with
    | presets =>
      exact not_exists_error_iff.2 ⟨_, hpresets⟩ (unreadable_presets_iff.1 hunreadable)
    | recents =>
      exact not_exists_error_iff.2 ⟨_, hrecents⟩ (unreadable_recents_iff.1 hunreadable)
    | sources =>
      exact not_exists_error_iff.2 ⟨_, hsources⟩ (unreadable_sources_iff.1 hunreadable)

/-- **A registration without an answer**: the device is saved, and all else is kept. -/
structure Unanswered (s : Store) (account body : String) (d d' : Disk) (request : DeviceRequest)
    (a id : Identifier) (known : Device) : Prop where
  /-- What was asked for. -/
  request_eq : DeviceRequest.ofText body = .ok request
  /-- The device. -/
  id_eq : id.text = request.deviceId
  /-- The account. -/
  account_eq : a.text = account
  /-- The device as it was known. -/
  known_eq : s.deviceOrNew a id d = .ok known
  /-- The device is stored as it was asked for. -/
  stored : s.device a id d' = .ok (registered request known).stored
  /-- It is listed. -/
  listed : ∃ names, s.deviceNames a d = .ok names
    ∧ s.deviceNames a d' = .ok (Store.withName id.text names)
  /-- All other documents are kept. -/
  others : ∀ (k : Key) (i : Inode), k ≠ .device a id →
    (d'.look (k.path s) = .ok i ↔ d.look (k.path s) = .ok i)
  /-- A list of the account cannot be read. -/
  unreadable : ∃ resource, s.Unreadable a resource d

/-- **A device that is saved while a list cannot be read** is registered without an answer. -/
theorem unanswered_of_saved {body : String} {request : DeviceRequest} {id : Identifier}
    {known : Device} {resource : Resource}
    (hrequest : DeviceRequest.ofText body = .ok request)
    (hid : Identifier.ofText request.deviceId = .ok id)
    (hknown : s.deviceOrNew account id d = .ok known)
    (hsaved : ((s.saveDevice account id (registered request known)).run d).1 = .ok ())
    (hunreadable : s.Unreadable account resource d) :
    ∃ e d', (addDevice s account.text body).run d = (.error e, d')
      ∧ Unanswered s account.text body d d' request account id known := by
  let device := registered request known
  let d' := ((s.saveDevice account id device).run d).2
  have hwrites : Store.Writes (s.devicePath account id) "DeviceInfo.xml" device.toText d (.ok ())
      d' := by
    rw [← hsaved]
    exact Store.writes _ _ _ d
  have hlists := hwrites.look_list (isShort_accountPath_of_record hwrites.look_of_ok)
  obtain ⟨e, he⟩ : ∃ e, deviceAnswer s account device d' = .error e :=
    deviceAnswer_eq_error_iff.2 ⟨resource, (Store.unreadable_congr (hlists resource)).2 hunreadable⟩
  refine ⟨e, d', ?_, hrequest, Identifier.ofText_eq_ok_iff.1 hid, rfl, hknown,
    Store.read_file hwrites.look_of_ok device.ofText_toText,
    Store.deviceNames_added hwrites.of_device,
    fun k i hne => hwrites.of_device.look_iff (.inl hne) i, resource, hunreadable⟩
  rw [run_addDevice hrequest hid (ofText_text account) hknown,
    Action.run_bind_ok (Prod.ext hsaved rfl)]
  exact Prod.ext he rfl

end Account

/-- **A failed registration changes nothing** if all lists of its account can be read or are
missing. Otherwise it changes nothing, or the device is saved, and nothing else is. -/
theorem failed_registrations (s : Store) (account body : String) (d d' : Disk) (e : Error)
    (h : (Account.addDevice s account body).run d = (.error e, d')) :
    s.Kept d d'
      ∨ ∃ request a id known, Account.Unanswered s account body d d' request a id known := by
  have hcases := Account.addsDevice s account body d
  rw [h] at hcases
  -- What fails before the device is saved keeps everything; afterwards only the answer can fail.
  cases hcases with
  | failed h => exact .inl h.kept
  | @saved request a id known _ _ hrequest hid haccount hknown hsaved hanswer =>
    refine .inr ⟨request, a, id, known, hrequest, Identifier.ofText_eq_ok_iff.1 hid,
      Identifier.ofText_eq_ok_iff.1 haccount, hknown,
      Store.read_file hsaved.look_of_ok (Device.ofText_toText _),
      Store.deviceNames_added hsaved.of_device,
      fun k i hne => hsaved.of_device.look_iff (.inl hne) i, ?_⟩
    obtain ⟨resource, hresource⟩ := Account.deviceAnswer_eq_error_iff.1 ⟨e, hanswer⟩
    have hlists := hsaved.look_list (Account.isShort_accountPath_of_record hsaved.look_of_ok)
    exact ⟨resource, (Store.unreadable_congr (hlists resource)).1 hresource⟩

/-- A device is registered without an answer where presets are cut off. -/
theorem Account.unanswered_cutOff :
    let s : Store := { directory := Path.ofTexts ["data"] }
    let account : Identifier := { text := "A", valid := by decide }
    let id : Identifier := { text := "D", valid := by decide }
    let request : DeviceRequest :=
      { deviceId := "D", name := "N", address := "", firmware := "", serial := "" }
    let body := "<device deviceid=\"D\"><name>N</name></device>"
    ∃ e d', (addDevice s "A" body).run .cutOff = (.error e, d')
      ∧ Unanswered s "A" body .cutOff d' request account id { id := "D" } := by
  intro s account id request body
  have hrequest : DeviceRequest.ofText "<device deviceid=\"D\"><name>N</name></device>"
      = .ok request := rfl
  have hid : Identifier.ofText request.deviceId = .ok id := Identifier.ofText_eq_ok_iff.2 rfl
  have hknown : s.deviceOrNew account id .cutOff = .ok { id := "D" } := by decide
  have hsaved : ((s.saveDevice account id (registered request { id := "D" })).run .cutOff).1
      = .ok () := by decide
  have hpresets : storedPresets s account .cutOff
      = .error (.corrupted (s.resourcePath account .presets)) := by decide
  obtain ⟨e, d', hrun, h⟩ :=
    unanswered_of_saved hrequest hid hknown hsaved (unreadable_presets_iff.2 ⟨_, hpresets⟩)
  exact ⟨e, d', hrun, h⟩

/-- A registration without an answer keeps all lists. -/
theorem unanswered_registration_keeps_lists :
    let s : Store := { directory := Path.ofTexts ["data"] }
    let body := "<device deviceid=\"D\"><name>N</name></device>"
    ∃ e d', (Account.addDevice s "A" body).run .cutOff = (.error e, d')
      ∧ ∀ (account : Identifier) (resource : Resource) (i : Inode),
        d'.look (s.resourcePath account resource) = .ok i
          ↔ Disk.cutOff.look (s.resourcePath account resource) = .ok i := by
  intro s body
  obtain ⟨e, d', hrun, -⟩ := Account.unanswered_cutOff
  refine ⟨e, d', hrun, fun account resource i => ?_⟩
  rcases failed_registrations s "A" body _ d' e hrun with hkept | ⟨request, a, id, known, h⟩
  · exact hkept.documents (.list account resource) i
  · exact h.others (.list account resource) i nofun

/-- **A registration without an answer is not undone**: where presets are cut off, it fails, and the
device is stored and listed. -/
theorem unanswered_registration_is_saved :
    let s : Store := { directory := Path.ofTexts ["data"] }
    let account : Identifier := { text := "A", valid := by decide }
    let id : Identifier := { text := "D", valid := by decide }
    let body := "<device deviceid=\"D\"><name>N</name></device>"
    Disk.cutOff.content (s.recordPath account id) = .error .notFound
      ∧ s.deviceNames account .cutOff = .ok []
      ∧ ∃ e d', (Account.addDevice s "A" body).run .cutOff = (.error e, d')
        ∧ (∃ device, s.device account id d' = .ok device ∧ device.name = "N")
        ∧ s.deviceNames account d' = .ok ["D"] := by
  intro s account id body
  have hmissing : Disk.cutOff.content (s.recordPath account id) = .error .notFound := by
    decide
  have hnames : s.deviceNames account .cutOff = .ok [] := by decide
  obtain ⟨e, d', hrun, h⟩ := Account.unanswered_cutOff
  obtain ⟨names, hbefore, hafter⟩ := h.listed
  obtain rfl := Except.ok.inj (hbefore.symm.trans hnames)
  have hlist : Store.withName id.text [] = ["D"] := by
    rw [Store.withName, List.filter_nil, List.mergeSort_singleton]
  rw [hlist] at hafter
  exact ⟨hmissing, hnames, e, d', hrun, ⟨_, h.stored, rfl⟩, hafter⟩

end SpeakerHub
