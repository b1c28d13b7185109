import SpeakerHub.Proofs.Remote.Exchanges
import SpeakerHub.Proofs.Store.Writing
import SpeakerHub.Web.Server

/-! # Summaries

A summary of a speaker is put together from what its shell answers, from its record and from what
it says itself. Whatever these are there is a summary, its parts agree with each other, and nothing
was changed to make it.

* **`Reads`**, **`follows_readConfig`** — how the file with the addresses is read.
* **`Probes`**, **`follows_probeMarkers`** — how the markers are looked for.
* **`Summary.Consistent`** — a summary agrees with what was exchanged for it;
  **`Consistent.looks`** — that is to look only.
* **`follows_summary`** — whatever is answered, a summary is made so.
* **`IdentityField`**, **`known_identityOf`** — who a speaker is, field by field.
* **`summaries_are_consistent`** — there always is a summary, and it is consistent. -/

namespace SpeakerHub

/-- Whether a call was not even turned down: something else than the command went wrong. -/
def Exchange.Interrupted (x : Exchange) : Prop :=
  ∃ e, x.answer = .error e ∧ ∀ failure, e ≠ .commandFailed failure

namespace Migration

/-! ## The file with the addresses -/

/-- Whether reading the file gave something. -/
def GaveContent (read : Exchange) : Prop :=
  ∃ text, read.answer = .ok text ∧ text ≠ ""

/-- What is known about the file of a speaker that is there. -/
def ConfigState.ofAnswer : Except Error String → ConfigState
  | .ok text => .content text
  | .error reason => .unreadable reason

/-- **How the file is read**: if that gives nothing, another call shows whether the speaker is
there. -/
inductive Reads : Exchange → List Exchange → ConfigState → Prop where
  /-- The file was read. -/
  | content {text : String} (htext : text ≠ "") :
      Reads { call := .run (readCommand configPath), answer := .ok text } [] (.content text)
  /-- There was nothing to be read, but the speaker is there. -/
  | online {answer : Except Error String} {output : String}
      (hnothing : ∀ text, answer = .ok text → text = "") :
      Reads { call := .run (readCommand configPath), answer }
        [{ call := .run livenessCommand, answer := .ok output }] (.ofAnswer answer)
  /-- The speaker is not there. -/
  | offline {answer : Except Error String} {reason : Error}
      (hnothing : ∀ text, answer = .ok text → text = "") :
      Reads { call := .run (readCommand configPath), answer }
        [{ call := .run livenessCommand, answer := .error reason }] (.offline reason)

section

variable {σ : Type} (shell : Shell σ) (host : String)

/-- The file is read so. -/
theorem follows_readConfig :
    (readConfig shell host).Follows shell host fun exchanges config =>
      ∃ read liveness, exchanges = read :: liveness ∧ Reads read liveness config := by
  refine .callBind _ fun answer => ?_
  -- What an empty file and an error have in common: the second call decides.
  have hlive (hnothing : ∀ text, answer = .ok text → text = "") :
      Conversation.Follows shell host
        (fun exchanges config => ∃ read liveness,
          { call := .run (readCommand configPath), answer } :: exchanges = read :: liveness
            ∧ Reads read liveness config)
        (do
          match ← shell.run host livenessCommand with
          | .ok _ => pure (.ofAnswer answer)
          | .error e => pure (.offline e)) := by
    refine .callBind _ fun live => ?_
    cases live with
    | ok output => exact .pure ⟨_, _, rfl, .online hnothing⟩
    | error e => exact .pure ⟨_, _, rfl, .offline hnothing⟩
  cases answer with
  | error reason => exact hlive nofun
  | ok text =>
    by_cases htext : text = ""
    · subst htext
      exact hlive fun text h => (Except.ok.inj h).symm
    · have hempty : text.isEmpty = false := by simpa using htext
      simp only [hempty]
      exact .pure ⟨_, _, rfl, .content htext⟩

end

/-! ## Markers -/

/-- **How markers are looked for**: in their order, up to an answer that is more than that there is
none. -/
structure Probes (all : List String) (exchanges : List Exchange) (state : MarkerState) : Prop where
  /-- They are looked for from the first one on. -/
  probed : ∃ probed, probed <+: all ∧ RunsFor probeCommand probed exchanges
  /-- Those that were found are in their order. -/
  found_sublist : state.found.Sublist all
  /-- Those were found for which the call went well. -/
  mem_found_iff : ∀ marker, marker ∈ state.found
    ↔ ∃ x ∈ exchanges, x.call = .run (probeCommand marker) ∧ x.Succeeded
  /-- Something is wrong exactly if one of the calls was interrupted. -/
  checkError_iff : state.checkError.isSome ↔ ∃ x ∈ exchanges, x.Interrupted
  /-- After that there are no more calls. -/
  stops : ∀ front x back, exchanges = front ++ x :: back → x.Interrupted → back = []
  /-- Otherwise all were looked for. -/
  complete : (∀ x ∈ exchanges, ¬x.Interrupted) → exchanges.length = all.length

/-- The command to look for a marker tells which marker. -/
theorem probeCommand_inj {marker other : String} :
    probeCommand marker = probeCommand other ↔ marker = other := by
  simp [probeCommand, ← String.toList_inj]

namespace Probes

variable {marker : String} {rest : List String} {x : Exchange} {exchanges : List Exchange}
variable {state : MarkerState}

/-- There is no marker to look for. -/
theorem nil : Probes [] [] {} where
  probed := ⟨[], List.nil_prefix, .nil⟩
  found_sublist := List.nil_sublist []
  mem_found_iff := by simp
  checkError_iff := by simp
  stops := by simp
  complete _ := rfl

/-- **One marker more** is looked for in front of the others. -/
theorem cons (hx : x.call = .run (probeCommand marker)) (hquiet : ¬x.Interrupted)
    {found : List String}
    (hfound : x.Succeeded ∧ found = marker :: state.found ∨ ¬x.Succeeded ∧ found = state.found)
    (h : Probes rest exchanges state) :
    Probes (marker :: rest) (x :: exchanges) { state with found } where
  probed := by
    obtain ⟨probed, hprobed, hcalls⟩ := h.probed
    exact ⟨marker :: probed, List.cons_prefix_cons.2 ⟨rfl, hprobed⟩, hcalls.cons hx⟩
  found_sublist := by
    rcases hfound with ⟨-, rfl⟩ | ⟨-, rfl⟩
    · exact h.found_sublist.cons_cons marker
    · exact h.found_sublist.cons marker
  mem_found_iff other := by
    simp only [List.mem_cons, exists_eq_or_imp, ← h.mem_found_iff, hx, Call.run.injEq,
      probeCommand_inj]
    -- The new call is for the new marker alone.
    rcases hfound with ⟨hsucceeded, rfl⟩ | ⟨hfailed, rfl⟩
    · rw [List.mem_cons, and_iff_left hsucceeded, eq_comm]
    · rw [or_iff_right fun hother => hfailed hother.2]
  checkError_iff := by
    simp only [List.mem_cons, exists_eq_or_imp, or_iff_right hquiet]
    exact h.checkError_iff
  stops := by
    intro front y back heq hy
    cases front with
    | nil =>
      obtain ⟨rfl, rfl⟩ := List.cons.inj heq
      exact absurd hy hquiet
    | cons z front => exact h.stops front y back (List.cons.inj heq).2 hy
  complete hall := by
    have hrest := h.complete fun y hy => hall y (List.mem_cons_of_mem x hy)
    rw [List.length_cons, List.length_cons, hrest]

/-- **An interruption** is the end of it. -/
theorem interrupted (hx : x.call = .run (probeCommand marker)) (hinterrupted : x.Interrupted)
    (reason : String) : Probes (marker :: rest) [x] { checkError := some reason } where
  probed := ⟨[marker], by simp, RunsFor.nil.cons hx⟩
  found_sublist := List.nil_sublist _
  mem_found_iff other := by
    obtain ⟨e, he, -⟩ := hinterrupted
    simp [Exchange.Succeeded, he]
  checkError_iff := by simpa using hinterrupted
  stops := by
    -- One exchange has nothing behind it.
    intro front y back heq hy
    have hlength := congrArg List.length heq
    simp only [List.length_append, List.length_cons, List.length_nil] at hlength
    exact List.length_eq_zero_iff.1 (by omega)
  complete hall := absurd hinterrupted (hall x List.mem_cons_self)

end Probes

section

variable {σ : Type} (shell : Shell σ) (host : String)

/-- **Markers are looked for so.** -/
theorem follows_probeMarkers (all : List String) :
    (probeMarkers shell host all).Follows shell host (Probes all) := by
  induction all with
  | nil => exact .pure .nil
  | cons marker rest ih =>
    refine .callBind _ fun answer => ?_
    have hinterrupted {e : Error} (he : ∀ failure, e ≠ .commandFailed failure) :
        Exchange.Interrupted { call := .run (probeCommand marker), answer := .error e } :=
      ⟨e, rfl, he⟩
    cases answer with
    | ok output =>
      refine ih.bind fun exchanges state h => .pure ?_
      rw [List.append_nil]
      refine h.cons rfl ?_ (.inl ⟨Exchange.succeeded_ok _ output, rfl⟩)
      rintro ⟨e, ⟨⟩, -⟩
    | error e =>
      cases e with
      | commandFailed failure =>
        refine ih.mono fun exchanges state h => ?_
        refine h.cons rfl ?_ (.inr ⟨Exchange.not_succeeded_error _ _, rfl⟩)
        rintro ⟨e, ⟨⟩, he⟩
        exact he failure rfl
      | _ => exact .pure (.interrupted rfl (hinterrupted fun failure => by simp) _)

end

/-! ## Summaries and what was exchanged for them -/

/-- All that is asked to make a summary: calls that look at files. -/
def lookingCalls : List Call :=
  .run (readCommand configPath) :: .run livenessCommand :: markers.map fun marker =>
    .run (probeCommand marker)

/-- **A summary agrees with what was exchanged for it**: a call to read the file with the addresses,
perhaps another to see whether the speaker is there, and calls to look for markers. -/
structure Summary.Consistent (s : Summary) (read : Exchange) (liveness probes : List Exchange) :
    Prop where
  /-- The file is read first. -/
  read_call : read.call = .run (readCommand configPath)
  /-- If that gave something, the speaker is there. -/
  unasked : GaveContent read → liveness = []
  /-- If not, another call shows whether it is. -/
  asked : ¬GaveContent read → liveness.map (·.call) = [.run livenessCommand]
  /-- The speaker is there if one of these went well. -/
  online_iff : s.isOnline = true ↔ GaveContent read ∨ ∃ x ∈ liveness, x.Succeeded
  /-- There is either the file or a reason why there is none. -/
  one_of : s.config.text?.isSome = !s.config.diagnostic?.isSome
  /-- The file of a speaker that is there is what was read. -/
  text_iff : ∀ text, s.config.text? = some text ↔ s.isOnline = true ∧ read.answer = .ok text
  /-- Markers are looked for from the first one on. -/
  probed : ∃ probed, probed <+: Migration.markers ∧ RunsFor probeCommand probed probes
  /-- If the speaker is not there, none is looked for. -/
  unprobed : s.isOnline = false → probes = []
  /-- If it is, all are, unless a call is interrupted. -/
  complete : s.isOnline = true → (∀ x ∈ probes, ¬x.Interrupted) →
    probes.length = Migration.markers.length
  /-- After an interruption there are no more calls. -/
  stops : ∀ front x back, probes = front ++ x :: back → x.Interrupted → back = []
  /-- Markers that were found are in their order. -/
  found_sublist : s.markers.found.Sublist Migration.markers
  /-- Those were found for which the call went well. -/
  mem_found_iff : ∀ marker, marker ∈ s.markers.found
    ↔ ∃ x ∈ probes, x.call = .run (probeCommand marker) ∧ x.Succeeded
  /-- Remote services are enabled if a marker was found. -/
  enabled_iff : s.remoteServicesEnabled = true ↔ s.markers.found ≠ []
  /-- They stay enabled if one was found that stays. -/
  persistent_iff : s.remoteServicesPersistent = true ↔ ∃ m ∈ s.markers.found, m ≠ volatileMarker
  /-- Something is wrong if the speaker is not there, or if a call was interrupted. -/
  checkError_iff : s.markers.checkError.isSome = true
    ↔ s.isOnline = false ∨ ∃ x ∈ probes, x.Interrupted

namespace Summary

/-- **To make a summary is to look only.** -/
theorem Consistent.looks {s : Summary} {read : Exchange} {liveness probes : List Exchange}
    (h : s.Consistent read liveness probes) :
    ∀ x ∈ read :: liveness ++ probes, x.call ∈ lookingCalls := by
  intro x hx
  rcases List.mem_append.1 hx with hx | hx
  · rcases List.mem_cons.1 hx with rfl | hx
    · rw [h.read_call]
      exact List.mem_cons_self
    · by_cases hcontent : GaveContent read
      · rw [h.unasked hcontent] at hx
        cases hx
      · have hcall : x.call ∈ liveness.map (·.call) := List.mem_map_of_mem hx
        rw [h.asked hcontent, List.mem_singleton] at hcall
        rw [hcall]
        exact List.mem_cons_of_mem _ List.mem_cons_self
  · obtain ⟨probed, hprobed, hcalls⟩ := h.probed
    obtain ⟨marker, hmarker, hcall⟩ := hcalls.exists_file hx
    rw [hcall]
    refine List.mem_cons_of_mem _ (List.mem_cons_of_mem _ ?_)
    exact List.mem_map_of_mem (hprobed.subset hmarker)

/-- Remote services are enabled if a marker was found. -/
theorem remoteServicesEnabled_iff {s : Summary} :
    s.remoteServicesEnabled = true ↔ s.markers.found ≠ [] := by
  simp [remoteServicesEnabled]

/-- They stay enabled if a marker was found that stays. -/
theorem remoteServicesPersistent_iff {s : Summary} :
    s.remoteServicesPersistent = true ↔ ∃ m ∈ s.markers.found, m ≠ volatileMarker := by
  simp [remoteServicesPersistent]

end Summary

namespace Reads

variable {read : Exchange} {liveness : List Exchange} {config : ConfigState}
variable (h : Reads read liveness config)
include h

/-- The file is what is asked for first. -/
theorem read_call : read.call = .run (readCommand configPath) := by
  cases h <;> rfl

/-- A second call is only made if the first gave nothing. -/
theorem liveness_calls :
    (GaveContent read → liveness = [])
      ∧ (¬GaveContent read → liveness.map (·.call) = [.run livenessCommand]) := by
  cases h with
  | content htext => exact ⟨fun _ => rfl, fun hnot => absurd ⟨_, rfl, htext⟩ hnot⟩
  | online hnothing => exact ⟨fun ⟨text, hok, hne⟩ => absurd (hnothing text hok) hne, fun _ => rfl⟩
  | offline hnothing => exact ⟨fun ⟨text, hok, hne⟩ => absurd (hnothing text hok) hne, fun _ => rfl⟩

/-- **The speaker is there** if there was something to be read, or if the second call went well. -/
theorem online_iff :
    config.isOnline = true ↔ GaveContent read ∨ ∃ x ∈ liveness, x.Succeeded := by
  cases h with
  | content htext => exact iff_of_true rfl (.inl ⟨_, rfl, htext⟩)
  | @online answer output hnothing =>
    refine iff_of_true ?_ (.inr ⟨_, List.mem_cons_self, Exchange.succeeded_ok _ output⟩)
    cases answer <;> rfl
  | @offline answer reason hnothing =>
    refine iff_of_false nofun ?_
    rintro (⟨text, hok, hne⟩ | ⟨x, hx, hsucceeded⟩)
    · exact hne (hnothing text hok)
    · rw [List.mem_singleton] at hx
      subst hx
      exact Exchange.not_succeeded_error _ reason hsucceeded

/-- **The file of a speaker that is there** is what was read. -/
theorem text_iff (text : String) :
    config.text? = some text ↔ config.isOnline = true ∧ read.answer = .ok text := by
  cases h with
  | content htext => simp [ConfigState.text?, ConfigState.isOnline]
  | @online answer output hnothing =>
    cases answer <;> simp [ConfigState.ofAnswer, ConfigState.text?, ConfigState.isOnline]
  | offline hnothing => simp [ConfigState.text?, ConfigState.isOnline]

end Reads

/-- There is either the file or a reason why there is none. -/
theorem ConfigState.isSome_text? (config : ConfigState) :
    config.text?.isSome = !config.diagnostic?.isSome := by
  cases config <;> rfl

section

variable {read : Exchange} {liveness probes : List Exchange} {s : Summary}

/-- A summary of a speaker that is there. -/
theorem Summary.Consistent.online (hread : Reads read liveness s.config)
    (honline : s.isOnline = true) (h : Probes Migration.markers probes s.markers) :
    s.Consistent read liveness probes where
  read_call := hread.read_call
  unasked := hread.liveness_calls.1
  asked := hread.liveness_calls.2
  online_iff := hread.online_iff
  one_of := s.config.isSome_text?
  text_iff := hread.text_iff
  probed := h.probed
  unprobed hoffline := absurd (honline.symm.trans hoffline) nofun
  complete _ := h.complete
  stops := h.stops
  found_sublist := h.found_sublist
  mem_found_iff := h.mem_found_iff
  enabled_iff := remoteServicesEnabled_iff
  persistent_iff := remoteServicesPersistent_iff
  checkError_iff := by simp [h.checkError_iff, honline]

/-- A summary of a speaker that is not there. -/
theorem Summary.Consistent.offline (hread : Reads read liveness s.config)
    (hoffline : s.isOnline = false) (hfound : s.markers.found = [])
    (herror : s.markers.checkError.isSome = true) : s.Consistent read liveness [] where
  read_call := hread.read_call
  unasked := hread.liveness_calls.1
  asked := hread.liveness_calls.2
  online_iff := hread.online_iff
  one_of := s.config.isSome_text?
  text_iff := hread.text_iff
  probed := ⟨[], List.nil_prefix, .nil⟩
  unprobed _ := rfl
  complete honline := absurd (honline.symm.trans hoffline) nofun
  stops := by simp
  found_sublist := by simp [hfound]
  mem_found_iff := by simp [hfound]
  enabled_iff := remoteServicesEnabled_iff
  persistent_iff := remoteServicesPersistent_iff
  checkError_iff := iff_of_true herror (.inl hoffline)

end

/-- **A summary is made so**, whatever the shell answers. -/
theorem follows_summary {σ : Type} (shell : Shell σ) (host : String) (store : Store) (d : Disk)
    (speakers : Speakers) (target : String) :
    (summary shell host store d speakers target).Follows shell host fun exchanges s =>
      ∃ read liveness probes, exchanges = read :: liveness ++ probes
        ∧ s.Consistent read liveness probes
        ∧ s.plannedConfig = plannedConfig target
        ∧ s.identity = identityOf store d speakers host := by
  refine (follows_readConfig shell host).bind fun exchanges config hconfig => ?_
  obtain ⟨read, liveness, rfl, hread⟩ := hconfig
  cases honline : config.isOnline with
  | true =>
    refine (follows_probeMarkers shell host markers).bind fun probes state hprobes => .pure ?_
    exact ⟨read, liveness, probes, by simp, .online hread honline hprobes, rfl, rfl⟩
  | false =>
    exact .pure ⟨read, liveness, [], rfl, .offline hread honline rfl rfl, rfl, rfl⟩

/-! ## Who a speaker is -/

/-- Something that is known about who a speaker is. -/
structure IdentityField where
  /-- What a summary says. -/
  known : KnownIdentity → Option String
  /-- What the speaker says. -/
  said : LiveIdentity → Option String
  /-- What its record says. -/
  recorded : Device → String

/-- All that is known about who a speaker is. -/
def IdentityField.all : List IdentityField :=
  [{ known := (·.name), said := (·.name), recorded := (·.name) },
    { known := (·.model), said := (·.model), recorded := (·.productCode) },
    { known := (·.serial), said := (·.serial), recorded := (·.serial) },
    { known := (·.firmware), said := (·.firmware), recorded := (·.firmware) }]

/-- The first record with an address, if there is one among those that can be read. -/
def recordAt (store : Store) (d : Disk) (host : String) : Option FiledDevice :=
  (store.allDevices none d).toOption.bind fun devices => devices.find? (·.device.address == host)

/-- What a record says, and nothing without a record. -/
def KnownIdentity.ofRecord? (record? : Option FiledDevice) : KnownIdentity :=
  match record? with
  | some record => .ofDevice record.device
  | none => {}

/-- Who a speaker is, from what it says and from its record. -/
theorem identityOf_eq (store : Store) (d : Disk) (speakers : Speakers) (host : String) :
    identityOf store d speakers host
      = match Speaker.ask speakers host with
        | .ok live => (KnownIdentity.ofRecord? (recordAt store d host)).updated live
        | .error _ => .ofRecord? (recordAt store d host) := by
  simp only [identityOf, recordAt]
  cases store.allDevices none d <;> rfl

/-- **What is known about a speaker** is what it says itself, or else what its record says. -/
theorem known_identityOf (store : Store) (d : Disk) (speakers : Speakers) (host : String) :
    ∀ field ∈ IdentityField.all,
      field.known (identityOf store d speakers host)
        = ((Speaker.ask speakers host).toOption.bind field.said).or
            ((recordAt store d host).map fun filed => field.recorded filed.device) := by
  rw [identityOf_eq]
  cases Speaker.ask speakers host <;> cases recordAt store d host <;>
    simp [IdentityField.all, KnownIdentity.ofRecord?, KnownIdentity.updated,
      KnownIdentity.ofDevice, Except.toOption]

/-- An answer of a speaker is a document that it gave. -/
theorem exists_document {speakers : Speakers} {host : String} {live : LiveIdentity}
    (h : Speaker.ask speakers host = .ok live) : ∃ text, LiveIdentity.ofText? text = some live := by
  rw [Speaker.ask] at h
  split at h
  · cases h
  next reply hreply =>
  split at h
  · cases h
  split at h
  next live' hlive =>
    obtain rfl := Except.ok.inj h
    exact ⟨_, hlive⟩
  · cases h

/-- **What a speaker says** is never empty. -/
theorem IdentityField.said_ne_empty {speakers : Speakers} {host : String} {live : LiveIdentity}
    (h : Speaker.ask speakers host = .ok live) :
    ∀ field ∈ IdentityField.all, field.said live ≠ some "" := by
  obtain ⟨text, htext⟩ := exists_document h
  simp only [LiveIdentity.ofText?, Option.bind_eq_bind, Option.bind_eq_some_iff] at htext
  obtain ⟨i, -, n, -, heq⟩ := htext
  obtain rfl := Option.some.inj heq
  -- Each part is taken from the document only if it is not empty there.
  have hsaid (text : String) : LiveIdentity.said text ≠ some "" :=
    fun heq => (LiveIdentity.said_eq_some_iff.1 heq).2 rfl
  have hbind (part? : Option Component) (f : Component → String) :
      part?.bind (fun part => LiveIdentity.said (f part)) ≠ some "" := by
    cases part? with
    | none => exact nofun
    | some part => exact hsaid (f part)
  have hserial := hbind (i.last? Component.controlModule) (·.serialNumber)
  have hserial' := hbind (i.last? Component.packagedProduct) (·.serialNumber)
  have hfirmware := hbind (i.last? Component.controlModule) (·.softwareVersion)
  simp only [all, LiveIdentity.ofHalves, List.forall_mem_cons, List.not_mem_nil, false_implies,
    implies_true, and_true]
  refine ⟨hsaid _, hsaid _, ?_, hfirmware⟩
  rw [ne_eq, Option.or_eq_some_iff]
  exact fun heq => heq.elim hserial fun hlast => hserial' hlast.2

/-- **There always is a summary, and it is consistent.** Whatever is stored, whatever the speaker
says about itself, and whatever its shell answers, each time depending on all that was asked before,
a summary is given and only the shell's state and its calls have moved. All calls look at files, and
the summary agrees with the answers to them. It shows the file that a migration to the same target
would upload, and of who the speaker is each part that the speaker said, which never is empty, or
else the one that stands in its record. -/
theorem summaries_are_consistent {σ : Type} (server : Server σ) (host : String)
    (target? : Option String) (w : World σ) :
    ∃ (s : Summary) (session : Session σ) (read : Exchange) (liveness probes : List Exchange),
      (server.summary host target?).run w = (s, { w with session })
        ∧ server.shell.Exchanged host w.session.state (read :: liveness ++ probes) session.state
        ∧ session.calls
          = w.session.calls ++ (read :: liveness ++ probes).map (Exchange.sent host)
        ∧ (∀ x ∈ read :: liveness ++ probes, x.call ∈ lookingCalls)
        ∧ s.Consistent read liveness probes
        ∧ s.plannedConfig = plannedConfig (resolveTarget server.config.publicUrl target?)
        ∧ ∀ field ∈ IdentityField.all,
          field.known s.identity
              = ((Speaker.ask server.speakers host).toOption.bind field.said).or
                ((recordAt server.store w.disk host).map fun filed => field.recorded filed.device)
            ∧ ∀ live, Speaker.ask server.speakers host = .ok live → field.said live ≠ some "" := by
  let target := resolveTarget server.config.publicUrl target?
  let conversation := summary server.shell host server.store w.disk server.speakers target
  have hrun : (server.summary host target?).run w
      = ((conversation.run w.session).1, { w with session := (conversation.run w.session).2 }) :=
    rfl
  obtain ⟨exchanges, hexchanged, hcalls, read, liveness, probes, rfl, hconsistent, hplanned,
    hidentity⟩ :=
    follows_summary server.shell host server.store w.disk server.speakers target w.session
  refine ⟨(conversation.run w.session).1, (conversation.run w.session).2, read, liveness, probes,
    hrun, hexchanged, hcalls, hconsistent.looks, hconsistent, hplanned, fun field hfield => ?_⟩
  constructor
  · exact (congrArg field.known hidentity).trans
      (known_identityOf server.store w.disk server.speakers host field hfield)
  · exact fun live hlive => IdentityField.said_ne_empty hlive field hfield

end Migration

end SpeakerHub
