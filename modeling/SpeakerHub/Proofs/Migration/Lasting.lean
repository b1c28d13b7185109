import SpeakerHub.Proofs.Migration.Summaries
import SpeakerHub.Proofs.Remote.Files

/-! # Migrations last

A speaker keeps files, and calls that begin in some ways are made to fail. What a migration leaves
behind on it depends on its files and on these ways alone. A summary shows it, and another migration
changes nothing any more.

* **`looks_of_mem_lookingCalls`** — a summary leaves the speaker as it is.
* **`openMarker`** — the marker that can be touched; **`markedFiles`**, **`migratedFiles`** — the
  files once that is done, and after a migration.
* **`run_enableRemoteServices`**, **`run_migrate`** — these are left behind.
* **`migratedFiles_again`** — another migration changes nothing.
* **`text?_summary`**, **`mem_found_summary`** — what a summary shows of a file and of a marker.
* **`migrations_last`** — what a migration leaves behind, and what is shown of it. -/

namespace SpeakerHub.Migration

open RemoteDevice

variable {d d' : RemoteDevice} {host target path content : String}

/-! ## What a speaker does -/

/-- A speaker gives the content of a file. -/
theorem perform_read (d : RemoteDevice) (path : String) :
    d.perform (.run (readCommand path))
      = match d.file? path with
        | some content => (.ok content, d)
        | none => (.error "No such file or directory", d) := by
  have hpath : argument? "cat" (readCommand path) = some path := argument?_append "cat" path
  cases hfile : d.file? path with
  | none | some content => simp only [perform, hpath, hfile]

/-- A speaker looks for a file. -/
theorem perform_probe (d : RemoteDevice) (path : String) :
    d.perform (.run (probeCommand path))
      = (if (d.file? path).isSome then .ok "" else .error "exit status 1", d) := by
  have hread : argument? "cat" (probeCommand path) = none := by simp [argument?, probeCommand]
  have hcommand : probeCommand path = "[ -e" ++ " " ++ (path ++ " ]") := by
    rw [probeCommand, String.append_assoc]
    rfl
  have hpath : soughtFile? (probeCommand path) = some path := by
    rw [hcommand, soughtFile?_append]
  simp only [perform, hread, hpath]

/-- A speaker makes a file. -/
theorem perform_touch (d : RemoteDevice) (path : String) :
    d.perform (.run (touchCommand path)) = (.ok "", { d with files := touch path d.files }) := by
  have hread : argument? "cat" (touchCommand path) = none := by simp [argument?, touchCommand]
  have hprobe : soughtFile? (touchCommand path) = none := by
    simp [soughtFile?, argument?, touchCommand]
  have hpath : argument? "touch" (touchCommand path) = some path := argument?_append "touch" path
  have htouch : touch path d.files
    = if (d.file? path).isSome then d.files else write path "" d.files := rfl
  simp only [perform, hread, hprobe, hpath, htouch]
  by_cases hthere : (d.file? path).isSome = true
  · rw [if_pos hthere, if_pos hthere]
  · rw [if_neg hthere, if_neg hthere]

/-- To see whether a speaker is there does nothing. -/
theorem perform_liveness (d : RemoteDevice) : d.perform (.run livenessCommand) = (.ok "", d) := rfl

/-- To make a speaker writable changes no file. -/
theorem looks_remount : Looks (.run remountCommand) := fun _ => rfl

/-- A restart changes no file. -/
theorem looks_reboot : Looks (.run rebootCommand) := fun _ => rfl

/-- **A summary is made by looking.** -/
theorem looks_of_mem_lookingCalls : ∀ c ∈ lookingCalls, Looks c := by
  intro c hc
  rcases List.mem_cons.1 hc with rfl | hc
  · intro d
    rw [perform_read]
    split <;> rfl
  rcases List.mem_cons.1 hc with rfl | hc
  · exact fun d => congrArg Prod.snd (perform_liveness d)
  obtain ⟨marker, -, rfl⟩ := List.mem_map.1 hc
  exact fun d => congrArg Prod.snd (perform_probe d marker)

/-! ## What is left behind -/

/-- The first marker that is not made to fail. -/
def openMarker (d : RemoteDevice) (all : List String) : Option String :=
  all.find? fun marker => !d.madeToFail (.run (touchCommand marker))

/-- The files once markers were touched. -/
def markedFiles (d : RemoteDevice) (all : List String) : List (String × String) :=
  match openMarker d all with
  | some marker => touch marker d.files
  | none => d.files

/-- The files after a migration. -/
def migratedFiles (d : RemoteDevice) (target : String) : List (String × String) :=
  if d.madeToFail (.upload (plannedConfig target) configPath) then markedFiles d markers
  else write configPath (plannedConfig target) (markedFiles d markers)

/-- **Markers leave this behind.** -/
theorem run_touchFirst (host : String) (all : List String) (session : Session RemoteDevice) :
    ((touchFirst shell host all).run session).1 = openMarker session.state all
      ∧ ((touchFirst shell host all).run session).2.state
        = { session.state with files := markedFiles session.state all } := by
  induction all generalizing session with
  | nil => exact ⟨rfl, rfl⟩
  | cons marker rest ih =>
    let touching : Call := .run (touchCommand marker)
    rw [touchFirst, Conversation.run_bind, Shell.run, Conversation.run_call]
    cases hfails : session.state.madeToFail touching with
    | true =>
      -- A call that is made to fail leaves the speaker for the other markers as it was.
      obtain ⟨e, he⟩ := answer_of_madeToFail host hfails
      have hopen : openMarker session.state (marker :: rest) = openMarker session.state rest := by
        rw [openMarker, List.find?_cons, hfails]
        rfl
      rw [markedFiles, hopen, he]
      exact ih { session with calls := session.calls ++ [(host, touching)] }
    | false =>
      have hopen : openMarker session.state (marker :: rest) = some marker := by
        rw [openMarker, List.find?_cons, hfails]
        rfl
      rw [markedFiles, hopen, answer_of_ok host hfails (perform_touch session.state marker)]
      exact ⟨rfl, rfl⟩

/-- **To enable remote services leaves this behind.** -/
theorem run_enableRemoteServices (host : String) (session : Session RemoteDevice) :
    ((enableRemoteServices shell host).run session).1
        = (match openMarker session.state markers with
          | some marker => .ok marker
          | none => .error (.remoteServicesUnavailable markers))
      ∧ ((enableRemoteServices shell host).run session).2.state
        = { session.state with files := markedFiles session.state markers } := by
  have hremount : (shell.answer host (.run remountCommand) session.state).2 = session.state :=
    looks_remount.answer host session.state
  obtain ⟨hmade, hstate⟩ := run_touchFirst host markers
    { state := session.state, calls := session.calls ++ [(host, .run remountCommand)] }
  rw [enableRemoteServices, Conversation.run_bind, Shell.run, Conversation.run_call, hremount,
    Conversation.run_bind, hmade]
  cases openMarker session.state markers with
  | some marker => exact ⟨rfl, hstate⟩
  | none => exact ⟨rfl, hstate⟩

/-- A restart leaves every file as it is. -/
theorem state_restart (host : String) (session : Session RemoteDevice) :
    let restart : Conversation RemoteDevice (Except Error Unit) := do
      match ← shell.run host rebootCommand with
      | .error e => pure (.error e)
      | .ok _ => pure (.ok ())
    (restart.run session).2.state = session.state := by
  have hreboot : (shell.answer host (.run rebootCommand) session.state).2 = session.state :=
    looks_reboot.answer host session.state
  intro restart
  have hrun : restart.run session = _ := Conversation.run_bind _ _ session
  rw [hrun, Shell.run, Conversation.run_call]
  generalize shell.answer host (.run rebootCommand) session.state = answered at hreboot
  obtain ⟨_ | _, d'⟩ := answered
  · exact hreboot
  · exact hreboot

/-- **A migration leaves this behind**, and says whether the file was uploaded. -/
theorem run_migrate (host target : String) (session : Session RemoteDevice) :
    let after := (migrate shell host target).run session
    after.2.state = { session.state with files := migratedFiles session.state target }
      ∧ (session.state.madeToFail (.upload (plannedConfig target) configPath) = true →
        after.1 ≠ .ok () ∧ after.2.calls.getLast?
          = some (host, .upload (plannedConfig target) configPath)) := by
  let uploading : Call := .upload (plannedConfig target) configPath
  intro after
  obtain ⟨-, hstate⟩ := run_enableRemoteServices host session
  -- Whatever came of the markers, the upload comes next.
  have hafter : after = (migrate shell host target).run session := rfl
  rw [migrate, Conversation.run_bind, Conversation.run_bind, Shell.upload, Conversation.run_call,
    hstate] at hafter
  generalize ((enableRemoteServices shell host).run session).2.calls = calls at hafter
  let d : RemoteDevice := { session.state with files := markedFiles session.state markers }
  have hd : d.madeToFail uploading = session.state.madeToFail uploading := rfl
  cases hfails : session.state.madeToFail uploading with
  | true =>
    obtain ⟨e, he⟩ := answer_of_madeToFail host (hd.trans hfails)
    rw [he] at hafter
    rw [hafter, migratedFiles, if_pos hfails]
    exact ⟨rfl, fun _ => ⟨nofun, List.getLast?_concat⟩⟩
  | false =>
    let uploaded : RemoteDevice :=
      { d with files := write configPath (plannedConfig target) d.files }
    have huploads : d.perform uploading = (.ok "", uploaded) := rfl
    rw [answer_of_ok host (hd.trans hfails) huploads] at hafter
    rw [migratedFiles, if_neg (ne_true_of_eq_false hfails)]
    refine ⟨?_, nofun⟩
    rw [hafter]
    exact state_restart host { state := uploaded, calls := calls ++ [(host, uploading)] }

/-! ## Once more -/

/-- **The marker that could be touched** is there. -/
theorem isSome_lookup_markedFiles {all : List String} {marker : String}
    (h : openMarker d all = some marker) : ((markedFiles d all).lookup marker).isSome := by
  rw [markedFiles, h]
  exact isSome_lookup_touch marker d.files

/-- It also is after the file with the addresses was uploaded. -/
theorem isSome_lookup_migratedFiles {marker : String} (target : String)
    (h : openMarker d markers = some marker) :
    ((migratedFiles d target).lookup marker).isSome := by
  have hmarked := isSome_lookup_markedFiles h
  rw [migratedFiles]
  split
  · exact hmarked
  · exact isSome_lookup_write hmarked

/-- **Another migration** finds the files as it would leave them. -/
theorem migratedFiles_again (d : RemoteDevice) (target : String) :
    migratedFiles { d with files := migratedFiles d target } target = migratedFiles d target := by
  -- What is made to fail does not depend on the files, and so the marker is the same.
  have hmarked : markedFiles { d with files := migratedFiles d target } markers
      = migratedFiles d target := by
    have hopen : openMarker { d with files := migratedFiles d target } markers
        = openMarker d markers := rfl
    rw [markedFiles, hopen]
    cases h : openMarker d markers with
    | none => rfl
    | some marker => exact touch_of_isSome (isSome_lookup_migratedFiles target h)
  let uploading : Call := .upload (plannedConfig target) configPath
  cases hfails : d.madeToFail uploading with
  | true =>
    have hagain : migratedFiles { d with files := migratedFiles d target } target
        = markedFiles { d with files := migratedFiles d target } markers := if_pos hfails
    rw [hagain, hmarked]
  | false =>
    have hagain : migratedFiles { d with files := migratedFiles d target } target
        = write configPath (plannedConfig target)
          (markedFiles { d with files := migratedFiles d target } markers) :=
      if_neg (ne_true_of_eq_false hfails)
    have hfirst : migratedFiles d target
        = write configPath (plannedConfig target) (markedFiles d markers) :=
      if_neg (ne_true_of_eq_false hfails)
    rw [hagain, hmarked]
    apply write_of_lookup
    rw [hfirst]
    exact lookup_write _ _ _

/-! ## What is shown -/

/-- The file that is planned says something. -/
theorem plannedConfig_ne_empty (target : String) : plannedConfig target ≠ "" := by
  simp [plannedConfig, Markup.Document.render]

/-- **A marker is looked for** without interruption, and found if it is there. -/
theorem probe_answered {x : Exchange} {marker : String}
    (hcall : x.call = .run (probeCommand marker))
    (hanswer : x.answer = (shell.answer host x.call d).1) (hnot : d.madeToFail x.call = false) :
    ¬x.Interrupted ∧ ((d.file? marker).isSome → x.Succeeded) := by
  have hperform := perform_probe d marker
  rw [hcall] at hanswer hnot
  cases hthere : (d.file? marker).isSome with
  | true =>
    rw [hthere, if_pos rfl] at hperform
    rw [answer_of_ok host hnot hperform] at hanswer
    refine ⟨?_, fun _ => ⟨"", hanswer⟩⟩
    rintro ⟨e, he, -⟩
    cases hanswer.symm.trans he
  | false =>
    rw [hthere, if_neg nofun] at hperform
    rw [answer_of_error host hnot hperform] at hanswer
    refine ⟨?_, nofun⟩
    rintro ⟨e, he, hreason⟩
    obtain rfl := Except.error.inj (hanswer.symm.trans he)
    exact hreason _ rfl

/-- **A speaker is there** if the call for that is not made to fail. -/
theorem Summary.Consistent.online_of_answered {s : Summary} {read : Exchange}
    {liveness probes : List Exchange} (h : s.Consistent read liveness probes)
    (hlive : ∀ x ∈ liveness,
      x.answer = (shell.answer host x.call d).1 ∧ d.madeToFail x.call = false) :
    s.isOnline = true := by
  apply h.online_iff.2
  by_cases hcontent : GaveContent read
  · exact .inl hcontent
  · have hasked : Call.run livenessCommand ∈ liveness.map (·.call) := by
      rw [h.asked hcontent]
      exact List.mem_cons_self
    obtain ⟨x, hx, hcall⟩ := List.mem_map.1 hasked
    obtain ⟨hanswer, hnot⟩ := hlive x hx
    rw [hcall] at hanswer hnot
    rw [answer_of_ok host hnot (perform_liveness d)] at hanswer
    exact .inr ⟨x, hx, "", hanswer⟩

section

variable {session : Session RemoteDevice} (store : Store) (disk : Disk) (speakers : Speakers)

/-- **What is exchanged for a summary** is what the speaker answers, which stays as it is. -/
theorem run_summary (host target : String) (session : Session RemoteDevice) :
    let shown := (summary shell host store disk speakers target).run session
    ∃ read liveness probes, shown.1.Consistent read liveness probes
      ∧ shown.1.plannedConfig = plannedConfig target
      ∧ shown.2.calls = session.calls ++ (read :: liveness ++ probes).map (Exchange.sent host)
      ∧ shown.2.state = session.state
      ∧ ∀ x ∈ read :: liveness ++ probes,
        x.answer = (shell.answer host x.call session.state).1 := by
  intro shown
  obtain ⟨exchanges, hexchanged, hcalls, read, liveness, probes, rfl, hconsistent, hplanned, -⟩ :=
    follows_summary shell host store disk speakers target session
  obtain ⟨hstate, hanswers⟩ := exchanged_of_looks hexchanged fun x hx =>
    looks_of_mem_lookingCalls x.call (hconsistent.looks x hx)
  exact ⟨read, liveness, probes, hconsistent, hplanned, hcalls, hstate, hanswers⟩

/-- **A file that can be read** is shown. -/
theorem text?_summary (target : String)
    (hfile : session.state.file? configPath = some content) (hcontent : content ≠ "")
    (hread : session.state.madeToFail (.run (readCommand configPath)) = false) :
    let s := ((summary shell host store disk speakers target).run session).1
    s.config.text? = some content ∧ s.plannedConfig = plannedConfig target := by
  intro s
  obtain ⟨read, liveness, probes, hconsistent, hplanned, -, -, hanswers⟩ :=
    run_summary store disk speakers host target session
  have hperform : session.state.perform (.run (readCommand configPath))
      = (.ok content, session.state) := by
    rw [perform_read, hfile]
  have hanswer : read.answer = .ok content := by
    rw [hanswers read List.mem_cons_self, hconsistent.read_call, answer_of_ok host hread hperform]
  have honline : s.isOnline = true := hconsistent.online_iff.2 (.inl ⟨content, hanswer, hcontent⟩)
  exact ⟨(hconsistent.text_iff content).2 ⟨honline, hanswer⟩, hplanned⟩

/-- **A marker that is there** is shown if nothing is made to fail. -/
theorem mem_found_summary (target : String) {marker : String} (hmarker : marker ∈ markers)
    (hfile : (session.state.file? marker).isSome) :
    let shown := (summary shell host store disk speakers target).run session
    (∀ c, (host, c) ∈ shown.2.calls.drop session.calls.length →
      session.state.madeToFail c = false) →
    shown.1.isOnline = true ∧ marker ∈ shown.1.markers.found
      ∧ shown.1.remoteServicesEnabled = true := by
  intro shown hfails
  obtain ⟨read, liveness, probes, hconsistent, -, hcalls, -, hanswers⟩ :=
    run_summary store disk speakers host target session
  have hnot (x : Exchange) (hx : x ∈ read :: liveness ++ probes) :
      session.state.madeToFail x.call = false := by
    apply hfails
    rw [show shown.2.calls = _ from hcalls, List.drop_left]
    exact List.mem_map_of_mem hx
  have honline : shown.1.isOnline = true := hconsistent.online_of_answered fun x hx =>
    have hx' : x ∈ read :: liveness ++ probes :=
      List.mem_append_left _ (List.mem_cons_of_mem _ hx)
    ⟨hanswers x hx', hnot x hx'⟩
  have hprobed (x : Exchange) (hx : x ∈ probes) (m : String)
      (hcall : x.call = .run (probeCommand m)) :
      ¬x.Interrupted ∧ ((session.state.file? m).isSome → x.Succeeded) :=
    have hx' : x ∈ read :: liveness ++ probes := List.mem_append_right _ hx
    probe_answered hcall (hanswers x hx') (hnot x hx')
  -- Without an interruption all markers are looked for.
  obtain ⟨probed, hprefix, hruns⟩ := hconsistent.probed
  have hlength : probes.length = markers.length := hconsistent.complete honline fun x hx => by
    obtain ⟨m, -, hcall⟩ := hruns.exists_file hx
    exact (hprobed x hx m hcall).1
  have hall : probed = markers := hprefix.eq_of_length (hruns.length_eq.symm.trans hlength)
  rw [hall] at hruns
  obtain ⟨x, hx, hcall⟩ := hruns.exists_exchange hmarker
  have hfound : marker ∈ shown.1.markers.found :=
    (hconsistent.mem_found_iff marker).2 ⟨x, hx, hcall, (hprobed x hx marker hcall).2 hfile⟩
  exact ⟨honline, hfound, hconsistent.enabled_iff.2 (List.ne_nil_of_mem hfound)⟩

end

/-- **Migrations last.** Whatever files a speaker keeps, and whatever calls to it are made to fail,
a migration changes nothing of it but files.

If the migration went well, or got as far as the restart, then a summary shows the file that was
uploaded, and this is the one that it plans, whatever then is made to fail beside the call that
reads it. If remote services could be enabled, then a summary for which no call is made to fail
finds the speaker, the marker, and remote services enabled. Another migration to the same target,
with the same calls made to fail, leaves the speaker as it is. -/
theorem migrations_last (host target : String) (session : Session RemoteDevice) :
    let after := (migrate shell host target).run session
    let enabled := (enableRemoteServices shell host).run session
    after.2.state = { session.state with files := after.2.state.files }
      ∧ (after.1 = .ok () ∨ after.2.calls.getLast? = some (host, .run rebootCommand) →
        ∀ (later : Session RemoteDevice) (store : Store) (disk : Disk) (speakers : Speakers),
          later.state.files = after.2.state.files →
          later.state.madeToFail (.run (readCommand configPath)) = false →
          let s := ((summary shell host store disk speakers target).run later).1
          s.config.text? = some (plannedConfig target) ∧ s.plannedConfig = plannedConfig target)
      ∧ (∀ location, enabled.1 = .ok location →
        ∀ (later : Session RemoteDevice) (store : Store) (disk : Disk) (speakers : Speakers),
          later.state.files = enabled.2.state.files →
          let shown := (summary shell host store disk speakers target).run later
          (∀ c, (host, c) ∈ shown.2.calls.drop later.calls.length →
            later.state.madeToFail c = false) →
          shown.1.isOnline = true ∧ location ∈ shown.1.markers.found
            ∧ shown.1.remoteServicesEnabled = true)
      ∧ ∀ again : Session RemoteDevice, again.state = after.2.state →
        ((migrate shell host target).run again).2.state = after.2.state := by
  intro after enabled
  obtain ⟨hstate, hfails⟩ := run_migrate host target session
  obtain ⟨hmade, henabled⟩ := run_enableRemoteServices host session
  have hfiles : after.2.state.files = migratedFiles session.state target :=
    congrArg RemoteDevice.files hstate
  refine ⟨?_, ?_, ?_, ?_⟩
  · rw [hfiles]
    exact hstate
  · intro hrestart later store disk speakers hlater hread
    -- An upload that is made to fail would have been the last call.
    let uploading : Call := .upload (plannedConfig target) configPath
    have huploaded : session.state.madeToFail uploading = false := by
      by_contra hnot
      obtain ⟨herror, hlast⟩ := hfails (by simpa using hnot)
      rcases hrestart with hok | hcall
      · exact herror hok
      · cases hlast.symm.trans hcall
    have hfile : later.state.file? configPath = some (plannedConfig target) := by
      rw [file?, hlater, hfiles, migratedFiles, if_neg (ne_true_of_eq_false huploaded)]
      exact lookup_write _ _ _
    exact text?_summary store disk speakers target hfile (plannedConfig_ne_empty target) hread
  · intro location hlocation later store disk speakers hlater shown hnot
    rw [show enabled.1 = _ from hmade] at hlocation
    cases hopen : openMarker session.state markers with
    | none =>
      rw [hopen] at hlocation
      cases hlocation
    | some marker =>
      rw [hopen] at hlocation
      obtain rfl := Except.ok.inj hlocation
      have hfile : (later.state.file? marker).isSome := by
        rw [file?, hlater, show enabled.2.state = _ from henabled]
        exact isSome_lookup_markedFiles hopen
      have hmarker : marker ∈ markers := List.mem_of_find?_eq_some hopen
      exact mem_found_summary store disk speakers target hmarker hfile hnot
  · intro again hagain
    obtain ⟨hstate', -⟩ := run_migrate host target again
    have hstate₁ : after.2.state = _ := hstate
    rw [hstate', hagain, hstate₁]
    exact congrArg (fun files => { session.state with files }) (migratedFiles_again _ target)

/-- A speaker that could not be told to restart has its new file all the same. -/
theorem failed_restart_is_seen :
    let session : Session RemoteDevice := { state := { reachable := true, failing := ["rw &&"] } }
    ((migrate shell "10.0.0.7" "http://10.0.0.2:8000").run session).1 ≠ .ok ()
      ∧ ((summary shell "10.0.0.7" { directory := [] } { clock := 1000 } Speaker.nobody
          "http://10.0.0.2:8000").run
            ((migrate shell "10.0.0.7" "http://10.0.0.2:8000").run session).2).1.config.text?
        = some (plannedConfig "http://10.0.0.2:8000") := by
  intro session
  have hfailed : ((migrate shell "10.0.0.7" "http://10.0.0.2:8000").run session).1 ≠ .ok () := by
    decide
  have hlast : ((migrate shell "10.0.0.7" "http://10.0.0.2:8000").run session).2.calls.getLast?
      = some ("10.0.0.7", .run rebootCommand) := by
    decide
  have hread : ((migrate shell "10.0.0.7" "http://10.0.0.2:8000").run session).2.state.madeToFail
      (.run (readCommand configPath)) = false := by
    decide
  have hseen := (migrations_last "10.0.0.7" "http://10.0.0.2:8000" session).2.1 (.inr hlast)
    _ { directory := [] } { clock := 1000 } Speaker.nobody rfl hread
  exact ⟨hfailed, hseen.1⟩

end SpeakerHub.Migration
