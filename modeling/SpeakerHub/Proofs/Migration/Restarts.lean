import SpeakerHub.Migration
import SpeakerHub.Proofs.Remote.Exchanges

/-! # Restarts follow uploads

Migration marks a speaker for remote services as well as it can, uploads the file with the addresses
and restarts the speaker. Nothing that goes wrong with the markers stops it; an upload that goes
wrong does.

* **`Touches`** — markers were touched in their order, up to the first that could be.
* **`Marks`** — the speaker was made writable, and then the markers were touched.
* **`Enables`**, **`Migrates`** — what is exchanged to enable remote services and to migrate.
* **`Enables.error_iff`** — remote services are not enabled if no marker could be touched.
* **`Migrates.restarts_iff`** — there is a restart exactly if the upload went well;
  **`Migrates.ok_iff`** — a migration goes well if both do; **`Migrates.last_of_error`** — it fails
  with its last step.
* **`restarts_follow_uploads`** — migration does so, whatever the shell answers. -/

namespace SpeakerHub.Migration

variable {exchanges : List Exchange} {made : Option String}

/-! ## Markers -/

/-- **Markers were touched** in their order, up to the first that could be. -/
inductive Touches : List String → List Exchange → Option String → Prop where
  /-- One of them could be touched, and those in front of it could not. -/
  | made {front back : List String} {marker output : String} {xs : List Exchange}
      (hfront : RunsFor touchCommand front xs) (hfails : ∀ x ∈ xs, ¬x.Succeeded) :
      Touches (front ++ marker :: back)
        (xs ++ [{ call := .run (touchCommand marker), answer := .ok output }]) (some marker)
  /-- None of them could be touched. -/
  | unmade {all : List String} {xs : List Exchange} (hall : RunsFor touchCommand all xs)
      (hfails : ∀ x ∈ xs, ¬x.Succeeded) : Touches all xs none

/-- After a marker that could not be touched, the others are. -/
theorem Touches.cons {marker : String} {rest : List String} {x : Exchange} {xs : List Exchange}
    (hx : x.call = .run (touchCommand marker)) (hfails : ¬x.Succeeded) (h : Touches rest xs made) :
    Touches (marker :: rest) (x :: xs) made := by
  cases h with
  | made hfront hothers => exact .made (hfront.cons hx) (List.forall_mem_cons.2 ⟨hfails, hothers⟩)
  | unmade hall hothers => exact .unmade (hall.cons hx) (List.forall_mem_cons.2 ⟨hfails, hothers⟩)

/-- **The speaker is made writable**, as far as that goes, and then the markers are touched. -/
def Marks (exchanges : List Exchange) (made : Option String) : Prop :=
  ∃ answer touches, exchanges = { call := .run remountCommand, answer } :: touches
    ∧ Touches markers touches made

/-- **What is exchanged to enable remote services.** -/
inductive Enables : List Exchange → Except Error String → Prop where
  /-- A marker could be touched. -/
  | made {exchanges : List Exchange} {marker : String} (h : Marks exchanges (some marker)) :
      Enables exchanges (.ok marker)
  /-- None could be. -/
  | unavailable {exchanges : List Exchange} (h : Marks exchanges none) :
      Enables exchanges (.error (.remoteServicesUnavailable markers))

/-- **What is exchanged to migrate.** -/
inductive Migrates (target : String) : List Exchange → Except Error Unit → Prop where
  /-- The file could not be uploaded. That is the end of it. -/
  | notUploaded {marking : List Exchange} {made : Option String} {e : Error}
      (hmarks : Marks marking made) :
      Migrates target
        (marking ++ [{ call := .upload (plannedConfig target) configPath, answer := .error e }])
        (.error e)
  /-- The file is uploaded, and the speaker is told to restart. -/
  | uploaded {marking : List Exchange} {made : Option String} {output : String}
      {answer : Except Error String} (hmarks : Marks marking made) :
      Migrates target
        (marking ++ [{ call := .upload (plannedConfig target) configPath, answer := .ok output },
          { call := .run rebootCommand, answer }])
        (answer.map fun _ => ())

/-! ## What is done -/

section

variable {σ : Type} (shell : Shell σ) (host : String)

/-- Markers are touched so. -/
theorem follows_touchFirst (all : List String) :
    (touchFirst shell host all).Follows shell host (Touches all) := by
  induction all with
  | nil => exact .pure (.unmade .nil nofun)
  | cons marker rest ih =>
    refine .callBind _ fun answer => ?_
    cases answer with
    | ok output =>
      -- No marker stands in front of the first one.
      have hfront : RunsFor touchCommand [] [] := .nil
      exact .pure (.made hfront nofun)
    | error e => exact ih.mono fun xs made h => h.cons rfl (Exchange.not_succeeded_error _ e)

/-- Remote services are enabled so. -/
theorem follows_enableRemoteServices :
    (enableRemoteServices shell host).Follows shell host Enables := by
  refine .callBind _ fun answer => ?_
  refine (follows_touchFirst shell host markers).bind fun touches made htouches => ?_
  have hmarks : Marks ({ call := .run remountCommand, answer } :: touches) made :=
    ⟨answer, touches, rfl, htouches⟩
  cases made with
  | some marker => exact .pure (by simpa using .made hmarks)
  | none => exact .pure (by simpa using .unavailable hmarks)

/-- **A speaker is migrated so**, whatever its shell answers. -/
theorem follows_migrate (target : String) :
    (migrate shell host target).Follows shell host (Migrates target) := by
  refine (follows_enableRemoteServices shell host).bind fun marking enabled henables => ?_
  -- The migration does not look at whether remote services could be enabled.
  have hmarks : ∃ made, Marks marking made := by
    cases henables with
    | made h => exact ⟨_, h⟩
    | unavailable h => exact ⟨_, h⟩
  obtain ⟨made, hmarks⟩ := hmarks
  refine .callBind _ fun answer => ?_
  cases answer with
  | error e => exact .pure (.notUploaded hmarks)
  | ok output =>
    refine .callBind _ fun answer => ?_
    cases answer with
    | error e => exact .pure (.uploaded hmarks)
    | ok done => exact .pure (.uploaded hmarks)

end

/-! ## What follows from it -/

/-- To touch markers is all that is done to them. -/
theorem Touches.exists_marker {all : List String} (h : Touches all exchanges made) {x : Exchange}
    (hx : x ∈ exchanges) : ∃ marker ∈ all, x.call = .run (touchCommand marker) := by
  cases h with
  | unmade hall hfails => exact hall.exists_file hx
  | @made front back marker output xs hfront hfails =>
    rcases List.mem_append.1 hx with hx | hx
    · obtain ⟨file, hfile, hcall⟩ := hfront.exists_file hx
      exact ⟨file, List.mem_append_left _ hfile, hcall⟩
    · obtain rfl := List.mem_singleton.1 hx
      exact ⟨marker, by simp, rfl⟩

/-- Marking a speaker neither uploads anything nor restarts it. -/
theorem Marks.call_ne (h : Marks exchanges made) {x : Exchange} (hx : x ∈ exchanges) :
    x.call ≠ .run rebootCommand ∧ ∀ content path, x.call ≠ .upload content path := by
  obtain ⟨answer, touches, rfl, htouches⟩ := h
  rcases List.mem_cons.1 hx with rfl | hx
  · have hremount : Call.run remountCommand ≠ .run rebootCommand := by decide
    exact ⟨hremount, nofun⟩
  · obtain ⟨marker, hmarker, hcall⟩ := htouches.exists_marker hx
    have hreboot : ∀ m ∈ markers, Call.run (touchCommand m) ≠ .run rebootCommand := by decide
    rw [hcall]
    exact ⟨hreboot marker hmarker, nofun⟩

/-- The command to touch a marker tells which marker. -/
theorem touchCommand_inj {marker other : String} :
    touchCommand marker = touchCommand other ↔ marker = other := by
  simp [touchCommand, ← String.toList_inj]

/-- **No marker could be touched** exactly if all were, in vain. -/
theorem Touches.eq_none_iff {all : List String} (h : Touches all exchanges made)
    (hall : all.Nodup) :
    made = none ↔ ∀ marker ∈ all, ∃ x ∈ exchanges,
      x.call = .run (touchCommand marker) ∧ ¬x.Succeeded := by
  cases h with
  | unmade hcalls hfails =>
    refine iff_of_true rfl fun marker hmarker => ?_
    obtain ⟨x, hx, hcall⟩ := hcalls.exists_exchange hmarker
    exact ⟨x, hx, hcall, hfails x hx⟩
  | @made front back marker output xs hfront hfails =>
    refine iff_of_false nofun fun hvain => ?_
    obtain ⟨x, hx, hcall, hfail⟩ := hvain marker (by simp)
    rcases List.mem_append.1 hx with hx | hx
    · -- A marker in front would be the same one.
      obtain ⟨other, hother, hcall'⟩ := hfront.exists_file hx
      rw [hcall, Call.run.injEq, touchCommand_inj] at hcall'
      subst hcall'
      exact (List.nodup_append.1 hall).2.2 marker hother marker List.mem_cons_self rfl
    · obtain rfl := List.mem_singleton.1 hx
      exact hfail (Exchange.succeeded_ok _ output)

/-- **Remote services are not enabled** exactly if no marker could be touched. -/
theorem Enables.error_iff {result : Except Error String} (h : Enables exchanges result) :
    result = .error (.remoteServicesUnavailable markers)
      ↔ ∀ marker ∈ markers, ∃ x ∈ exchanges,
        x.call = .run (touchCommand marker) ∧ ¬x.Succeeded := by
  have hall : markers.Nodup := by decide
  -- To make the speaker writable is not to touch a marker.
  have hremount : ∀ m ∈ markers, Call.run remountCommand ≠ .run (touchCommand m) := by decide
  have hmarks {made : Option String} (h : Marks exchanges made) :
      made = none ↔ ∀ marker ∈ markers, ∃ x ∈ exchanges,
        x.call = .run (touchCommand marker) ∧ ¬x.Succeeded := by
    obtain ⟨answer, touches, rfl, htouches⟩ := h
    rw [htouches.eq_none_iff hall]
    refine forall₂_congr fun marker hmarker => ?_
    simp only [List.mem_cons, exists_eq_or_imp]
    exact (or_iff_right fun hx => hremount marker hmarker hx.1).symm
  cases h with
  | made h => exact iff_of_false nofun (mt (hmarks h).2 nofun)
  | unavailable h => exact iff_of_true rfl ((hmarks h).1 rfl)

/-- What is neither to make writable nor to touch stands behind the marking. -/
theorem Marks.exists_append_iff {marking rest : List Exchange} (h : Marks marking made)
    {p : Exchange → Prop}
    (hp : ∀ x, p x → x.call = .run rebootCommand ∨ ∃ content path, x.call = .upload content path) :
    (∃ x ∈ marking ++ rest, p x) ↔ ∃ x ∈ rest, p x := by
  constructor
  · rintro ⟨x, hx, hpx⟩
    rcases List.mem_append.1 hx with hmarking | hrest
    · obtain ⟨hreboot, hupload⟩ := h.call_ne hmarking
      rcases hp x hpx with hcall | ⟨content, path, hcall⟩
      · exact absurd hcall hreboot
      · exact absurd hcall (hupload content path)
    · exact ⟨x, hrest, hpx⟩
  · rintro ⟨x, hx, hpx⟩
    exact ⟨x, List.mem_append_right _ hx, hpx⟩

namespace Migrates

variable {target : String} {result : Except Error Unit} (h : Migrates target exchanges result)
include h

/-- **There is a restart** exactly if the file was uploaded. -/
theorem restarts_iff :
    (∃ x ∈ exchanges, x.call = .run rebootCommand)
      ↔ ∃ x ∈ exchanges, x.call = .upload (plannedConfig target) configPath ∧ x.Succeeded := by
  cases h with
  | notUploaded hmarks =>
    rw [hmarks.exists_append_iff fun x hx => .inl hx,
      hmarks.exists_append_iff fun x hx => .inr ⟨_, _, hx.1⟩]
    simp
  | uploaded hmarks =>
    rw [hmarks.exists_append_iff fun x hx => .inl hx,
      hmarks.exists_append_iff fun x hx => .inr ⟨_, _, hx.1⟩]
    simp

/-- **A migration goes well** exactly if the upload and the restart do. -/
theorem ok_iff :
    result = .ok ()
      ↔ (∃ x ∈ exchanges, x.call = .upload (plannedConfig target) configPath ∧ x.Succeeded)
        ∧ ∃ x ∈ exchanges, x.call = .run rebootCommand ∧ x.Succeeded := by
  cases h with
  | notUploaded hmarks =>
    rw [hmarks.exists_append_iff fun x hx => .inr ⟨_, _, hx.1⟩,
      hmarks.exists_append_iff fun x hx => .inl hx.1]
    simp
  | @uploaded marking made output answer hmarks =>
    rw [hmarks.exists_append_iff fun x hx => .inr ⟨_, _, hx.1⟩,
      hmarks.exists_append_iff fun x hx => .inl hx.1]
    cases answer <;> simp [Except.map]

end Migrates

/-- **A migration fails** with the error of its last step, the upload or the restart. -/
theorem Migrates.last_of_error {target : String} {e : Error}
    (h : Migrates target exchanges (.error e)) :
    ∃ front x, exchanges = front ++ [x] ∧ x.answer = .error e
      ∧ (x.call = .upload (plannedConfig target) configPath ∨ x.call = .run rebootCommand) := by
  generalize hresult : (Except.error e : Except Error Unit) = result at h
  cases h with
  | @notUploaded marking made e' hmarks =>
    cases hresult
    exact ⟨marking, _, rfl, rfl, .inl rfl⟩
  | @uploaded marking made output answer hmarks =>
    cases answer with
    | ok done => cases hresult
    | error e' =>
      cases hresult
      exact ⟨_, _, List.append_cons marking _ _, rfl, .inr rfl⟩

/-- **Restarts follow uploads.** Whatever the shell answers, each time depending on all that was
asked before, a migration makes the speaker writable, touches the markers up to the first that can
be touched, and then uploads the file for its target, whatever came of that. The speaker is told to
restart exactly if the upload went well, and nothing else is asked of it. The migration goes well
exactly if the upload and the restart do, and otherwise gives the error of the one that failed.

To enable remote services is to make the speaker writable and to touch the markers, and gives the
marker that could be touched. It fails exactly if none could be, and then names all of them. -/
theorem restarts_follow_uploads {σ : Type} (shell : Shell σ) (host publicUrl : String)
    (target? : Option String) :
    let target := resolveTarget publicUrl target?
    let uploads (x : Exchange) : Prop := x.call = .upload (plannedConfig target) configPath
    let restarts (x : Exchange) : Prop := x.call = .run rebootCommand
    (migrate shell host target).Follows shell host (fun exchanges result =>
      Migrates target exchanges result
        ∧ ((∃ x ∈ exchanges, restarts x) ↔ ∃ x ∈ exchanges, uploads x ∧ x.Succeeded)
        ∧ (result = .ok () ↔ (∃ x ∈ exchanges, uploads x ∧ x.Succeeded)
          ∧ ∃ x ∈ exchanges, restarts x ∧ x.Succeeded)
        ∧ ∀ e, result = .error e → ∃ front x, exchanges = front ++ [x] ∧ x.answer = .error e
          ∧ (uploads x ∨ restarts x))
    ∧ (enableRemoteServices shell host).Follows shell host fun exchanges result =>
      Enables exchanges result
        ∧ (result = .error (.remoteServicesUnavailable markers)
          ↔ ∀ marker ∈ markers, ∃ x ∈ exchanges,
            x.call = .run (touchCommand marker) ∧ ¬x.Succeeded) := by
  intro target uploads restarts
  constructor
  · refine (follows_migrate shell host target).mono fun exchanges result h => ?_
    refine ⟨h, h.restarts_iff, h.ok_iff, fun e he => ?_⟩
    subst he
    exact h.last_of_error
  · refine (follows_enableRemoteServices shell host).mono fun exchanges result h => ?_
    exact ⟨h, h.error_iff⟩

end SpeakerHub.Migration
