import SpeakerHub.Account.Service
import SpeakerHub.Discovery
import SpeakerHub.Proofs.Store.Locality

/-! # Accounts are isolated

Whatever is asked of the service for an account, or found and filed under it, keeps to the directory
of the account, whatever texts are given for it.

* **`Account.Operation`** — what can be asked; **`Operation.run`** — what is done.
* **`Account.fails_of_error`** — nothing is done under a name that is no identifier.
* **`Account.full_eq`**, **`presets_eq`**, **`recents_eq`** — what is given depends on the directory
  alone.
* **`Account.isLocal_run`** — every operation is local to the directory.
* **`accounts_are_isolated`** — nothing else changes, and nothing else is seen. -/

namespace SpeakerHub

namespace Account

/-- What can be asked for an account. -/
inductive Operation where
  /-- The account with everything it has. -/
  | full (presented : Option String)
  /-- Its presets. -/
  | presets (presented : Option String)
  /-- Its recents. -/
  | recents (presented : Option String)
  /-- To store what a button plays. -/
  | putPreset (device button body : String)
  /-- To record that something was played. -/
  | addRecent (device body : String)
  /-- To register a device. -/
  | addDevice (body : String)
  /-- To remove a device. -/
  | removeDevice (device : String)
  /-- To file a speaker that was found. -/
  | record (found : Discovery.Found)

/-- What is answered. -/
inductive Answer where
  /-- A document, or that it has not changed. -/
  | conditional (answer : Conditional)
  /-- A document that a change answers with. -/
  | written (answer : Written)
  /-- Nothing. -/
  | done
  deriving DecidableEq

/-- What is done for an account under a name that may be no identifier. -/
def Operation.run (s : Store) (account : String) : Operation → Action Answer
  | full presented => return .conditional (← Action.look (Account.full s account presented))
  | presets presented => return .conditional (← Action.look (Account.presets s account presented))
  | recents presented => return .conditional (← Action.look (Account.recents s account presented))
  | putPreset device button body =>
    return .written (← Account.putPreset s account device button body)
  | addRecent device body => return .written (← Account.addRecent s account device body)
  | addDevice body => return .written (← Account.addDevice s account body)
  | removeDevice device => do
    Account.removeDevice s account device
    return .done
  | record found => do
    Discovery.record s account found
    return .done

/-! ## Names that are no identifiers -/

section

variable {s : Store} {account : String} {e : Error} (h : Identifier.ofText account = .error e)
include h

/-- **Under a name that is no identifier every operation fails** and changes nothing. -/
theorem fails_of_error (op : Operation) : (op.run s account).Fails := by
  have hname {α : Type} (f : Identifier → Action α) :
      Action.Fails (liftM (Identifier.ofText account) >>= f) :=
    (Action.Fails.ofExcept h).bind f
  have hanswer {f : Disk → Except Error Conditional} (hf : ∀ d, f d = .error e) :
      Action.Fails (do return Answer.conditional (← Action.look f)) :=
    (Action.Fails.look hf).bind _
  -- The account is looked at behind the body and the device, so these may fail before it does.
  cases op with
  | full presented => exact hanswer fun d => by rw [full, h]; rfl
  | presets presented => exact hanswer fun d => by rw [Account.presets, h]; rfl
  | recents presented => exact hanswer fun d => by rw [Account.recents, h]; rfl
  | putPreset device button body =>
    refine Action.Fails.bind ?_ _
    unfold putPreset
    split
    · exact .bindExcept fun _ => .bindExcept fun _ => hname _
    · exact .throw _
  | addRecent device body =>
    exact Action.Fails.bind (.bindExcept fun _ => .bindExcept fun _ => hname _) _
  | addDevice body =>
    exact Action.Fails.bind (.bindExcept fun _ => .bindExcept fun _ => hname _) _
  | removeDevice device => exact Action.Fails.bind (hname _) _
  | record found => exact Action.Fails.bind (hname _) _

end

/-! ## What is given -/

section

variable {s : Store} {account : Identifier} {d d' : Disk}

/-- An identifier is read as itself. -/
theorem ofText_text (account : Identifier) : Identifier.ofText account.text = .ok account := by
  rw [Identifier.ofText, Identifier.ofText?_text]

/-- What goes on with a name that is an identifier goes on with the identifier. -/
theorem ofText_text_bind {α : Type} (account : Identifier) (f : Identifier → Except Error α) :
    (Identifier.ofText account.text >>= f) = f account := by
  rw [ofText_text]
  rfl

/-- An account without a directory is not found. -/
theorem full_of_not (h : ∀ modified, d.look (s.accountPath account) ≠ .ok (.directory modified))
    (presented : Option String) :
    full s account.text presented d = .error (.notFound (s.accountPath account)) := by
  rw [full, ofText_text_bind]
  split
  case h_1 modified hfind =>
    have hlook : d.look (s.accountPath account) = .ok (.directory modified) := by
      rw [Disk.look, hfind]
      rfl
    exact absurd hlook (h modified)
  case h_2 => rfl

variable (h : Disk.Agree (s.accountPath account) d d')
include h

/-- The presets are the same. -/
theorem storedPresets_eq : storedPresets s account d = storedPresets s account d' :=
  congrArg orEmpty (Store.presets_eq h)

/-- The recents are the same. -/
theorem storedRecents_eq : storedRecents s account d = storedRecents s account d' :=
  congrArg orEmpty (Store.recents_eq h)

/-- The sources are the same. -/
theorem storedSources_eq : storedSources s account d = storedSources s account d' :=
  congrArg orEmpty (Store.sources_eq h)

/-- The account as a whole is the same. -/
theorem full_eq (presented : Option String) :
    full s account.text presented d = full s account.text presented d' := by
  by_cases hdirectory : ∃ m, d.look (s.accountPath account) = .ok (.directory m)
  case neg =>
    have hdirectory' := h.look_self ▸ hdirectory
    rw [full_of_not (not_exists.1 hdirectory), full_of_not (not_exists.1 hdirectory')]
  obtain ⟨m, hm⟩ := hdirectory
  obtain ⟨entries, hfind⟩ := Disk.find_of_look_directory hm
  obtain ⟨entries', hfind'⟩ := Disk.find_of_look_directory (h.look_self ▸ hm)
  rw [full, full, ofText_text_bind, ofText_text_bind]
  simp only [hfind, hfind', Store.accountToken_eq h, Store.allDevices_eq h, storedPresets_eq h,
    storedRecents_eq h, storedSources_eq h]

/-- The presets as a document are the same. -/
theorem presets_eq (presented : Option String) :
    presets s account.text presented d = presets s account.text presented d' := by
  rw [presets, presets, ofText_text_bind, ofText_text_bind]
  simp only [Store.resourceToken_eq h, storedPresets_eq h, storedSources_eq h]

/-- The recents as a document are the same. -/
theorem recents_eq (presented : Option String) :
    recents s account.text presented d = recents s account.text presented d' := by
  rw [recents, recents, ofText_text_bind, ofText_text_bind]
  simp only [Store.resourceToken_eq h, storedRecents_eq h, storedSources_eq h]

end

/-! ## Operations are local -/

section

variable (s : Store) (account : Identifier)

/-- What goes on with a name that is an identifier is local if it is for the identifier. -/
theorem isLocal_ofText_bind {α : Type} {p : Path} {account : Identifier} {f : Identifier → Action α}
    (hf : Action.IsLocal p (f account)) :
    Action.IsLocal p (liftM (Identifier.ofText account.text) >>= f) := by
  rw [ofText_text]
  exact hf

/-- What a button plays is stored in the directory of the account. -/
theorem isLocal_putPreset (device button body : String) :
    Action.IsLocal (s.accountPath account) (putPreset s account.text device button body) := by
  unfold putPreset
  split
  case h_2 => exact .throw _
  refine .bindExcept fun request _ => .bindExcept fun _ _ => isLocal_ofText_bind ?_
  refine .bind (.look storedSources_eq) fun sources => .bindGet (fun e => ?_) fun e e' he => ?_
  · refine .bind (.look storedPresets_eq) fun stored => ?_
    refine .bind (Store.isLocal_saveList s account .presets _) fun _ => ?_
    exact .bind (.look fun h => Store.resourceToken_eq h _) fun _ => .pure _
  · rw [he]

/-- What was played is recorded in the directory of the account. -/
theorem isLocal_addRecent (device body : String) :
    Action.IsLocal (s.accountPath account) (addRecent s account.text device body) := by
  unfold addRecent
  refine .bindExcept fun request _ => .bindExcept fun _ _ => isLocal_ofText_bind ?_
  refine .bind (.look storedSources_eq) fun sources => .bindGet (fun e => ?_) fun e e' he => ?_
  · refine .bind (.look storedRecents_eq) fun stored => ?_
    refine .bind (Store.isLocal_saveList s account .recents _) fun _ => ?_
    exact .bind (.look fun h => Store.resourceToken_eq h _) fun _ => .pure _
  · rw [he]

/-- A device is registered in the directory of the account. -/
theorem isLocal_addDevice (body : String) :
    Action.IsLocal (s.accountPath account) (addDevice s account.text body) := by
  unfold addDevice
  refine .bindExcept fun request _ => .bindExcept fun id _ => isLocal_ofText_bind ?_
  refine .bind (.look fun h => Store.deviceOrNew_eq h id) fun known => ?_
  refine .bind (Store.isLocal_saveDevice s account id _) fun _ => ?_
  refine .bind (.look storedPresets_eq) fun presets => ?_
  refine .bind (.look storedRecents_eq) fun recents => ?_
  refine .bind (.look storedSources_eq) fun sources => ?_
  exact .bind (.look Store.accountToken_eq) fun _ => .pure _

/-- A device is removed from the directory of the account. -/
theorem isLocal_removeDevice (device : String) :
    Action.IsLocal (s.accountPath account) (removeDevice s account.text device) := by
  unfold removeDevice
  exact isLocal_ofText_bind <| .bindExcept fun id _ => Store.isLocal_removeDevice s account id

/-- A speaker that was found is filed in the directory of the account. -/
theorem isLocal_record (found : Discovery.Found) :
    Action.IsLocal (s.accountPath account) (Discovery.record s account.text found) := by
  unfold Discovery.record
  refine isLocal_ofText_bind <| .bindExcept fun id _ => ?_
  refine .bind (.look fun h => Store.deviceOrNew_eq h id) fun known => ?_
  exact Store.isLocal_saveDevice s account id _

/-- **Every operation is local** to the directory of the account. -/
theorem isLocal_run (op : Operation) :
    Action.IsLocal (s.accountPath account) (op.run s account.text) := by
  cases op with
  | full presented => exact .bind (.look fun h => full_eq h presented) fun _ => .pure _
  | presets presented => exact .bind (.look fun h => presets_eq h presented) fun _ => .pure _
  | recents presented => exact .bind (.look fun h => recents_eq h presented) fun _ => .pure _
  | putPreset device button body =>
    exact .bind (isLocal_putPreset s account device button body) fun _ => .pure _
  | addRecent device body => exact .bind (isLocal_addRecent s account device body) fun _ => .pure _
  | addDevice body => exact .bind (isLocal_addDevice s account body) fun _ => .pure _
  | removeDevice device => exact .bind (isLocal_removeDevice s account device) fun _ => .pure _
  | record found => exact .bind (isLocal_record s account found) fun _ => .pure _

end

end Account

/-! ## Isolation -/

/-- **Accounts are isolated.** Under a name that is no identifier every operation fails and changes
nothing. Under an identifier all that changes lies below the directory of the account, apart from
missing directories that are made on the way to it; and on two disks with a directory of accounts
that show the same time and agree below the directory of the account, the answers are the same, and
the disks still agree there. -/
theorem accounts_are_isolated (s : Store) (account : String) (op : Account.Operation) :
    (¬Identifier.IsValid account → ∃ e, ∀ d, (op.run s account).run d = (.error e, d))
      ∧ ∀ id : Identifier, id.text = account →
        (∀ d q, ¬s.accountPath id <+: q →
          ((op.run s account).run d).2.view q = d.view q
            ∨ q <+: s.accountPath id ∧ d.view q = none
              ∧ ((op.run s account).run d).2.HasDirectory q)
        ∧ ∀ d d' : Disk, d.clock = d'.clock →
          d.HasDirectory s.accountsPath → d'.HasDirectory s.accountsPath →
          (∀ q, s.accountPath id <+: q → d.view q = d'.view q) →
          ((op.run s account).run d).1 = ((op.run s account).run d').1
            ∧ ∀ q, s.accountPath id <+: q →
              ((op.run s account).run d).2.view q = ((op.run s account).run d').2.view q := by
  refine ⟨fun hinvalid => ?_, ?_⟩
  · have herror : Identifier.ofText account = .error (.invalidIdentifier account) := by
      rw [Identifier.ofText, Identifier.ofText?, dif_neg hinvalid]
    exact Account.fails_of_error herror op
  rintro id rfl
  have hlocal := Account.isLocal_run s id op
  refine ⟨hlocal.confined, fun d d' hclock hd hd' hinside => ?_⟩
  have hagree : Disk.Agree (s.accountPath id) d d' := by
    refine ⟨hclock, fun q hq hne => ?_, hinside⟩
    have hway : q <+: s.accountsPath := (List.prefix_concat_iff.1 hq).resolve_left hne
    exact ⟨hd.of_isPrefix hway, hd'.of_isPrefix hway⟩
  obtain ⟨hresult, hafter⟩ := hlocal.alike hagree
  exact ⟨hresult, hafter.inside⟩

end SpeakerHub
