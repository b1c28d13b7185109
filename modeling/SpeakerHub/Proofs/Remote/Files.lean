import SpeakerHub.Proofs.Remote.Exchanges
import SpeakerHub.Remote.Device

/-! # Files behind a shell

What calls do to a device that keeps files. A call is made to fail, and then the device is left as
it is, or it is performed.

* **`RemoteDevice.lookup_write`**, **`write_of_lookup`** — a file that was written, and one that
  already is what would be written; **`touch`** — a file that is made if it is not there.
* **`RemoteDevice.argument?_append`**, **`soughtFile?_append`** — command lines with a file.
* **`RemoteDevice.madeToFail`** — whether a call is made to fail; **`answer_of_madeToFail`**,
  **`answer_of_ok`**, **`answer_of_error`** — what is answered.
* **`RemoteDevice.exchanged_of_looks`** — who only looks at files finds the same device each
  time. -/

namespace SpeakerHub.RemoteDevice

variable {files : List (String × String)} {path other content : String}

/-! ## Writing -/

/-- **A file that was written** has the new content. -/
theorem lookup_write (path content : String) (files : List (String × String)) :
    (write path content files).lookup path = some content := by
  induction files with
  | nil => exact List.lookup_cons_self
  | cons file rest ih =>
    obtain ⟨p, old⟩ := file
    rw [write]
    by_cases hp : p = path
    · rw [if_pos hp, hp]
      exact List.lookup_cons_self
    · rw [if_neg hp, List.lookup_cons, beq_false_of_ne (Ne.symm hp)]
      exact ih

/-- Other files are as before. -/
theorem lookup_write_of_ne (hother : other ≠ path) :
    (write path content files).lookup other = files.lookup other := by
  induction files with
  | nil => rw [write, List.lookup_cons, beq_false_of_ne hother]
  | cons file rest ih =>
    obtain ⟨p, old⟩ := file
    rw [write]
    by_cases hp : p = path
    · subst hp
      rw [if_pos rfl, List.lookup_cons, List.lookup_cons, beq_false_of_ne hother]
    · rw [if_neg hp, List.lookup_cons, List.lookup_cons, ih]

/-- A file that is there is there after another was written. -/
theorem isSome_lookup_write (h : (files.lookup other).isSome) :
    ((write path content files).lookup other).isSome := by
  by_cases hother : other = path
  · rw [hother, lookup_write]
    rfl
  · rw [lookup_write_of_ne hother]
    exact h

/-- **To write what is there** changes nothing. -/
theorem write_of_lookup (h : files.lookup path = some content) :
    write path content files = files := by
  induction files with
  | nil => cases h
  | cons file rest ih =>
    obtain ⟨p, old⟩ := file
    rw [write]
    by_cases hp : p = path
    · rw [hp, List.lookup_cons_self] at h
      rw [if_pos hp, Option.some.inj h]
    · rw [List.lookup_cons, beq_false_of_ne (Ne.symm hp)] at h
      rw [if_neg hp, ih h]

/-- Files with one of them made, if it is not there. -/
def touch (path : String) (files : List (String × String)) : List (String × String) :=
  if (files.lookup path).isSome then files else write path "" files

/-- A file that is there need not be made. -/
theorem touch_of_isSome (h : (files.lookup path).isSome) : touch path files = files :=
  if_pos h

/-- **A file that was made** is there. -/
theorem isSome_lookup_touch (path : String) (files : List (String × String)) :
    ((touch path files).lookup path).isSome := by
  rw [touch]
  split
  · assumption
  · rw [lookup_write]
    rfl

/-! ## Command lines -/

/-- What stands behind a word is its argument. -/
theorem argument?_append (word rest : String) :
    argument? word (word ++ " " ++ rest) = some rest := by
  have htext : (word ++ " " ++ rest).toList = (word ++ " ").toList ++ rest.toList :=
    String.toList_append
  have hlength : (word ++ " ").toList.length = word.length + 1 := by
    simp [String.length_toList]
  have hprefix : (word ++ " ").toList.isPrefixOf (word ++ " " ++ rest).toList = true := by
    rw [List.isPrefixOf_iff_prefix, htext]
    exact List.prefix_append _ _
  rw [argument?, if_pos hprefix, htext, List.drop_left' hlength, String.ofList_toList]

/-- A command line that looks for a file is understood so. -/
theorem soughtFile?_append (path : String) :
    soughtFile? ("[ -e" ++ " " ++ (path ++ " ]")) = some path := by
  have htext : (path ++ " ]").toList = path.toList ++ " ]".toList := String.toList_append
  have hsuffix : " ]".toList.isSuffixOf (path ++ " ]").toList = true := by
    rw [List.isSuffixOf_iff_suffix, htext]
    exact List.suffix_append _ _
  have hlength : (path ++ " ]").length - 2 = path.toList.length := by
    rw [String.length_append, String.length_toList]
    rfl
  rw [soughtFile?, argument?_append]
  show (if _ then _ else _) = some path
  rw [if_pos hsuffix, hlength, htext, List.take_left, String.ofList_toList]

/-! ## Calls that are made to fail -/

/-- Whether a call is made to fail. -/
def madeToFail (d : RemoteDevice) (c : Call) : Bool :=
  !d.reachable || beginsWith d.dropping c || beginsWith d.failing c

variable {d d' : RemoteDevice} {host output reason : String} {c : Call}

/-- **A call that is made to fail** does nothing. -/
theorem answer_of_madeToFail (host : String) (h : d.madeToFail c = true) :
    ∃ e, shell.answer host c d = (.error e, d) := by
  show ∃ e, answer host c d = (.error e, d)
  rw [answer]
  by_cases hlost : (!d.reachable || beginsWith d.dropping c) = true
  · rw [if_pos hlost]
    exact ⟨_, rfl⟩
  · have hfailing : beginsWith d.failing c = true := by
      rw [madeToFail, Bool.or_eq_true] at h
      exact h.resolve_left hlost
    rw [if_neg hlost, if_pos hfailing]
    exact ⟨_, rfl⟩

/-- Another call is performed. -/
theorem answer_of_not_madeToFail (host : String) (h : d.madeToFail c = false) :
    shell.answer host c d
      = match d.perform c with
        | (.ok output, d) => (.ok output, d)
        | (.error reason, d) => (.error (rejection host c reason), d) := by
  show answer host c d = _
  rw [madeToFail, Bool.or_eq_false_iff] at h
  rw [answer]
  exact (if_neg (ne_true_of_eq_false h.1)).trans (if_neg (ne_true_of_eq_false h.2))

/-- **A call that can be performed** is. -/
theorem answer_of_ok (host : String) (h : d.madeToFail c = false)
    (hperform : d.perform c = (.ok output, d')) : shell.answer host c d = (.ok output, d') := by
  rw [answer_of_not_madeToFail host h, hperform]

/-- **A call that cannot be performed** is turned down. -/
theorem answer_of_error (host : String) (h : d.madeToFail c = false)
    (hperform : d.perform c = (.error reason, d')) :
    shell.answer host c d = (.error (rejection host c reason), d') := by
  rw [answer_of_not_madeToFail host h, hperform]

/-! ## Looking -/

/-- Whether a call leaves every device as it is. -/
def Looks (c : Call) : Prop :=
  ∀ d : RemoteDevice, (d.perform c).2 = d

/-- To look is to leave the device as it is, whether that goes well or not. -/
theorem Looks.answer (hc : Looks c) (host : String) (d : RemoteDevice) :
    (shell.answer host c d).2 = d := by
  cases h : d.madeToFail c with
  | true =>
    obtain ⟨e, he⟩ := answer_of_madeToFail host h
    rw [he]
  | false =>
    have hlooks := hc d
    rw [answer_of_not_madeToFail host h]
    -- Whether it goes well shows in the answer, not in the device.
    generalize d.perform c = performed at hlooks
    obtain ⟨_ | _, d'⟩ := performed
    · exact hlooks
    · exact hlooks

/-- **Who only looks** finds the same device each time. -/
theorem exchanged_of_looks {exchanges : List Exchange}
    (h : shell.Exchanged host d exchanges d') (hlooks : ∀ x ∈ exchanges, Looks x.call) :
    d' = d ∧ ∀ x ∈ exchanges, x.answer = (shell.answer host x.call d).1 := by
  induction h with
  | nil d => exact ⟨rfl, nofun⟩
  | @cons d d' rest c hrest ih =>
    have hsame : (shell.answer host c d).2 = d :=
      (hlooks _ List.mem_cons_self).answer host d
    obtain ⟨hstate, hanswers⟩ := ih fun x hx => hlooks x (List.mem_cons_of_mem _ hx)
    rw [hsame] at hstate hanswers
    exact ⟨hstate, List.forall_mem_cons.2 ⟨rfl, hanswers⟩⟩

end SpeakerHub.RemoteDevice
