import SpeakerHub.Proofs.Account.Isolation
import SpeakerHub.Proofs.Store.Tokens

/-! # What readers are told

A reader is told that nothing has changed exactly if it presents the current token. What is there to
be rendered does not matter then, and the token does not depend on what was presented.

* **`Conditional.evaluate_eq_unchanged_iff`**, **`evaluate_eq_fresh_iff`** — the two answers.
* **`Account.answer`** — the answer to a reader of a list; **`presets_eq_answer`**,
  **`recents_eq_answer`** — presets and recents are read in this way.
* **`Account.answer_eq_unchanged_iff`**, **`full_eq_unchanged_iff`** — when nothing has changed;
  **`answer_eq_fresh_iff`** — when there is a document, and which.
* **`Account.storedPresets_congr`** to **`storedSources_congr`** — what they depend on. -/

namespace SpeakerHub

/-! ## The two answers -/

namespace Conditional

variable {t u v : Token} {presented : Option String} {render : Except Error String}

/-- A token is shown by its own text alone. -/
theorem any_isShownBy_iff : presented.any t.isShownBy = true ↔ presented = some t.text := by
  cases presented with
  | none => simp
  | some text =>
    rw [Option.any_some, Token.isShownBy, beq_iff_eq, Option.some_inj]
    exact eq_comm

/-- **The document** is for the reader with another token. -/
theorem evaluate_of_ne (h : presented ≠ some t.text) :
    evaluate t presented render = render.map (fresh t) := by
  rw [evaluate, if_neg (mt any_isShownBy_iff.1 h)]

/-- **Nothing has changed** for the token itself, and for no other. -/
theorem evaluate_eq_unchanged_iff :
    evaluate t (some u.text) render = .ok (unchanged v) ↔ t = u ∧ v = u := by
  by_cases h : t = u
  · subst h
    rw [evaluate, if_pos (any_isShownBy_iff.2 rfl)]
    simp [eq_comm]
  · have hne : some u.text ≠ some t.text := fun heq =>
      h (Token.text_inj.1 (Option.some_inj.1 heq)).symm
    rw [evaluate_of_ne hne]
    cases render <;> simp [h, Except.map]

/-- **The document** is given to everyone else. -/
theorem evaluate_eq_fresh_iff {body : String} :
    evaluate t presented render = .ok (fresh u body)
      ↔ presented ≠ some t.text ∧ u = t ∧ render = .ok body := by
  by_cases h : presented = some t.text
  · rw [evaluate, if_pos (any_isShownBy_iff.2 h)]
    simp [h]
  · rw [evaluate_of_ne h]
    cases render <;> simp [h, Except.map, eq_comm]

/-- Nothing has changed for a token that could be found, and that is presented. -/
theorem bind_evaluate_eq_unchanged_iff {token : Except Error Token} :
    (token >>= fun t => evaluate t (some u.text) render) = .ok (unchanged v)
      ↔ token = .ok u ∧ v = u := by
  rw [bind_eq_ok_iff]
  constructor
  · rintro ⟨t, ht, hanswer⟩
    obtain ⟨rfl, hv⟩ := evaluate_eq_unchanged_iff.1 hanswer
    exact ⟨ht, hv⟩
  · rintro ⟨ht, hv⟩
    exact ⟨u, ht, evaluate_eq_unchanged_iff.2 ⟨rfl, hv⟩⟩

/-- An answer carries the current token. -/
theorem token_of_evaluate {answer : Conditional} (h : evaluate t presented render = .ok answer) :
    answer.token = t := by
  unfold evaluate at h
  split at h
  · cases h
    rfl
  · cases render <;> cases h
    rfl

end Conditional

namespace Account

/-! ## Lists -/

/-- The answer to a reader of a list. -/
def answer {α : Type} (s : Store) (account : Identifier) (resource : Resource)
    (stored : Disk → Except Error (List α))
    (element : List Source → List α → Markup.Element Markup.Attributes)
    (presented : Option String) (d : Disk) : Except Error Conditional := do
  Conditional.evaluate (← s.resourceToken account resource d) presented do
    let xs ← stored d
    let sources ← storedSources s account d
    return Dialect.document (element sources xs)

section

variable {s : Store} {account : Identifier} {resource : Resource} {presented : Option String}
variable {d d' : Disk} {t u : Token}

/-- **Presets** are read in this way. -/
theorem presets_eq_answer : presets s account.text
    = answer s account .presets (storedPresets s account) Dialect.presets := by
  funext presented d
  rw [presets, ofText_text_bind]
  rfl

/-- **Recents** are read in this way. -/
theorem recents_eq_answer : recents s account.text
    = answer s account .recents (storedRecents s account) Dialect.recents := by
  funext presented d
  rw [recents, ofText_text_bind]
  rfl

section

variable {α : Type} {stored : Disk → Except Error (List α)}
variable {element : List Source → List α → Markup.Element Markup.Attributes}

/-- An answer carries the token of the list. -/
theorem token_of_answer {c : Conditional}
    (h : answer s account resource stored element presented d = .ok c) :
    s.resourceToken account resource d = .ok c.token := by
  obtain ⟨t, ht, hanswer⟩ := bind_eq_ok_iff.1 h
  rw [ht, Conditional.token_of_evaluate hanswer]

/-- **A list has not changed** for the reader with its token. -/
theorem answer_eq_unchanged_iff :
    answer s account resource stored element (some t.text) d = .ok (.unchanged u)
      ↔ s.resourceToken account resource d = .ok t ∧ u = t :=
  Conditional.bind_evaluate_eq_unchanged_iff

/-- **Everyone else** is given the list as it is stored, with the sources that are stored. -/
theorem answer_eq_fresh_iff {body : String} :
    answer s account resource stored element presented d = .ok (.fresh t body)
      ↔ s.resourceToken account resource d = .ok t ∧ presented ≠ some t.text
        ∧ ∃ xs sources, stored d = .ok xs ∧ storedSources s account d = .ok sources
          ∧ body = Dialect.document (element sources xs) := by
  have hrender : (do
        let xs ← stored d
        let sources ← storedSources s account d
        return Dialect.document (element sources xs) : Except Error String) = .ok body
      ↔ ∃ xs sources, stored d = .ok xs ∧ storedSources s account d = .ok sources
        ∧ body = Dialect.document (element sources xs) := by
    simp only [bind_eq_ok_iff, exists_and_left]
    simp [pure, Except.pure, eq_comm]
  rw [← hrender, answer, bind_eq_ok_iff]
  constructor
  · rintro ⟨t', ht, hanswer⟩
    obtain ⟨hne, rfl, hbody⟩ := Conditional.evaluate_eq_fresh_iff.1 hanswer
    exact ⟨ht, hne, hbody⟩
  · rintro ⟨ht, hne, hbody⟩
    exact ⟨t, ht, Conditional.evaluate_eq_fresh_iff.2 ⟨hne, rfl, hbody⟩⟩

/-- Whoever presents no token is given the list. -/
theorem answer_none {xs : List α} {sources : List Source}
    (ht : s.resourceToken account resource d = .ok t) (hxs : stored d = .ok xs)
    (hsources : storedSources s account d = .ok sources) :
    answer s account resource stored element none d
      = .ok (.fresh t (Dialect.document (element sources xs))) :=
  answer_eq_fresh_iff.2 ⟨ht, (Option.some_ne_none _).symm, xs, sources, hxs, hsources, rfl⟩

end

/-! ## What is stored -/

/-- The presets of an account depend on its list of presets. -/
theorem storedPresets_congr
    (h : d'.look (s.resourcePath account .presets) = d.look (s.resourcePath account .presets)) :
    storedPresets s account d' = storedPresets s account d :=
  congrArg orEmpty (Store.read_congr h _)

/-- The recents of an account depend on its list of recents. -/
theorem storedRecents_congr
    (h : d'.look (s.resourcePath account .recents) = d.look (s.resourcePath account .recents)) :
    storedRecents s account d' = storedRecents s account d :=
  congrArg orEmpty (Store.read_congr h _)

/-- The sources of an account depend on its list of sources. -/
theorem storedSources_congr
    (h : d'.look (s.resourcePath account .sources) = d.look (s.resourcePath account .sources)) :
    storedSources s account d' = storedSources s account d :=
  congrArg (orEmpty ∘ Except.map Sources.assignIds) (Store.read_congr h Sources.ofText?)

/-! ## The account as a whole -/

/-- An account with everything it has as a document. -/
def accountDocument (s : Store) (account : Identifier) (d : Disk) : Except Error String := do
  let devices := (← s.allDevices (some account) d).map (·.device)
  let presets ← storedPresets s account d
  let recents ← storedRecents s account d
  let sources ← storedSources s account d
  return Dialect.document (Dialect.account account.text devices presets recents sources)

/-- An account with a directory is read with the token of the account. -/
theorem full_of_directory {m : Int} (h : d.look (s.accountPath account) = .ok (.directory m)) :
    full s account.text presented d = s.accountToken account d >>= fun t =>
      Conditional.evaluate t presented (accountDocument s account d) := by
  obtain ⟨entries, hfind⟩ := Disk.find_of_look_directory h
  rw [full, ofText_text_bind]
  simp only [hfind]
  rfl

/-- An answer is given for an account with a directory and carries the token of the account. -/
theorem token_of_full {c : Conditional} (h : full s account.text presented d = .ok c) :
    (∃ m, d.look (s.accountPath account) = .ok (.directory m))
      ∧ s.accountToken account d = .ok c.token := by
  by_cases hdirectory : ∃ m, d.look (s.accountPath account) = .ok (.directory m)
  · refine ⟨hdirectory, ?_⟩
    obtain ⟨m, hm⟩ := hdirectory
    rw [full_of_directory hm] at h
    obtain ⟨t, ht, hanswer⟩ := bind_eq_ok_iff.1 h
    rw [ht, Conditional.token_of_evaluate hanswer]
  · rw [full_of_not (not_exists.1 hdirectory)] at h
    cases h

/-- **An account has not changed** for the reader with its token. -/
theorem full_eq_unchanged_iff (h : ∃ m, d.look (s.accountPath account) = .ok (.directory m)) :
    full s account.text (some t.text) d = .ok (.unchanged u)
      ↔ s.accountToken account d = .ok t ∧ u = t := by
  obtain ⟨m, hm⟩ := h
  rw [full_of_directory hm, Conditional.bind_evaluate_eq_unchanged_iff]

end

end Account

end SpeakerHub
