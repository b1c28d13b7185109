import SpeakerHub.Proofs.Account.Answers
import SpeakerHub.Proofs.Account.Runs

/-! # What a token is good for

A reader that presents the token of an earlier answer is told that nothing has changed exactly if
the list behind it was not stored in between. The list is the same then; the sources in its document
are those that are configured now.

* **`Run.same_list`** — a list with the same token is the same list.
* **`Run.storedSources_ok`** — sources that can be read stay so.
* **`tokens_follow_lists`** — which tokens are still good after a run.
* **`unchanged_lists_are_the_same`** — what a reader with a good token misses. -/

namespace SpeakerHub

/-! ## Lists with the same token -/

namespace Run

variable {s : Store} {account : Identifier} {resource : Resource} {events : List Event}
variable {d d' : Disk} {t : Token}

/-- **A list with the same token** is the same list, and so are the others that were not stored. -/
theorem same_list (h : Run s d events d') (ht : s.resourceToken account resource d = .ok t)
    (ht' : s.resourceToken account resource d' = .ok t) :
    d'.look (s.resourcePath account resource) = d.look (s.resourcePath account resource)
      ∧ ∀ r, (∀ e ∈ events, e.stored? ≠ some (account.text, r)) →
        d'.look (s.resourcePath account r) = d.look (s.resourcePath account r) := by
  by_cases hshort : (s.accountPath account).IsShort
  · have hno := (h.resourceToken_eq_iff hshort ht).1 ht'
    exact ⟨h.look_kept hshort hno, fun r hr => h.look_kept hshort hr⟩
  · -- Along a name that is too long nothing is there, neither before nor afterwards.
    have hsame (r : Resource) :
        d'.look (s.resourcePath account r) = d.look (s.resourcePath account r) := by
      rw [Store.look_resource_of_long hshort ht r, Store.look_resource_of_long hshort ht' r]
    exact ⟨hsame resource, fun r _ => hsame r⟩

/-- **Sources that can be read** can be read afterwards. -/
theorem storedSources_ok (h : Run s d events d') (hshort : (s.accountPath account).IsShort)
    (hok : ∃ xs, Account.storedSources s account d = .ok xs) :
    ∃ xs, Account.storedSources s account d' = .ok xs := by
  induction h with
  | start => exact hok
  | event before hrun hahead ih =>
    obtain ⟨save?, hchange, -⟩ := Event.change hrun
    by_cases hlist : save?.bind Save.list? = some (account.text, .sources)
    · -- The sources were stored just now.
      obtain ⟨save, rfl, hsave⟩ := Option.bind_eq_some_iff.1 hlist
      cases save with
      | sources name xs =>
        obtain rfl : name = account.text := congrArg Prod.fst (Option.some_inj.1 hsave)
        refine ⟨Sources.assignIds xs, ?_⟩
        rw [Account.storedSources, hchange.sources_saved]
        rfl
      | _ => simp [Save.list?] at hsave
    · rw [Account.storedSources_congr (hchange.look_kept hshort hlist)]
      exact ih

/-- **A document whose token is still good** shows the list as it is, with the sources of the time
when it was rendered. -/
theorem fresh_then_unchanged {α : Type} {stored : Disk → Except Error (List α)}
    {element : List Source → List α → Markup.Element Markup.Attributes}
    (hstored : ∀ {d d'}, d'.look (s.resourcePath account resource)
      = d.look (s.resourcePath account resource) → stored d' = stored d)
    (h : Run s d events d') {presented : Option String} {u : Token} {body : String}
    (hfresh : Account.answer s account resource stored element presented d = .ok (.fresh t body))
    (hunchanged : Account.answer s account resource stored element (some t.text) d'
      = .ok (.unchanged u)) :
    ∃ xs sources sources',
      (stored d = .ok xs ∧ Account.storedSources s account d = .ok sources
        ∧ body = Dialect.document (element sources xs))
      ∧ (stored d' = .ok xs ∧ Account.storedSources s account d' = .ok sources'
        ∧ Account.answer s account resource stored element none d'
          = .ok (.fresh t (Dialect.document (element sources' xs))))
      ∧ ((∀ e ∈ events, e.stored? ≠ some (account.text, .sources)) →
        Account.answer s account resource stored element none d' = .ok (.fresh t body)) := by
  obtain ⟨ht, -, xs, sources, hxs, hsources, hbody⟩ := Account.answer_eq_fresh_iff.1 hfresh
  obtain ⟨ht', rfl⟩ := Account.answer_eq_unchanged_iff.1 hunchanged
  obtain ⟨hsame, hothers⟩ := h.same_list ht ht'
  have hxs' : stored d' = .ok xs := (hstored hsame).trans hxs
  have hreadable : ∃ sources', Account.storedSources s account d' = .ok sources' := by
    by_cases hshort : (s.accountPath account).IsShort
    · exact h.storedSources_ok hshort ⟨sources, hsources⟩
    · have hlook := (Store.look_resource_of_long hshort ht' .sources).trans
        (Store.look_resource_of_long hshort ht .sources).symm
      exact ⟨sources, (Account.storedSources_congr hlook).trans hsources⟩
  obtain ⟨sources', hsources'⟩ := hreadable
  have hrender : Account.answer s account resource stored element none d'
      = .ok (.fresh u (Dialect.document (element sources' xs))) :=
    Account.answer_none ht' hxs' hsources'
  refine ⟨xs, sources, sources', ⟨hxs, hsources, hbody⟩, ⟨hxs', hsources', hrender⟩, fun hno => ?_⟩
  rw [Account.storedSources_congr (hothers .sources hno), hsources] at hsources'
  rw [hrender, hbody, Except.ok.inj hsources']

end Run

/-! ## Which tokens are good -/

/-- An account that is answered for has a name that is an identifier. -/
theorem Account.exists_text_eq {α : Type} {account : String} {f : Identifier → Except Error α}
    {x : α} (h : (Identifier.ofText account >>= f) = .ok x) :
    ∃ id : Identifier, id.text = account := by
  obtain ⟨id, hid, -⟩ := bind_eq_ok_iff.1 h
  exact ⟨id, Identifier.ofText_eq_ok_iff.1 hid⟩

/-- **Tokens follow the lists.** Whoever was answered with a token of the presets of an account, and
presents it after a run, is told that nothing has changed exactly if no presets of the account were
stored in the run; so with the recents, and with the whole account, whose token is still good
exactly if none of its lists was stored. Devices and other accounts make no difference.

The token of one list has a condition: the names on the way to the account fit on the disk, or there
was a directory of accounts already when the token was given. -/
theorem tokens_follow_lists (s : Store) (account : String) {events : List Event} {d d' : Disk}
    (hrun : Run s d events d') :
    (s.directory.IsShort ∧ account.utf8ByteSize ≤ 255 ∨ d.HasDirectory s.accountsPath →
      (∀ presented answer, Account.presets s account presented d = .ok answer → ∀ u,
        Account.presets s account (some answer.token.text) d' = .ok (.unchanged u)
          ↔ u = answer.token ∧ ∀ e ∈ events, e.stored? ≠ some (account, .presets))
      ∧ ∀ presented answer, Account.recents s account presented d = .ok answer → ∀ u,
        Account.recents s account (some answer.token.text) d' = .ok (.unchanged u)
          ↔ u = answer.token ∧ ∀ e ∈ events, e.stored? ≠ some (account, .recents))
    ∧ ∀ presented answer, Account.full s account presented d = .ok answer → ∀ u,
        Account.full s account (some answer.token.text) d' = .ok (.unchanged u)
          ↔ u = answer.token ∧ ∀ e ∈ events, ∀ resource, e.stored? ≠ some (account, resource) := by
  have hshort {id : Identifier} {resource : Resource} {t : Token}
      (hroom : s.directory.IsShort ∧ id.text.utf8ByteSize ≤ 255 ∨ d.HasDirectory s.accountsPath)
      (ht : s.resourceToken id resource d = .ok t) : (s.accountPath id).IsShort := by
    rcases hroom with ⟨hs, hid⟩ | hd
    · refine Store.isShort_accountPath.2 ⟨hs, ?_⟩
      simpa [Identifier.IsShort, Name.isTooLong, Name.size] using hid
    · exact Store.isShort_of_resourceToken hd ht
  refine ⟨fun hroom => ⟨fun presented answer h u => ?_, fun presented answer h u => ?_⟩,
    fun presented answer h u => ?_⟩
  · obtain ⟨id, rfl⟩ := Account.exists_text_eq h
    rw [Account.presets_eq_answer] at h ⊢
    have ht := Account.token_of_answer h
    rw [Account.answer_eq_unchanged_iff, hrun.resourceToken_eq_iff (hshort hroom ht) ht, and_comm]
  · obtain ⟨id, rfl⟩ := Account.exists_text_eq h
    rw [Account.recents_eq_answer] at h ⊢
    have ht := Account.token_of_answer h
    rw [Account.answer_eq_unchanged_iff, hrun.resourceToken_eq_iff (hshort hroom ht) ht, and_comm]
  · -- The account was answered for, so that it has a directory, whose name is not too long.
    obtain ⟨id, rfl⟩ := Account.exists_text_eq h
    obtain ⟨⟨m, hm⟩, ht⟩ := Account.token_of_full h
    obtain ⟨m', hm'⟩ := hrun.hasDirectory ⟨m, Disk.view_of_look hm⟩
    have hdirectory := Disk.look_of_look hm hm'
    rw [Account.full_eq_unchanged_iff ⟨m', hdirectory⟩,
      hrun.accountToken_eq_iff (Disk.isShort_of_look hm) ht, and_comm]

/-- When something is played after a button was set, the token of the presets stays good, and those
of the recents and of the account do not. -/
theorem tokens_after_playing :
    let s : Store := { directory := Path.ofTexts ["data"] }
    let set : Deed := .request "A" (.putPreset "D" "1" "<preset/>")
    let d := ((set.run s).run { clock := 1000 }).2
    let e : Event := {
      clock := 2000
      deed := .request "A" (.addRecent "D" "<recent/>")
      outcome := .ok () }
    let d' := ((e.deed.run s).run (d.atTime e.clock)).2
    Account.presets s "A" (some "1000") d' = .ok (.unchanged { value := 1000 })
      ∧ (∀ u, Account.recents s "A" (some "0") d' ≠ .ok (.unchanged u))
      ∧ ∀ u, Account.full s "A" (some "1000") d' ≠ .ok (.unchanged u) := by
  intro s set d e d'
  have houtcome : ((e.deed.run s).run (d.atTime e.clock)).1 = .ok () := by decide
  obtain ⟨save?, hchange, -⟩ := set.storesList_run s { clock := 1000 }
  have hahead := hchange.isAhead (Disk.isAhead_empty (by decide)) (by decide : (1000 : Int) < 2000)
  have hrun : Run s d [e] d' := .single hahead houtcome
  have hroom : s.directory.IsShort ∧ "A".utf8ByteSize ≤ 255 ∨ d.HasDirectory s.accountsPath :=
    .inl (by simp +decide [s, Path.IsShort, Path.ofTexts])
  obtain ⟨hlists, hfull⟩ := tokens_follow_lists s "A" hrun
  obtain ⟨hpresets, hrecents⟩ := hlists hroom
  have hpresets' := hpresets (some "1000") (.unchanged { value := 1000 }) (by decide)
  have hrecents' := hrecents (some "0") (.unchanged { value := 0 }) (by decide)
  have hfull' := hfull (some "1000") (.unchanged { value := 1000 }) (by decide)
  have hstored : e.stored? = some ("A", .recents) := rfl
  refine ⟨(hpresets' _).2 ⟨rfl, by simp [hstored]⟩, fun u hu => ?_, fun u hu => ?_⟩
  · exact ((hrecents' u).1 hu).2 e (by simp) hstored
  · exact ((hfull' u).1 hu).2 e (by simp) .recents hstored

/-- A name of many letters. -/
def Identifier.ofLetters (n : Nat) (h : 2 < n) : Identifier where
  text := String.ofList (List.replicate n 'A')
  valid := by
    have hne {other : String} (hother : other.toList.length ≤ 2) :
        String.ofList (List.replicate n 'A') ≠ other := by
      rintro rfl
      rw [String.toList_ofList, List.length_replicate] at hother
      omega
    refine ⟨hne (by decide), hne (by decide), hne (by decide), ?_⟩
    rw [String.toList_ofList, List.all_replicate]
    simp +decide [isAllowed]

/-- No letter is the character zero. -/
theorem Identifier.hasZero_ofLetters {n : Nat} (h : 2 < n) :
    (Name.text (ofLetters n h).text).hasZero = false := by
  rw [Name.hasZero, ofLetters, String.toList_ofList, List.any_replicate]
  simp +decide

/-- **A name that is too long** for the disk loses the token it had before there was a directory of
accounts: its presets can no longer be asked for once the first account has stored something. -/
theorem long_names_lose_tokens :
    let s : Store := { directory := Path.ofTexts ["data"] }
    let account := Identifier.ofLetters 300 (by decide)
    let d : Disk := { clock := 0 }
    let e : Event := {
      clock := 1000
      deed := .request "B" (.putPreset "D" "1" "<preset/>")
      outcome := .ok () }
    let d' := ((e.deed.run s).run (d.atTime e.clock)).2
    Run s d [e] d' ∧ e.stored? ≠ some (account.text, .presets)
      ∧ (∃ body, Account.presets s account.text none d = .ok (.fresh { value := 0 } body))
      ∧ ∀ u, Account.presets s account.text (some "0") d' ≠ .ok (.unchanged u) := by
  intro s account d e d'
  have houtcome : ((e.deed.run s).run (d.atTime e.clock)).1 = .ok () := by decide
  have hahead : (d.atTime e.clock).IsAhead := Disk.isAhead_empty (by decide)
  have hrun : Run s d [e] d' := .single hahead houtcome
  have hlong : ¬account.IsShort := by decide +kernel
  have husable : (s.resourcePath account .presets).isUnusable = false := by
    have hpath : s.resourcePath account .presets
        = [.text "data", .text "accounts", .text account.text, .text "Presets.xml"] := rfl
    have hsize : Path.size [.text "data", .text "accounts", .text account.text,
        .text "Presets.xml"] ≤ 4095 := by decide +kernel
    rw [hpath, Path.isUnusable, Bool.or_eq_false_iff]
    refine ⟨decide_eq_false (Nat.not_lt.2 hsize), ?_⟩
    simp +decide [account, Identifier.hasZero_ofLetters]
  have hlook (r : Resource) : d.look (s.resourcePath account r) = .error .notFound := by
    rw [Disk.look_of_usable ((Store.isUnusable_resourcePath r).trans husable)]
    rfl
  have htoken : s.resourceToken account .presets d = .ok { value := 0 } := by
    rw [Store.resourceToken, Store.token_eq_look, hlook]
  have hpresets : Account.storedPresets s account d = .ok [] := by
    rw [Account.storedPresets, Store.presets, Store.read_eq_look, hlook]
    rfl
  have hsources : Account.storedSources s account d = .ok [] := by
    rw [Account.storedSources, Store.sources, Store.read_eq_look, hlook]
    rfl
  refine ⟨hrun, ?_, ⟨Dialect.document (Dialect.presets [] []), ?_⟩, fun u hu => ?_⟩
  · have hne : account.text ≠ "B" := by decide +kernel
    simpa [Event.stored?, e, Deed.list?, Account.Operation.list?, Except.toOption] using hne.symm
  · rw [Account.presets_eq_answer]
    exact Account.answer_none htoken hpresets hsources
  · -- Now that there is a directory of accounts, the length of the name is in the way.
    obtain ⟨save?, hchange, hlist⟩ := e.deed.storesList_run s (d.atTime e.clock)
    rw [houtcome] at hlist
    have hsaved : save?.isSome := by
      cases save? with
      | none => cases hlist
      | some save => rfl
    rw [Account.presets_eq_answer] at hu
    have ht := Account.token_of_answer hu
    have hd' := hchange.hasDirectory_accountsPath hsaved
    exact hlong (Store.isShort_accountPath.1 (Store.isShort_of_resourceToken hd' ht)).2

/-! ## What a good token misses -/

/-- **Lists that have not changed are the same.** Whoever was given a document of presets and is
told later, for its token, that nothing has changed would be given the document of the same presets,
with the sources that are configured then; and just the same document if the sources were not stored
in between. The same holds of recents. -/
theorem unchanged_lists_are_the_same (s : Store) (account : String) {events : List Event}
    {d d' : Disk} (hrun : Run s d events d') :
    (∀ presented t u body, Account.presets s account presented d = .ok (.fresh t body) →
      Account.presets s account (some t.text) d' = .ok (.unchanged u) →
      ∃ id : Identifier, id.text = account ∧ ∃ presets sources sources',
        (Account.storedPresets s id d = .ok presets ∧ Account.storedSources s id d = .ok sources
          ∧ body = Dialect.document (Dialect.presets sources presets))
        ∧ (Account.storedPresets s id d' = .ok presets
          ∧ Account.storedSources s id d' = .ok sources'
          ∧ Account.presets s account none d'
            = .ok (.fresh t (Dialect.document (Dialect.presets sources' presets))))
        ∧ ((∀ e ∈ events, e.stored? ≠ some (account, .sources)) →
          Account.presets s account none d' = .ok (.fresh t body)))
    ∧ ∀ presented t u body, Account.recents s account presented d = .ok (.fresh t body) →
      Account.recents s account (some t.text) d' = .ok (.unchanged u) →
      ∃ id : Identifier, id.text = account ∧ ∃ recents sources sources',
        (Account.storedRecents s id d = .ok recents ∧ Account.storedSources s id d = .ok sources
          ∧ body = Dialect.document (Dialect.recents sources recents))
        ∧ (Account.storedRecents s id d' = .ok recents
          ∧ Account.storedSources s id d' = .ok sources'
          ∧ Account.recents s account none d'
            = .ok (.fresh t (Dialect.document (Dialect.recents sources' recents))))
        ∧ ((∀ e ∈ events, e.stored? ≠ some (account, .sources)) →
          Account.recents s account none d' = .ok (.fresh t body)) := by
  refine ⟨fun presented t u body hfresh hunchanged => ?_,
    fun presented t u body hfresh hunchanged => ?_⟩
  · obtain ⟨id, rfl⟩ := Account.exists_text_eq hfresh
    rw [Account.presets_eq_answer] at hfresh hunchanged
    simp only [Account.presets_eq_answer]
    exact ⟨id, rfl, hrun.fresh_then_unchanged Account.storedPresets_congr hfresh hunchanged⟩
  · obtain ⟨id, rfl⟩ := Account.exists_text_eq hfresh
    rw [Account.recents_eq_answer] at hfresh hunchanged
    simp only [Account.recents_eq_answer]
    exact ⟨id, rfl, hrun.fresh_then_unchanged Account.storedRecents_congr hfresh hunchanged⟩

/-- After something was played the presets are still what they were, also as a document. -/
theorem unchanged_presets_after_playing :
    let s : Store := { directory := Path.ofTexts ["data"] }
    let d : Disk := { clock := 0 }
    let e : Event := {
      clock := 1000
      deed := .request "A" (.addRecent "D" "<recent/>")
      outcome := .ok () }
    let d' := ((e.deed.run s).run (d.atTime e.clock)).2
    let body := Dialect.document (Dialect.presets [] [])
    Account.presets s "A" none d = .ok (.fresh { value := 0 } body)
      ∧ Account.presets s "A" none d' = .ok (.fresh { value := 0 } body) := by
  intro s d e d' body
  have houtcome : ((e.deed.run s).run (d.atTime e.clock)).1 = .ok () := by decide
  have hahead : (d.atTime e.clock).IsAhead := Disk.isAhead_empty (by decide)
  have hrun : Run s d [e] d' := .single hahead houtcome
  have hfresh : Account.presets s "A" none d = .ok (.fresh { value := 0 } body) := by
    decide
  have hunchanged : Account.presets s "A" (some (Token.text { value := 0 })) d'
      = .ok (.unchanged { value := 0 }) := by
    decide
  obtain ⟨_, _, _, _, _, _, _, hsame⟩ :=
    (unchanged_lists_are_the_same s "A" hrun).1 none _ _ body hfresh hunchanged
  have hstored : e.stored? = some ("A", .recents) := rfl
  exact ⟨hfresh, hsame (by simp [hstored])⟩

/-- Documents are told apart by the characters of their roots. -/
theorem Dialect.document_eq_iff {e e' : Markup.Element Markup.Attributes} :
    document e = document e' ↔ e.toNode.write none 0 = e'.toNode.write none 0 := by
  rw [← String.toList_inj]
  simp [document, Markup.Document.render]

/-- **A document can change under the same token**: when a source is configured that serves a stored
preset, the document of the presets shows it, and its token does not tell. -/
theorem sources_change_documents :
    let s : Store := { directory := Path.ofTexts ["data"] }
    let preset : Preset := { item := { id := "1", source := { kind := "TUNEIN" } } }
    let source : Source := { id := "1", key := { kind := "TUNEIN" } }
    let d := ((Save.run s (.presets "A" [preset])).run { clock := 1000 }).2
    let e : Event := { clock := 2000, deed := .save (.sources "A" [source]), outcome := .ok () }
    let d' := ((e.deed.run s).run (d.atTime e.clock)).2
    Run s d [e] d'
      ∧ ∃ before after, Account.presets s "A" none d = .ok (.fresh { value := 1000 } before)
        ∧ Account.presets s "A" (some "1000") d' = .ok (.unchanged { value := 1000 })
        ∧ Account.presets s "A" none d' = .ok (.fresh { value := 1000 } after)
        ∧ after ≠ before := by
  intro s preset source d e d'
  let id : Identifier := { text := "A", valid := by decide }
  have hsaved : ((Save.run s (.presets "A" [preset])).run { clock := 1000 }).1 = .ok () := by
    decide
  have houtcome : ((e.deed.run s).run (d.atTime e.clock)).1 = .ok () := by decide
  have hpresets : s.Change { clock := 1000 } (some (.presets id.text [preset])) d :=
    Save.change_of_ok hsaved
  have hsources : s.Change (d.atTime 2000) (some (.sources id.text [source])) d' :=
    Save.change_of_ok houtcome
  have hshort : (s.accountPath id).IsShort := by
    simp +decide [s, id, Store.accountPath, Store.accountsPath, Path.ofTexts, Path.IsShort]
  have hahead := hpresets.isAhead (Disk.isAhead_empty (by decide)) (by decide : (1000 : Int) < 2000)
  have hrun : Run s d [e] d' := .single hahead houtcome
  -- The presets are stored once, the sources only by the event.
  have hkept : d'.look (s.resourcePath id .presets) = d.look (s.resourcePath id .presets) :=
    hsources.look_kept hshort (by decide)
  have htoken : s.resourceToken id .presets d = .ok { value := 1000 } :=
    Account.resourceToken_saved hpresets rfl
  have htoken' : s.resourceToken id .presets d' = .ok { value := 1000 } :=
    (Store.token_congr hkept).trans htoken
  have hstored : Account.storedPresets s id d = .ok [preset] := by
    rw [Account.storedPresets, hpresets.presets_saved]
    rfl
  have hstored' : Account.storedPresets s id d' = .ok [preset] :=
    (Account.storedPresets_congr hkept).trans hstored
  have hnone : Account.storedSources s id d = .ok [] := by
    rw [Account.storedSources_congr (hpresets.look_kept hshort (by decide))]
    decide
  have hsome : Account.storedSources s id d' = .ok [source] := by
    rw [Account.storedSources, hsources.sources_saved]
    rfl
  have hbefore : Account.presets s id.text none d
      = .ok (.fresh { value := 1000 } (Dialect.document (Dialect.presets [] [preset]))) := by
    rw [Account.presets_eq_answer]
    exact Account.answer_none htoken hstored hnone
  have hunchanged : Account.presets s id.text (some (Token.text { value := 1000 })) d'
      = .ok (.unchanged { value := 1000 }) := by
    rw [Account.presets_eq_answer]
    exact Account.answer_eq_unchanged_iff.2 ⟨htoken', rfl⟩
  have hafter : Account.presets s id.text none d'
      = .ok (.fresh { value := 1000 } (Dialect.document (Dialect.presets [source] [preset]))) := by
    rw [Account.presets_eq_answer]
    exact Account.answer_none htoken' hstored' hsome
  refine ⟨hrun, _, _, hbefore, hunchanged, hafter, mt Dialect.document_eq_iff.1 ?_⟩
  decide +kernel

end SpeakerHub
