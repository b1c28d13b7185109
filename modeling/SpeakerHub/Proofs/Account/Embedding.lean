import SpeakerHub.Proofs.Account.Requests
import SpeakerHub.Proofs.Account.Serving
import SpeakerHub.Proofs.Store.SourceIds

/-! # Which source is shown

A request names a source by its id. The item is stored with the key of that source, and whenever it
is shown, the first source with this key is shown in it. So an id means the source that has it, as
long as no source in front of that one has the same id or the same key.

* **`Dialect.embedded`** — the sources that are shown in an element.
* **`Sources.Shows`** — what is shown for an id; **`Sources.shows_servingSource`** — the two
  look-ups, one behind the other.
* **`Account.Showing`** — an entry in the answer to a request, and in all that is read later.
* **`Account.AnswersWith`** — a request whose answer shows one source;
  **`Account.answersWith_of_saved`** — which one that is.
* **`ids_mean_sources`** — presets and recents are shown with the sources of their ids.
* **`keys_are_shared`** — sources that cannot be asked for. -/

namespace SpeakerHub

open Markup

/-! ## Sources in elements -/

namespace Dialect

/-- The sources that are shown in an element. -/
def embedded (e : Element Attributes) : List (Node Attributes) :=
  e.children.filter fun
    | .element name .. => name == "source"
    | .text _ => false

variable {front : List (Element Attributes)} {sources : List Source} {item : ContentItem}

/-- The source that serves an item is shown among other elements. -/
theorem embedded_withSource {e : Element Attributes} (he : e.children = [])
    (hfront : front.filter (·.name == "source") = []) (updatedOn : String) :
    embedded (e.append (withSource front sources item updatedOn))
      = (servingSource sources item).map Element.toNode := by
  have hnodes (xs : List (Element Attributes)) :
      embedded (Element.append e xs) = (xs.filter (·.name == "source")).map Element.toNode := by
    rw [embedded, Element.append, he, List.nil_append, List.filter_map]
    rfl
  have hserving : (servingSource sources item).filter (·.name == "source")
      = servingSource sources item := by
    rw [List.filter_eq_self]
    intro x hx
    rw [(isWellFormed_servingSource x hx).2, beq_self_eq_true]
  have hlast : [Element.leaf "updatedOn" updatedOn].filter (·.name == "source") = [] := by
    simp
  rw [hnodes, withSource, List.filter_append, List.filter_append, hfront, hserving, hlast,
    List.nil_append, List.append_nil]

/-- A preset shows the source that serves it. -/
theorem embedded_preset (sources : List Source) (p : Preset) :
    embedded (preset sources p) = (servingSource sources p.item).map Element.toNode :=
  embedded_withSource rfl rfl _

/-- A recent shows the source that serves it. -/
theorem embedded_recent (sources : List Source) (r : Recent) :
    embedded (recent sources r) = (servingSource sources r.item).map Element.toNode :=
  embedded_withSource rfl rfl _

end Dialect

/-! ## From an id to a key, and back to a source -/

/-- **What is shown for an id**, where some sources are configured. -/
structure Sources.Shows (sources : List Source) (id : String)
    (shown : List (Node Attributes)) : Prop where
  /-- If a source has the id, it is the first source with the key of the first one that has it. -/
  known : ∀ x ∈ sources, x.id = id → ∃ first found, sources.find? (·.id == id) = some first
    ∧ sources.find? (·.key == first.key) = some found ∧ shown = [(Dialect.source found).toNode]
  /-- This is the source itself, unless one in front of it has its id or its key. -/
  itself : ∀ front x back, sources = front ++ x :: back → x.id = id →
    (∀ y ∈ front, y.id ≠ x.id ∧ y.key ≠ x.key) → shown = [(Dialect.source x).toNode]
  /-- If no source has the id, there is none, unless a source has an empty key. -/
  unknown : (∀ x ∈ sources, x.id ≠ id) → (∀ x ∈ sources, x.key ≠ {}) → shown = []

namespace Sources

/-- The first of some sources that meets a test is there if one of them meets it. -/
theorem exists_find {sources : List Source} {p : Source → Bool} {x : Source} (hx : x ∈ sources)
    (h : p x = true) : ∃ y, sources.find? p = some y :=
  Option.isSome_iff_exists.1 (List.find?_isSome.2 ⟨x, hx, h⟩)

/-- It is the one that no other one in front of it keeps from that. -/
theorem find_append_cons {front back : List Source} {p : Source → Bool} {x : Source}
    (hfront : ∀ y ∈ front, p y = false) (h : p x = true) :
    (front ++ x :: back).find? p = some x := by
  rw [List.find?_eq_some_iff_append]
  exact ⟨h, front, back, rfl, fun y hy => by simp [hfront y hy]⟩

/-- **The key of an id leads back** to what the id means. -/
theorem shows_servingSource (sources : List Source) (id : String) {item : ContentItem}
    (h : item.source = Account.keyOfSource sources id) :
    Shows sources id ((Dialect.servingSource sources item).map Element.toNode) := by
  have hserves : (fun x : Source => x.serves item)
      = (·.key == Account.keyOfSource sources id) := by
    funext x
    rw [Source.serves, h]
  -- The id leads to a source, its key to the one that is shown.
  have hserving {first found : Source} (hfirst : sources.find? (·.id == id) = some first)
      (hfound : sources.find? (·.key == first.key) = some found) :
      (Dialect.servingSource sources item).map Element.toNode
        = [(Dialect.source found).toNode] := by
    have hkey : Account.keyOfSource sources id = first.key := by
      rw [Account.keyOfSource, hfirst]
    rw [Dialect.servingSource, hserves, hkey, hfound]
    rfl
  refine ⟨fun x hx hid => ?_, fun front x back hsources hid hfront => ?_,
    fun hids hkeys => ?_⟩
  · obtain ⟨first, hfirst⟩ := exists_find hx (p := (·.id == id)) (beq_iff_eq.2 hid)
    obtain ⟨found, hfound⟩ := exists_find (List.mem_of_find?_eq_some hfirst)
      (p := (·.key == first.key)) (beq_self_eq_true _)
    exact ⟨first, found, hfirst, hfound, hserving hfirst hfound⟩
  · -- Nothing in front of the source stands in the way of either look-up.
    have hfirst : sources.find? (·.id == id) = some x := by
      rw [hsources]
      refine find_append_cons (fun y hy => ?_) (beq_iff_eq.2 hid)
      rw [beq_eq_false_iff_ne, ← hid]
      exact (hfront y hy).1
    refine hserving hfirst ?_
    rw [hsources]
    refine find_append_cons (fun y hy => ?_) (beq_self_eq_true _)
    rw [beq_eq_false_iff_ne]
    exact (hfront y hy).2
  · -- Without a source the key is empty, and no source has this one.
    have hnone : sources.find? (·.id == id) = none := by
      rw [List.find?_eq_none]
      exact fun x hx => by simpa using hids x hx
    have hkey : Account.keyOfSource sources id = {} := by
      rw [Account.keyOfSource, hnone]
    have hfound : sources.find? (·.key == Account.keyOfSource sources id) = none := by
      rw [hkey, List.find?_eq_none]
      exact fun x hx => by simpa using hkeys x hx
    rw [Dialect.servingSource, hserves, hfound]
    rfl

end Sources

namespace Account

/-! ## Entries that are shown -/

/-- **An entry is shown** in the answer to the request that stored it, and in the same way in
whatever is read later, as long as it is stored and the sources are not changed. -/
structure Showing {α : Type} (s : Store) (account : Identifier)
    (stored : Disk → Except Error (List α))
    (read : Option String → Disk → Except Error Conditional) (child : α → Element Attributes)
    (list : List α → Element Attributes) (entry : α) (answer : Written) (d : Disk) : Prop where
  /-- The answer is the entry as a document of its own. -/
  body : answer.body = Dialect.document (child entry)
  /-- The entry is stored. -/
  mem : ∃ entries, stored d = .ok entries ∧ entry ∈ entries
  /-- It stands in the list that is read. -/
  later : ∀ d' entries,
    d'.content (s.resourcePath account .sources) = d.content (s.resourcePath account .sources) →
    stored d' = .ok entries → entry ∈ entries →
    (child entry).toNode ∈ (list entries).children
      ∧ ∃ t, ∀ presented, presented ≠ some t.text →
        read presented d' = .ok (.fresh t (Dialect.document (list entries)))

variable {s : Store} {account : Identifier} {d d' : Disk}

/-- The sources of an account depend on the content of one file. -/
theorem storedSources_of_content
    (h : d'.content (s.resourcePath account .sources)
      = d.content (s.resourcePath account .sources)) :
    storedSources s account d' = storedSources s account d := by
  rw [storedSources, storedSources, Store.sources, Store.sources, Store.read, Store.read, h]

/-- **An entry that was saved** is shown from then on. -/
theorem showing_of_saved {α : Type} {resource : Resource}
    {stored : Disk → Except Error (List α)}
    {element : List Source → List α → Element Attributes} {child : α → Element Attributes}
    {save : Save} {sources : List Source} {entries : List α} {entry : α}
    (hsaved : s.Change d (some save) d') (hlist : save.list? = some (account.text, resource))
    (hne : resource ≠ .sources) (hsources : storedSources s account d = .ok sources)
    (htoken : ∀ d'' xs, stored d'' = .ok xs → ∃ t, s.resourceToken account resource d'' = .ok t)
    (hchild : ∀ xs, ∀ x ∈ xs, (child x).toNode ∈ (element sources xs).children)
    (hentries : stored d' = .ok entries) (hentry : entry ∈ entries) :
    Showing s account stored (answer s account resource stored element) child (element sources)
      entry
      { token := .ofNanoseconds d.now, body := Dialect.document (child entry) } d' where
  body := rfl
  mem := ⟨entries, hentries, hentry⟩
  later d'' xs hcontent hxs hmem := by
    have hsources'' : storedSources s account d'' = .ok sources :=
      (storedSources_of_content hcontent).trans
        ((storedSources_saved hsaved hlist hne).trans hsources)
    obtain ⟨t, ht⟩ := htoken d'' xs hxs
    exact ⟨hchild xs entry hmem, t, fun presented hpresented =>
      answer_eq_fresh_iff.2 ⟨ht, hpresented, xs, sources, hxs, hsources'', rfl⟩⟩

/-- Every preset stands in the list of presets. -/
theorem mem_children_presets {sources : List Source} {presets : List Preset} {p : Preset}
    (h : p ∈ presets) :
    (Dialect.preset sources p).toNode ∈ (Dialect.presets sources presets).children :=
  List.mem_map_of_mem (List.mem_map_of_mem h)

/-- Every recent stands in the list of recents. -/
theorem mem_children_recents {sources : List Source} {recents : List Recent} {r : Recent}
    (h : r ∈ recents) :
    (Dialect.recent sources r).toNode ∈ (Dialect.recents sources recents).children :=
  List.mem_map_of_mem (List.mem_map_of_mem (List.mem_mergeSort.2 h))

/-- A preset that is put behind a button has the key of the posted id. -/
theorem source_withPreset (number : Nat) (request : PresetRequest) (sources : List Source)
    (now : String) (presets : List Preset) :
    (withPreset number request sources now presets).1.item.source
      = keyOfSource sources request.sourceId := by
  obtain ⟨front, old?, back, -, -, -, -, hupsert⟩ := upsert_eq _ _ _ presets
  rw [withPreset, hupsert]
  cases old? <;> rfl

/-! ## Posting an id -/

/-- A button is given something to play if everything can be read and the list can be saved. -/
theorem run_putPreset {s : Store} {account id : Identifier} {device button body : String}
    {number : Nat} {request : PresetRequest} {sources : List Source} {stored : List Preset}
    {d : Disk} (hnumber : Numeral.unsigned? UInt32.size button = some number)
    (hrequest : PresetRequest.ofText body = .ok request)
    (hdevice : Identifier.ofText device = .ok id)
    (hsources : storedSources s account d = .ok sources)
    (hstored : storedPresets s account d = .ok stored) :
    let after := withPreset number request sources (Timestamp.ofMilliseconds d.clock) stored
    let save : Save := .presets account.text after.2
    ((save.run s).run d).1 = .ok () →
      (putPreset s account.text device button body).run d = (.ok
        { token := .ofNanoseconds d.now
          body := Dialect.document (Dialect.preset sources after.1) }, ((save.run s).run d).2) := by
  intro after save hsaved
  have hsave : s.savePresets account after.2 = save.run s := by
    rw [Save.run, ofText_text]
    rfl
  have htoken := resourceToken_saved (Save.change_of_ok hsaved)
    (rfl : save.list? = some (account.text, .presets))
  rw [putPreset, hnumber]
  simp only [hrequest, hdevice, ofText_text, Action.ok_bind]
  rw [Action.run_look_bind_ok hsources, Action.run_get_bind, Action.run_look_bind_ok hstored, hsave,
    Action.run_bind_ok (Prod.ext hsaved rfl), Action.run_look_bind_ok htoken]
  rfl

/-- What is saved as the sources of an account is there, if all have ids, and the presets stay. -/
theorem stored_of_sources {sources : List Source} {presets : List Preset}
    (hsaved : s.Change d (some (.sources account.text sources)) d')
    (hids : ∀ x ∈ sources, x.id ≠ "") (hpresets : storedPresets s account d = .ok presets) :
    storedSources s account d' = .ok sources ∧ storedPresets s account d' = .ok presets := by
  have hlist : (Save.sources account.text sources).list? = some (account.text, .sources) := rfl
  have hshort : (s.accountPath account).IsShort :=
    (Path.isShort_append.1 (Disk.isShort_of_look (hsaved.look_saved hlist))).1
  have hother : (some (Save.sources account.text sources)).bind Save.list?
      ≠ some (account.text, .presets) := by
    rw [Option.bind_some, hlist]
    simp
  constructor
  · rw [storedSources, hsaved.sources_saved, Sources.assignIds, Sources.assignFrom_of_ids hids]
    rfl
  · rw [storedPresets_congr (hsaved.look_kept hshort hother), hpresets]

/-- **A button is given something to play, and the answer shows one source**, where these are the
sources that the account has. -/
def AnswersWith (s : Store) (account device button body : String) (d : Disk)
    (sources : List Source) (shown : Source) : Prop :=
  ∃ (id : Identifier) (written : Written) (preset : Preset) (d' : Disk),
    id.text = account ∧ storedSources s id d = .ok sources
    ∧ (putPreset s account device button body).run d = (.ok written, d')
    ∧ written.body = Dialect.document (Dialect.preset sources preset)
    ∧ Dialect.embedded (Dialect.preset sources preset) = [(Dialect.source shown).toNode]

/-- Where sources were saved, the answer to a request shows the first one with the key of its id. -/
theorem answersWith_of_saved {id : Identifier} {device button body : String} {number : Nat}
    {request : PresetRequest} {sources : List Source} {presets : List Preset} {shown : Source}
    (hnumber : Numeral.unsigned? UInt32.size button = some number)
    (hrequest : PresetRequest.ofText body = .ok request)
    (hdevice : Identifier.ofText device = .ok id)
    (hsaved : s.Change d (some (.sources account.text sources)) d')
    (hids : ∀ x ∈ sources, x.id ≠ "") (hpresets : storedPresets s account d = .ok presets)
    (hshown : sources.find? (·.key == keyOfSource sources request.sourceId) = some shown) :
    let after := withPreset number request sources (Timestamp.ofMilliseconds d'.clock) presets
    (((Save.presets account.text after.2).run s).run d').1 = .ok () →
      AnswersWith s account.text device button body d' sources shown := by
  intro after hsave
  obtain ⟨hsources, hpresets'⟩ := stored_of_sources hsaved hids hpresets
  refine ⟨account, _, after.1, _, rfl, hsources,
    run_putPreset hnumber hrequest hdevice hsources hpresets' hsave, rfl, ?_⟩
  have hserves : (fun x : Source => x.serves after.1.item)
      = (·.key == keyOfSource sources request.sourceId) := by
    funext x
    rw [Source.serves, source_withPreset]
  rw [Dialect.embedded_preset, Dialect.servingSource, hserves, hshown]
  rfl

end Account

/-- **An id means its source.** Whenever a button was given something to play, or something was
played, the item is shown, in the answer and in whatever is read while the sources are the same,
with just one source if a source has the posted id: the first one with the key of the first one that
has it. That is the source itself unless one in front of it has its id or its key, since items are
stored with keys and not with ids. If no source has the id and none has an empty key, the item is
shown without a source. -/
theorem ids_mean_sources (s : Store) (account device body : String) (d d' : Disk)
    (written : Account.Written) :
    (∀ button, (Account.putPreset s account device button body).run d = (.ok written, d') →
      ∃ (id : Identifier) (request : PresetRequest) (sources : List Source) (preset : Preset),
        id.text = account ∧ PresetRequest.ofText body = .ok request
        ∧ Account.storedSources s id d = .ok sources
        ∧ Account.Showing s id (Account.storedPresets s id) (Account.presets s account)
          (Dialect.preset sources) (Dialect.presets sources) preset written d'
        ∧ Sources.Shows sources request.sourceId
          (Dialect.embedded (Dialect.preset sources preset)))
    ∧ ((Account.addRecent s account device body).run d = (.ok written, d') →
      ∃ (id : Identifier) (request : RecentRequest) (sources : List Source) (recent : Recent),
        id.text = account ∧ RecentRequest.ofText body = .ok request
        ∧ Account.storedSources s id d = .ok sources
        ∧ Account.Showing s id (Account.storedRecents s id) (Account.recents s account)
          (Dialect.recent sources) (Dialect.recents sources) recent written d'
        ∧ Sources.Shows sources request.sourceId
          (Dialect.embedded (Dialect.recent sources recent))) := by
  constructor
  · intro button hrun
    have hcases := Account.putsPreset s account device button body d
    rw [hrun] at hcases
    cases hcases with
    | @stored number request _ id sources stored _ _ _ hrequest _ haccount hsources hstored h =>
      obtain rfl := Identifier.ofText_eq_ok_iff.1 haccount
      cases h with
      | done hsaved =>
        let after :=
          Account.withPreset number request sources (Timestamp.ofMilliseconds d.clock) stored
        obtain ⟨front, old?, back, hreplaced⟩ := Account.replaced_withPreset number request sources
          (Timestamp.ofMilliseconds d.clock) stored
        refine ⟨id, request, sources, after.1, rfl, hrequest, hsources, ?_, ?_⟩
        · rw [Account.presets_eq_answer]
          exact Account.showing_of_saved hsaved rfl nofun hsources
            (fun d'' xs hxs => Account.exists_token_of_orEmpty hxs)
            (fun xs p hp => Account.mem_children_presets hp)
            (congrArg Account.orEmpty hsaved.presets_saved) hreplaced.entry_mem
        · rw [Dialect.embedded_preset]
          exact Sources.shows_servingSource sources request.sourceId
            (Account.source_withPreset number request sources _ stored)
  · intro hrun
    have hcases := Account.addsRecent s account device body d
    rw [hrun] at hcases
    cases hcases with
    | @stored request deviceId id sources stored _ _ hrequest _ haccount hsources hstored h =>
      obtain rfl := Identifier.ofText_eq_ok_iff.1 haccount
      cases h with
      | done hsaved =>
        let seconds := (Timestamp.seconds? request.lastPlayedAt.toList).getD (d.clock / 1000)
        let after := Account.withRecent deviceId request sources seconds stored
        obtain ⟨front, old?, back, hreplaced⟩ :=
          Account.replaced_withRecent deviceId request sources seconds stored
        refine ⟨id, request, sources, after.1, rfl, hrequest, hsources, ?_, ?_⟩
        · rw [Account.recents_eq_answer]
          exact Account.showing_of_saved hsaved rfl nofun hsources
            (fun d'' xs hxs => Account.exists_token_of_orEmpty hxs)
            (fun xs r hr => Account.mem_children_recents hr)
            (congrArg Account.orEmpty hsaved.recents_saved) hreplaced.entry_mem
        · rw [Dialect.embedded_recent]
          exact Sources.shows_servingSource sources request.sourceId hreplaced.entry_same.1

/-- The second of two sources is shown for its id, and nothing is shown for an id without source. -/
theorem second_source_is_shown :
    let s : Store := { directory := Path.ofTexts ["data"] }
    let first : Source := { id := "1", key := { kind := "TUNEIN" } }
    let second : Source := { id := "2", key := { kind := "SPOTIFY" } }
    let d := ((Save.run s (.sources "A" [first, second])).run { clock := 1000 }).2
    Account.AnswersWith s "A" "D" "1" "<preset><sourceid>2</sourceid></preset>" d [first, second]
        second
      ∧ ∃ written recent d',
        (Account.addRecent s "A" "D" "<recent><sourceid>2</sourceid></recent>").run
            { clock := 1000 } = (.ok written, d')
        ∧ written.body = Dialect.document (Dialect.recent [] recent)
        ∧ Dialect.embedded (Dialect.recent [] recent) = [] := by
  intro s first second d
  let account : Identifier := { text := "A", valid := by decide }
  let id : Identifier := { text := "D", valid := by decide }
  constructor
  · have hsaved : s.Change { clock := 1000 } (some (.sources account.text [first, second])) d :=
      Save.change_of_ok (by decide)
    have hpresets : Account.storedPresets s account { clock := 1000 } = .ok [] := by
      decide
    have hids : ∀ x ∈ [first, second], x.id ≠ "" := by decide
    obtain ⟨hsources, hpresets'⟩ := Account.stored_of_sources hsaved hids hpresets
    have hnumber : Numeral.unsigned? UInt32.size "1" = some 1 := rfl
    have hposted : PresetRequest.ofText "<preset><sourceid>2</sourceid></preset>"
        = .ok { sourceId := "2", location := "", kind := "", name := "", containerArt := "" } := rfl
    have hdevice : Identifier.ofText "D" = .ok id := rfl
    have hrun :=
      Account.run_putPreset hnumber hposted hdevice hsources hpresets' (by decide)
    obtain ⟨a, request, sources, preset, haccount, hrequest, hstored, hshowing, hshows⟩ :=
      (ids_mean_sources s account.text "D" _ d _ _).1 "1" hrun
    obtain rfl : a = account := Key.text_inj.1 haccount
    obtain rfl := Except.ok.inj (hstored.symm.trans hsources)
    cases hrequest
    exact ⟨_, _, preset, _, rfl, hsources, hrun, hshowing.body,
      hshows.itself [first] second [] rfl rfl (by decide)⟩
  · have hadd : ((Account.addRecent s "A" "D" "<recent><sourceid>2</sourceid></recent>").run
        { clock := 1000 }).1.isOk := by decide
    obtain ⟨written, d', hadd⟩ := Action.exists_of_isOk hadd
    obtain ⟨a, request, sources, recent, haccount, hrequest, hstored, hshowing, hshows⟩ :=
      (ids_mean_sources s "A" "D" _ _ _ _).2 hadd
    obtain rfl : a = account := Key.text_inj.1 haccount
    have hnone : Account.storedSources s account { clock := 1000 } = .ok [] := by decide
    obtain rfl := Except.ok.inj (hstored.symm.trans hnone)
    exact ⟨written, recent, d', hadd, hshowing.body, hshows.unknown nofun nofun⟩

/-- **Ids do not tell sources apart that share a key**: the first one is shown for the id of the
second. So it is for an id that two sources have, and for an id that no source has a source is shown
whose key is empty. -/
theorem keys_are_shared :
    let s : Store := { directory := Path.ofTexts ["data"] }
    let tuneIn (id displayName : String) : Source :=
      { id, displayName, key := { kind := "TUNEIN" } }
    let spotify (id : String) : Source := { id, key := { kind := "SPOTIFY" } }
    let blank : Source := { id := "1" }
    let Answers (sources : List Source) (shown : Source) : Prop :=
      Account.AnswersWith s "A" "D" "1" "<preset><sourceid>2</sourceid></preset>"
        ((Save.run s (.sources "A" sources)).run { clock := 1000 }).2 sources shown
    Answers [tuneIn "1" "News", tuneIn "2" "Music"] (tuneIn "1" "News")
      ∧ Answers [tuneIn "2" "News", spotify "2"] (tuneIn "2" "News")
      ∧ Answers [blank] blank
      ∧ Dialect.source (tuneIn "1" "News") ≠ Dialect.source (tuneIn "2" "Music") := by
  intro s tuneIn spotify blank Answers
  let account : Identifier := { text := "A", valid := by decide }
  let id : Identifier := { text := "D", valid := by decide }
  let request : PresetRequest :=
    { sourceId := "2", location := "", kind := "", name := "", containerArt := "" }
  have hnumber : Numeral.unsigned? UInt32.size "1" = some 1 := rfl
  have hrequest : PresetRequest.ofText "<preset><sourceid>2</sourceid></preset>"
      = .ok request := rfl
  have hdevice : Identifier.ofText "D" = .ok id := rfl
  have hpresets : Account.storedPresets s account { clock := 1000 } = .ok [] := by decide
  have hanswers (sources : List Source) (shown : Source) (hids : ∀ x ∈ sources, x.id ≠ "")
      (hshown : sources.find? (·.key == Account.keyOfSource sources "2") = some shown) :
      let d := ((Save.run s (.sources account.text sources)).run { clock := 1000 }).2
      let after := Account.withPreset 1 request sources (Timestamp.ofMilliseconds d.clock) []
      ((Save.run s (.sources account.text sources)).run { clock := 1000 }).1 = .ok () →
        ((Save.run s (.presets account.text after.2)).run d).1 = .ok () →
        Answers sources shown := by
    intro d after hsources hafter
    exact Account.answersWith_of_saved hnumber hrequest hdevice (Save.change_of_ok hsources) hids
      hpresets hshown hafter
  refine ⟨?_, ?_, ?_, ?_⟩
  · exact hanswers _ _ (by decide) rfl (by decide) (by decide)
  · exact hanswers _ _ (by decide) rfl (by decide) (by decide)
  · exact hanswers _ _ (by decide) rfl (by decide) (by decide)
  · intro h
    have hattributes := congrArg Element.attributes h
    exact absurd hattributes (by decide)

end SpeakerHub
