import SpeakerHub.Disk.Path

/-! # Directory trees

Files and directories with the times at which they were last changed, in nanoseconds since 1970.

* **`Entry.find`** — the entry that a path leads to.
* **`Entry.alter`** — a tree in which one entry is changed, added or removed.
* **`Entry.makeDirectories`** — a tree in which a path leads to a directory. -/

namespace SpeakerHub

/-- Why something on the disk cannot be done. -/
inductive Fault where
  /-- Nothing is there. -/
  | notFound
  /-- The path leads through something that is no directory, or to a file where it should not. -/
  | notDirectory
  /-- There is a directory where a file should be. -/
  | isDirectory
  /-- A name or the whole path is too long, or holds the character zero. -/
  | badName
  deriving DecidableEq

/-- Something that has a name in a directory. -/
inductive Entry where
  /-- A file, and when it was last written. -/
  | file (content : ByteArray) (modified : Int)
  /-- A directory, and when it was made. -/
  | directory (entries : List (Name × Entry)) (modified : Int)

/-- What a directory holds. -/
abbrev Entries := List (Name × Entry)

namespace Entries

/-- The entry with a name. -/
def get? (entries : Entries) (name : Name) : Option Entry :=
  (entries.find? (·.1 == name)).map (·.2)

/-- The names in a directory, each once. -/
def names (entries : Entries) : List Name :=
  (entries.map (·.1)).eraseDups

/-- A directory has the names under which there is an entry. -/
theorem mem_names {entries : Entries} {name : Name} :
    name ∈ entries.names ↔ (entries.get? name).isSome := by
  simp [names, get?, List.find?_isSome]

/-- The entries with one of them replaced where it stands, or added behind the others. -/
def insert (name : Name) (entry : Entry) : Entries → Entries
  | [] => [(name, entry)]
  | (n, e) :: rest => if n = name then (n, entry) :: rest else (n, e) :: insert name entry rest

/-- The entries without those of a name. -/
def erase (name : Name) (entries : Entries) : Entries :=
  entries.filter (·.1 != name)

/-- The entries with the one of a name changed by `f`, which gets and gives `none` for no entry. -/
def alter (name : Name) (f : Option Entry → Option Entry) (entries : Entries) : Entries :=
  match f (entries.get? name) with
  | some e => entries.insert name e
  | none => entries.erase name

/-- Replacing an entry is seen under its name. -/
@[simp] theorem get?_insert_self (name : Name) (entry : Entry) (entries : Entries) :
    (entries.insert name entry).get? name = some entry := by
  induction entries with
  | nil => simp [insert, get?]
  | cons head rest ih =>
    obtain ⟨n, e⟩ := head
    by_cases h : n = name
    · simp [insert, get?, h]
    · simpa [insert, get?, h] using ih

/-- Replacing an entry is not seen under any other name. -/
theorem get?_insert_of_ne {name other : Name} (h : other ≠ name) (entry : Entry)
    (entries : Entries) : (entries.insert name entry).get? other = entries.get? other := by
  induction entries with
  | nil => simp [insert, get?, Ne.symm h]
  | cons head rest ih =>
    obtain ⟨n, e⟩ := head
    by_cases hn : n = name
    · subst hn
      simp [insert, get?, Ne.symm h]
    · by_cases ho : n = other
      · subst ho
        simp [insert, get?, h]
      · simpa [insert, get?, hn, ho] using ih

/-- Nothing is left under an erased name. -/
@[simp] theorem get?_erase_self (name : Name) (entries : Entries) :
    (entries.erase name).get? name = none := by
  simp [erase, get?, List.find?_eq_none]

/-- Erasing an entry is not seen under any other name. -/
theorem get?_erase_of_ne {name other : Name} (h : other ≠ name) (entries : Entries) :
    (entries.erase name).get? other = entries.get? other := by
  induction entries with
  | nil => rfl
  | cons head rest ih =>
    obtain ⟨n, e⟩ := head
    unfold erase get? at ih ⊢
    by_cases hn : n = name
    · subst hn
      simpa [Ne.symm h] using ih
    · by_cases ho : n = other
      · subst ho
        simp [h]
      · simpa [hn, ho] using ih

end Entries

namespace Entry

/-- When an entry was last changed. -/
def modified : Entry → Int
  | .file _ modified => modified
  | .directory _ modified => modified

/-- The entry with another time of its last change. -/
def touch (modified : Int) : Entry → Entry
  | .file content _ => .file content modified
  | .directory entries _ => .directory entries modified

/-- Whether an entry is a directory. -/
def isDirectory : Entry → Bool
  | .file .. => false
  | .directory .. => true

mutual

/-- An entry and everything in it, behind the path that is shown for it. -/
def paths (path : String) : Entry → List String
  | .file .. => [path]
  | .directory entries _ => (path ++ "/") :: allPaths path entries

/-- Some entries and everything in them, behind the path that is shown for the directory they are
in. -/
def allPaths (path : String) : List (Name × Entry) → List String
  | [] => []
  | (name, e) :: rest => e.paths (path ++ "/" ++ name.shown) ++ allPaths path rest

end

/-- The entry that a path leads to. -/
def find : Path → Entry → Except Fault Entry
  | [], e => .ok e
  | _ :: _, .file .. => .error .notDirectory
  | name :: path, .directory entries _ =>
    if name.isTooLong then .error .badName
    else
      match Entries.get? entries name with
      | some e => Entry.find path e
      | none => .error .notFound

/-- The tree with what a path leads to changed by `f`, which gets and gives `none` for no entry. A
path that leads through no directory changes nothing. -/
def alter (f : Option Entry → Option Entry) : Path → Entry → Entry
  | [], e => (f (some e)).getD e
  | _ :: _, .file content modified => .file content modified
  | [name], .directory entries modified => .directory (Entries.alter name f entries) modified
  | name :: next :: path, .directory entries modified =>
    .directory (Entries.alter name (fun e? => e?.map (alter f (next :: path))) entries) modified

/-- The tree in which a path leads to a directory, made at a time where it is missing, and what is
in the way of that. What comes in front of a name that is too long is made nevertheless. -/
def makeDirectories (now : Int) : Path → Entry → Except Fault Unit × Entry
  | [], .directory entries modified => (.ok (), .directory entries modified)
  | _, .file content modified => (.error .notDirectory, .file content modified)
  | name :: path, .directory entries modified =>
    if name.isTooLong then (.error .badName, .directory entries modified)
    else
      let e := (Entries.get? entries name).getD (.directory [] now)
      let (result, e) := makeDirectories now path e
      (result, .directory (Entries.insert name e entries) modified)

end Entry

end SpeakerHub
