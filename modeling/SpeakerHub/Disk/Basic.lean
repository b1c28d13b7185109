import SpeakerHub.Disk.Entry

/-! # The disk

A directory tree and a clock. Whatever is written carries the reading of the clock.

* **`Disk.find`**, **`Disk.content`**, **`Disk.directories`** — what is there.
* **`Disk.makeDirectories`**, **`Disk.put`**, **`Disk.rename`**, **`Disk.removeTree`** — the steps
  of which all changes are made.
* **`Disk.remove`**, **`Disk.touch`**, **`Disk.listing`** — what others do on the disk. -/

namespace SpeakerHub

/-- A directory tree and a clock. -/
structure Disk where
  /-- The directory that all paths are relative to. -/
  root : Entry := .directory [] 0
  /-- The time in milliseconds since 1970. -/
  clock : Int

namespace Disk

/-- The reading of the clock in nanoseconds. -/
def now (d : Disk) : Int :=
  1000000 * d.clock

/-! ## Reading -/

/-- The entry that a path leads to. -/
def find (d : Disk) (path : Path) : Except Fault Entry :=
  if path.isUnusable then .error .badName else d.root.find path

/-- The content of a file. -/
def content (d : Disk) (path : Path) : Except Fault ByteArray :=
  match d.find path with
  | .ok (.file content _) => .ok content
  | .ok (.directory ..) => .error .isDirectory
  | .error fault => .error fault

/-- The names of the directories in a directory, as far as they are text, in the order of their
characters. -/
def directories (d : Disk) (path : Path) : Except Fault (List String) :=
  match d.find path with
  | .ok (.directory entries _) =>
    let isDirectory (name : Name) : Bool := (Entries.get? entries name).any Entry.isDirectory
    let names := (Entries.names entries).filter isDirectory
    .ok ((names.filterMap Name.text?).mergeSort (· ≤ ·))
  | .ok (.file ..) => .error .notDirectory
  | .error fault => .error fault

/-! ## Changing -/

/-- Makes a path lead to a directory. -/
def makeDirectories (path : Path) (d : Disk) : Except Fault Unit × Disk :=
  if path.isUnusable then (.error .badName, d)
  else
    let (result, root) := d.root.makeDirectories d.now path
    (result, { d with root })

/-- What is in the way of a file at a path: something else than a directory around it, a bad name or
a directory in its place. -/
def obstacle? (d : Disk) (path : Path) : Option Fault :=
  match d.find path.parent, d.find path with
  | .ok (.directory ..), .ok (.directory ..) => some .isDirectory
  | .ok (.directory ..), .ok (.file ..) => none
  | .ok (.directory ..), .error .notFound => none
  | .ok (.directory ..), .error fault => some fault
  | .ok (.file ..), _ => some .notDirectory
  | .error fault, _ => some fault

/-- Writes a file, over the one that may be there. -/
def put (path : Path) (content : ByteArray) (d : Disk) : Except Fault Unit × Disk :=
  match d.obstacle? path with
  | some fault => (.error fault, d)
  | none => (.ok (), { d with root := d.root.alter (fun _ => some (.file content d.now)) path })

/-- Gives a file another path, over the file that may be there. -/
def rename (source target : Path) (d : Disk) : Except Fault Unit × Disk :=
  match d.find source, d.obstacle? target with
  | .error fault, _ => (.error fault, d)
  | .ok (.directory ..), _ => (.error .isDirectory, d)
  | .ok (.file ..), some fault => (.error fault, d)
  | .ok (.file content modified), none =>
    let taken := d.root.alter (fun _ => none) source
    (.ok (), { d with root := taken.alter (fun _ => some (.file content modified)) target })

/-- Removes a directory with everything in it. -/
def removeTree (path : Path) (d : Disk) : Except Fault Unit × Disk :=
  match d.find path with
  | .ok (.directory ..) => (.ok (), { d with root := d.root.alter (fun _ => none) path })
  | .ok (.file ..) => (.error .notDirectory, d)
  | .error fault => (.error fault, d)

/-! ## What others do -/

/-- Removes whatever is at a path. -/
def remove (path : Path) (d : Disk) : Disk :=
  { d with root := d.root.alter (fun _ => none) path }

/-- Sets the time, in nanoseconds, at which the entry at a path was last changed. -/
def touch (path : Path) (modified : Int) (d : Disk) : Disk :=
  { d with root := d.root.alter (·.map (·.touch modified)) path }

/-- Everything below a path, shown with the path and sorted; directories end in a slash. -/
def listing (path : Path) (d : Disk) : List String :=
  match d.find path with
  | .ok (.directory entries _) => (Entry.allPaths path.text entries).mergeSort (· ≤ ·)
  | _ => []

end Disk

end SpeakerHub
