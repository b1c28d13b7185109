import SpeakerHub.Text.Utf8

/-! # Names and paths

A path leads through directories by the names of their entries, from the directory that everything
is relative to.

* **`Name`** — text, or bytes that are not text.
* **`Path`** — names, outermost first.
* **`Path.text`** — a path as it is shown, with slashes.
* **`Path.sibling`** — the path next to another, with something added to the last name. -/

namespace SpeakerHub

/-- The name of an entry of a directory. -/
inductive Name where
  /-- A name that is text. -/
  | text (s : String)
  /-- A name whose bytes are not text. -/
  | bytes (raw : List UInt8)
  deriving DecidableEq

namespace Name

/-- The name that bytes make up. -/
def ofBytes (raw : List UInt8) : Name :=
  match Utf8.decode? raw with
  | some s => .text s
  | none => .bytes raw

/-- How a name is shown. -/
def shown : Name → String
  | .text s => s
  | .bytes raw => Utf8.decodeLossy raw

/-- The name as text, if it is text. -/
def text? : Name → Option String
  | .text s => some s
  | .bytes _ => none

/-- The length of a name in bytes. -/
def size : Name → Nat
  | .text s => s.utf8ByteSize
  | .bytes raw => raw.length

/-- Whether a name is longer than a directory can hold. -/
def isTooLong (n : Name) : Bool :=
  n.size > 255

/-- Whether a name holds the character zero, which ends a path. -/
def hasZero : Name → Bool
  | .text s => s.toList.any (· == '\x00')
  | .bytes raw => raw.any (· == 0)

end Name

/-- The way to an entry. -/
abbrev Path := List Name

namespace Path

/-- The path that leads through names that are text. -/
def ofTexts (names : List String) : Path :=
  names.map .text

/-- The pieces of text between slashes. -/
def pieces (text : String) : List String :=
  text.splitOn "/"

/-- Reads a path as it is shown. Slashes may be repeated, and a single dot leads nowhere. -/
def ofText (text : String) : Path :=
  ofTexts ((pieces text).filter fun piece => piece != "" && piece != ".")

/-- How a path is shown. -/
def text (p : Path) : String :=
  "/".intercalate (p.map Name.shown)

/-- The path without its last name. -/
def parent (p : Path) : Path :=
  p.dropLast

/-- The path of an entry beside another one, whose name is longer by `ending`. -/
def sibling (p : Path) (ending : String) : Path :=
  match p.getLast? with
  | some (.text s) => p.dropLast ++ [.text (s ++ ending)]
  | some (.bytes raw) => p.dropLast ++ [.bytes (raw ++ Utf8.encode ending)]
  | none => [.text ending]

/-- The length of some names in bytes, with a slash behind each. -/
def bytes : Path → Nat
  | [] => 0
  | name :: p => name.size + 1 + bytes p

/-- No names have no length. -/
@[simp] theorem bytes_nil : bytes [] = 0 := rfl

/-- A name with the slash behind it is in front of the others. -/
@[simp] theorem bytes_cons (name : Name) (p : Path) : bytes (name :: p) = name.size + 1 + bytes p :=
  rfl

/-- Names one behind the other. -/
@[simp] theorem bytes_append (p q : Path) : bytes (p ++ q) = bytes p + bytes q := by
  induction p with
  | nil => simp
  | cons name p ih =>
    rw [List.cons_append, bytes_cons, bytes_cons, ih]
    omega

/-- The length of a path in bytes, slashes included. -/
def size (p : Path) : Nat :=
  p.bytes - 1

/-- Whether a path cannot be followed as a whole: it is too long, or it holds the character zero. -/
def isUnusable (p : Path) : Bool :=
  p.size > 4095 || p.any Name.hasZero

end Path

end SpeakerHub
