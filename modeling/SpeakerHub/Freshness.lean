import SpeakerHub.Store

/-! # Freshness

A token says how fresh a resource is. Whoever holds the current token has the current document.

* **`Token`** — a time in milliseconds, shown in decimal.
* **`Store.token`** — when an entry was last changed, zero if it is missing.
* **`Store.accountToken`** — the newest of an account's lists; devices do not count.
* **`Conditional.evaluate`** — renders a document unless the token that was presented is the current
  one. -/

namespace SpeakerHub

/-- The freshness of a resource. -/
structure Token where
  /-- Milliseconds since 1970. -/
  value : Nat
  deriving DecidableEq

namespace Token

/-- How a token is shown. -/
def text (t : Token) : String :=
  Nat.repr t.value

/-- Whether a text shows the token, to the letter. -/
def isShownBy (t : Token) (presented : String) : Bool :=
  t.text == presented

/-- The later of two tokens. -/
def latest (t u : Token) : Token :=
  { value := max t.value u.value }

/-- The token of a time in nanoseconds. Times in front of 1970 count as 1970. -/
def ofNanoseconds (time : Int) : Token :=
  { value := time.toNat / 1000000 }

/-- The token of everything that depends on the catalog alone. -/
def catalog : Token :=
  { value := Catalog.milliseconds }

end Token

namespace Store

/-- The token of an entry. -/
def token (path : Path) (d : Disk) : Except Error Token :=
  match d.find path with
  | .ok e => .ok (.ofNanoseconds e.modified)
  | .error .notFound => .ok { value := 0 }
  | .error _ => .error (.io path)

/-- The token of a list. -/
def resourceToken (s : Store) (account : Identifier) (resource : Resource) :
    Disk → Except Error Token :=
  token (s.resourcePath account resource)

/-- The latest token of an account's lists. -/
def accountToken (s : Store) (account : Identifier) (d : Disk) : Except Error Token :=
  Resource.all.foldlM (fun t r => (s.resourceToken account r d).map t.latest) { value := 0 }

end Store

/-! ## Answers that depend on a token -/

/-- An answer to a reader that may hold a token. -/
inductive Conditional where
  /-- The reader's token is the current one. -/
  | unchanged (token : Token)
  /-- The current document. -/
  | fresh (token : Token) (body : String)
  deriving DecidableEq

namespace Conditional

/-- The token of an answer. -/
def token : Conditional → Token
  | unchanged token => token
  | fresh token _ => token

/-- Renders a document, unless the reader has presented its token. -/
def evaluate (token : Token) (presented : Option String) (render : Except Error String) :
    Except Error Conditional :=
  if presented.any token.isShownBy then .ok (unchanged token)
  else render.map (fresh token)

end Conditional

end SpeakerHub
