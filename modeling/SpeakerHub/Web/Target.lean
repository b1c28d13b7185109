import SpeakerHub.Text.Numeral
import SpeakerHub.Text.Utf8

/-! # Targets of requests

What a request asks for: a path, and a query behind a question mark. Both are encoded; what is not a
proper escape stands for itself.

* **`Percent.decode`** — the bytes that encoded bytes stand for.
* **`Target.ofText`** — the parts of a target.
* **`Target.segments`** — the pieces of a path, after slashes too many are dropped at its ends.
* **`Form.pairs`** — the names and values in a query. -/

namespace SpeakerHub

/-- The bytes that encoded bytes stand for: a percent sign and two hexadecimal digits are one
byte. -/
def Percent.decode : List UInt8 → List UInt8
  | [] => []
  | b :: rest =>
    match b == 0x25, rest with
    | true, high :: low :: rest' =>
      match Numeral.digit? 16 (Char.ofNat high.toNat), Numeral.digit? 16 (Char.ofNat low.toNat) with
      | some h, some l => UInt8.ofNat (16 * h + l) :: Percent.decode rest'
      | _, _ => b :: Percent.decode (high :: low :: rest')
    | _, rest => b :: Percent.decode rest
termination_by bytes => bytes.length

/-! ## Targets -/

/-- What a request asks for. -/
structure Target where
  /-- The path as it is written. -/
  path : String
  /-- The query as it is written. -/
  query : Option String

namespace Target

/-- The parts of a target. What stands behind a number sign is not sent. -/
def ofText (text : String) : Target :=
  let sent := text.toList.takeWhile (· != '#')
  match sent.dropWhile (· != '?') with
  | [] => { path := String.ofList sent, query := none }
  | _ :: query =>
    { path := String.ofList (sent.takeWhile (· != '?')), query := some (String.ofList query) }

/-- A text without the slashes around it. -/
def trimSlashes (text : List Char) : List Char :=
  ((text.dropWhile (· == '/')).reverse.dropWhile (· == '/')).reverse

/-- The path with one slash in front and none at its end, if it has more of them there. -/
def normalized (path : List Char) : List Char :=
  if path.getLast? = some '/' ∨ ['/', '/'].isPrefixOf path then '/' :: trimSlashes path else path

/-- The pieces of the path, none if it does not begin with a slash. -/
def segments (t : Target) : List String :=
  match normalized t.path.toList with
  | '/' :: rest => (String.ofList rest).splitOn "/"
  | _ => []

end Target

/-! ## Queries -/

namespace Form

/-- The text that an encoded text stands for. A plus sign is a space. -/
def decode (text : String) : String :=
  Utf8.decodeLossy (Percent.decode ((Utf8.encode text).map fun b => if b == 0x2B then 0x20 else b))

/-- A name and its value, which is empty without an equals sign. -/
def pair (text : String) : String × String :=
  let name := text.toList.takeWhile (· != '=')
  (decode (String.ofList name), decode (String.ofList (text.toList.drop (name.length + 1))))

/-- The names and values in a query. -/
def pairs (query : String) : List (String × String) :=
  ((query.splitOn "&").filter (· != "")).map pair

end Form

end SpeakerHub
