import SpeakerHub.Web.Json
import SpeakerHub.Web.Target

/-! # Requests and responses

* **`Request`** — what is asked; names of headers are compared without regard to case.
* **`Response`** — what is answered; its body is given as it is before it is compressed.
* **`Response.encodedFor`** — the response with the mark that its body is compressed, if the request
  accepts that and it is worthwhile. -/

namespace SpeakerHub

/-- A request. -/
structure Request where
  /-- What is to be done. -/
  method : String
  /-- What it is to be done to. -/
  target : Target
  /-- Names and values, in their order. -/
  headers : List (String × String)
  /-- The body. -/
  body : ByteArray

/-- A response. -/
structure Response where
  /-- The status. -/
  status : Nat
  /-- Names in lower case, and values. -/
  headers : List (String × String) := []
  /-- The body. -/
  body : String := ""
  deriving DecidableEq

/-- The values of a header. -/
def Request.header (r : Request) (name : String) : List String :=
  (r.headers.filter fun h => h.1.toList.map Char.toLower == name.toList).map (·.2)

namespace Response

/-- A response of plain text. -/
def plain (status : Nat) (body : String) : Response :=
  { status, headers := [("content-type", "text/plain; charset=utf-8")], body }

/-- A document, with the token it has, if it has one. -/
def markup (body : String) (token? : Option String) : Response :=
  { status := 200
    headers := ("content-type", "application/xml") :: (token?.map fun t => ("etag", t)).toList
    body }

/-- A value as JSON. -/
def json (v : Json) : Response :=
  { status := 200, headers := [("content-type", "application/json")], body := v.render }

end Response

/-! ## Compression -/

namespace Encoding

/-- A header's value in visible characters of ASCII and tabs. Other values are not text. -/
def visible? (value : String) : Option String :=
  if value.toList.all fun c => (' ' ≤ c && c < '\x7f') || c == '\t' then some value else none

/-- A text without spaces and tabs around it. -/
def trimmed (text : List Char) : List Char :=
  let isBlank (c : Char) : Bool := c == ' ' || c == '\t'
  ((text.dropWhile isBlank).reverse.dropWhile isBlank).reverse

/-- The weight of a preference in thousandths: a number from zero to one with at most three
decimals. -/
def weight? : List Char → Option Nat
  | q :: '=' :: lead :: rest => do
    unless q = 'q' ∨ q = 'Q' do none
    let whole ← if lead = '0' then some 0 else if lead = '1' then some 1000 else none
    match rest with
    | [] => return whole
    | '.' :: decimals =>
      unless decimals.length ≤ 3 ∧ decimals.all Char.isDigit do none
      let zeros := List.replicate (3 - decimals.length) '0'
      let thousandths ← Numeral.natural? 10 ('0' :: decimals ++ zeros)
      if whole + thousandths ≤ 1000 then some (whole + thousandths) else none
    | _ => none
  | _ => none

/-- A preference: whether it is for compression (`true`) or for none, and its weight. Preferences
for anything else do not count. -/
def preference? (text : String) : Option (Bool × Nat) := do
  let name := String.ofList ((trimmed (text.toList.takeWhile (· != ';'))).map Char.toLower)
  let compressed ←
    if name = "gzip" ∨ name = "x-gzip" then some true
    else if name = "identity" then some false
    else none
  match text.toList.dropWhile (· != ';') with
  | [] => return (compressed, 1000)
  | _ :: parameters => return (compressed, ← weight? (trimmed parameters))

/-- Whether compression is accepted, and preferred to none or as good. -/
def isAccepted (r : Request) : Bool :=
  let preferences := ((r.header "accept-encoding").filterMap visible?).flatMap fun value =>
    (value.splitOn ",").filterMap preference?
  let best (compressed : Bool) : Nat :=
    ((preferences.filter (·.1 == compressed)).map (·.2)).foldl max 0
  0 < best true && best false ≤ best true

/-- The least size of a body that is compressed. -/
def leastSize : Nat :=
  32

end Encoding

/-- The response with the mark that its body is compressed, if the request accepts that. -/
def Response.encodedFor (request : Request) (response : Response) : Response :=
  if Encoding.isAccepted request ∧ Encoding.leastSize ≤ response.body.utf8ByteSize then
    { response with headers := response.headers ++ [("content-encoding", "gzip")] }
  else response

end SpeakerHub
