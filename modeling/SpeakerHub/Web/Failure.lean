import SpeakerHub.Error
import SpeakerHub.Web.Message

/-! # Failures as responses

* **`Failure.ofError`** — an error as a response; what the disk and the readers refuse to tell is
  put into general words.
* **`Failure.Rejection`** — what is wrong with a request before anything is done. -/

namespace SpeakerHub.Failure

/-- The status for an error. -/
def status : Error → Nat
  | .io _ => 500
  | .configuration => 500
  | .notFound _ => 404
  | .corrupted _ => 500
  | .malformedRequest => 400
  | .invalidIdentifier _ => 400
  | .invalidPresetNumber _ => 400
  | .identityQuery .. => 502
  | .unreachable .. => 502
  | .commandFailed _ => 502
  | .remoteServicesUnavailable _ => 502

/-- The words for an error. -/
def text : Error → String
  | .io path => "File I/O error for `" ++ path.text ++ "`:\n\nthe operation was refused"
  | .configuration => "Internal server error"
  | .notFound _ => "Resource not found"
  | .corrupted path => "Stored record `" ++ path.text ++ "` is corrupted:\n\nit cannot be read"
  | .malformedRequest => "Could not parse request body:\n\nit cannot be read"
  | .invalidIdentifier text => "Invalid identifier: `" ++ text ++ "`"
  | .invalidPresetNumber text => "Invalid preset number: `" ++ text ++ "`"
  | .identityQuery host reason => "Could not reach device `" ++ host ++ "`:\n\n" ++ reason
  | .unreachable host reason => "Could not reach device `" ++ host ++ "`:\n\n" ++ reason
  | .commandFailed f =>
    "Device `" ++ f.host ++ "` rejected `" ++ f.command ++ "`: " ++ f.reason ++ "\n\n" ++ f.output
  | .remoteServicesUnavailable locations =>
    "Could not enable remote services in any of " ++ Error.quotedList locations

/-- An error as a response. -/
def ofError (e : Error) : Response :=
  .plain (status e) (text e)

/-! ## Requests that are turned down -/

/-- What is wrong with a request. -/
inductive Rejection where
  /-- A part of the path is not text. -/
  | parameterNotText (name : String)
  /-- The token that is presented is not text. -/
  | tokenNotText
  /-- A field of the query is there twice. -/
  | duplicateField (name : String)
  /-- The body is too long. -/
  | bodyTooLong
  /-- The body is not text. -/
  | bodyNotText
  deriving DecidableEq

/-- A rejection as a response. -/
def Rejection.response : Rejection → Response
  | parameterNotText name => .plain 400 ("Invalid URL: Invalid UTF-8 in `" ++ name ++ "`")
  | tokenNotText => .plain 400 "If-None-Match header is not valid text"
  | duplicateField name =>
    .plain 400 ("Failed to deserialize query string: duplicate field `" ++ name ++ "`")
  | bodyTooLong => .plain 413 "Failed to buffer the request body: length limit exceeded"
  | bodyNotText => .plain 400 "Request body didn't contain valid UTF-8: it holds other bytes"

end SpeakerHub.Failure
