import SpeakerHub.Account.Service
import SpeakerHub.Config
import SpeakerHub.Discovery
import SpeakerHub.Migration
import SpeakerHub.Web.Route

/-! # The server

* **`Server`** — the store, the settings, and the ways to reach speakers.
* **`World`** — what requests can change: the disk, and the speakers behind their shells.
* **`Server.answer`** — what is answered at an endpoint.
* **`Server.respond`** — the response to a request. -/

namespace SpeakerHub

open Failure

/-- A server. -/
structure Server (σ : Type) where
  /-- Where records are. -/
  store : Store
  /-- The settings. -/
  config : Config
  /-- The shells of speakers. -/
  shell : Shell σ
  /-- What speakers say about themselves. -/
  speakers : Speakers

/-- What requests can change. -/
structure World (σ : Type) where
  /-- The disk. -/
  disk : Disk
  /-- The speakers behind their shells. -/
  session : Session σ

/-- What is done with the world to give an answer. -/
abbrev Handler (σ : Type) := StateM (World σ)

namespace Handler

variable {σ : Type} {α : Type}

/-- A look at the disk. -/
def look (f : Disk → α) : Handler σ α := do
  return f (← get).disk

/-- A change of the disk. -/
def change (a : Action α) : Handler σ (Except Error α) := fun w =>
  let (result, disk) := a.run w.disk
  (result, { w with disk })

/-- A conversation with a speaker. -/
def converse (c : Conversation σ α) : Handler σ α := fun w =>
  let (result, session) := c.run w.session
  (result, { w with session })

end Handler

/-! ## Parts of a request -/

namespace Request

/-- The greatest size of a body. -/
def bodyLimit : Nat :=
  1048576

/-- The token that a request presents. -/
def presented? (r : Request) : Except Rejection (Option String) :=
  match r.header "if-none-match" with
  | [] => .ok none
  | value :: _ =>
    match Encoding.visible? value with
    | some token => .ok (some token)
    | none => .error .tokenNotText

/-- The body as text. -/
def text (r : Request) : Except Rejection String :=
  if bodyLimit < r.body.size then .error .bodyTooLong
  else
    match String.fromUTF8? r.body with
    | some text => .ok text
    | none => .error .bodyNotText

/-- The target for a migration, from the query. -/
def migrationTarget? (r : Request) : Except Rejection (Option String) :=
  match (Form.pairs (r.target.query.getD "")).filter (·.1 == "target") with
  | [] => .ok none
  | [(_, target)] => .ok (some target)
  | _ => .error (.duplicateField "target")

end Request

/-! ## Answers -/

namespace Server

variable {σ : Type}

/-- A result as a response. -/
def reply {α : Type} (show? : α → Response) : Except Error α → Response
  | .ok a => show? a
  | .error e => ofError e

/-- A document with its token, or the news that the reader holds it. -/
def conditional : Conditional → Response
  | .unchanged token => { status := 304, headers := [("etag", token.text)] }
  | .fresh token body => .markup body (some token.text)

/-- The document that a change answers with. -/
def written (w : Account.Written) : Response :=
  .markup w.body (some w.token.text)

/-- The answer that something was done. -/
def acknowledgement : Response :=
  .json (.fields [("ok", .flag true)])

/-- A device as JSON. -/
def deviceJson (filed : FiledDevice) : Json :=
  .fields [("account", .text filed.account.text), ("device_id", .text filed.device.id),
    ("name", .text filed.device.name), ("product_code", .text filed.device.productCode),
    ("firmware_version", .text filed.device.firmware), ("ip_address", .text filed.device.address)]

/-- A summary as JSON. What is not known is left out. -/
def summaryJson (s : Migration.Summary) : Json :=
  let known (name : String) (value? : Option String) : List (String × Json) :=
    (value?.map fun value => (name, Json.text value)).toList
  .fields ([("ssh_success", .flag s.isOnline)]
    ++ known "current_config" s.config.text?
    ++ known "diagnostic" s.config.diagnostic?
    ++ [("planned_config", .text s.plannedConfig),
      ("remote_services_enabled", .flag s.remoteServicesEnabled),
      ("remote_services_persistent", .flag s.remoteServicesPersistent),
      ("remote_services_found", .list (s.markers.found.map .text))]
    ++ known "remote_services_check_err" s.markers.checkError
    ++ known "device_name" s.identity.name
    ++ known "device_model" s.identity.model
    ++ known "device_serial" s.identity.serial
    ++ known "firmware_version" s.identity.firmware)

/-- Goes on with a part of a request, unless it is turned down. -/
def withPart {α : Type} (part : Except Rejection α) (handle : α → Handler σ Response) :
    Handler σ Response :=
  match part with
  | .ok a => handle a
  | .error rejection => pure rejection.response

/-- Asks all hosts for speakers and files them. -/
def scan (server : Server σ) : Handler σ Nat := fun w =>
  let (count, disk) := Discovery.scan server.store server.config.account server.speakers
    server.config.discovery.hosts w.disk
  (count, { w with disk })

/-- What is known about the speaker at a host. -/
def summary (server : Server σ) (host : String) (target? : Option String) :
    Handler σ Migration.Summary := fun w =>
  let target := Migration.resolveTarget server.config.publicUrl target?
  Handler.converse
    (Migration.summary server.shell host server.store w.disk server.speakers target) w

/-- Makes the speaker at a host use this server. -/
def migrate (server : Server σ) (host : String) (target? : Option String) :
    Handler σ (Except Error Unit) :=
  Handler.converse
    (Migration.migrate server.shell host (Migration.resolveTarget server.config.publicUrl target?))

/-- What is answered at an endpoint. -/
def answer (server : Server σ) (request : Request) : Endpoint → Handler σ Response
  | .banner =>
    pure (.json (.fields [("name", .text "homeport"), ("version", .text "0.1.0")]))
  | .sourceProviders =>
    withPart request.presented? fun presented =>
      pure (reply conditional (Account.sourceProviders presented))
  | .softwareUpdate =>
    withPart request.presented? fun presented =>
      pure (reply conditional (Account.softwareUpdate presented))
  | .providerSettings account =>
    pure (reply (Response.markup · none) (Account.providerSettings account))
  | .powerOn => pure { status := 200 }
  | .account account =>
    withPart request.presented? fun presented => do
      return reply conditional (← Handler.look (Account.full server.store account presented))
  | .addDevice account =>
    withPart request.text fun body => do
      return reply written (← Handler.change (Account.addDevice server.store account body))
  | .removeDevice account device => do
    let result ← Handler.change (Account.removeDevice server.store account device)
    return reply (fun () => acknowledgement) result
  | .presets account =>
    withPart request.presented? fun presented => do
      return reply conditional (← Handler.look (Account.presets server.store account presented))
  | .putPreset account device button =>
    withPart request.text fun body => do
      let result ← Handler.change (Account.putPreset server.store account device button body)
      return reply written result
  | .recents account =>
    withPart request.presented? fun presented => do
      return reply conditional (← Handler.look (Account.recents server.store account presented))
  | .addRecent account device =>
    withPart request.text fun body => do
      return reply written (← Handler.change (Account.addRecent server.store account device body))
  | .devices => do
    let devices ← Handler.look (server.store.allDevices none)
    return reply (fun devices => .json (.list (devices.map deviceJson))) devices
  | .summary host =>
    withPart request.migrationTarget? fun target? => do
      return .json (summaryJson (← server.summary host target?))
  | .migrate host =>
    withPart request.migrationTarget? fun target? => do
      return reply (fun () => acknowledgement) (← server.migrate host target?)
  | .remoteServices host => do
    let result ← Handler.converse (Migration.enableRemoteServices server.shell host)
    return reply (fun location => .json (.fields [("location", .text location)])) result
  | .scan => do
    return .json (.fields [("found", .number (← server.scan))])

/-- The response to a request. The answer to a request for headers alone has no body, but is
otherwise the same. -/
def respond (server : Server σ) (request : Request) : Handler σ Response := do
  let response ← match Route.find request with
    | .error response => pure response
    | .ok endpoint => server.answer request endpoint
  let response := response.encodedFor request
  return if request.method = "HEAD" then { response with body := "" } else response

/-- The server with the settings in a file, or with the defaults if there is none, and its records
in a directory, which is made. -/
def start (shell : Shell σ) (speakers : Speakers) (config? : Option Path) (data : Path) :
    Action (Server σ) := do
  let config ← match config? with
    | some path => Action.look (Config.ofFile path)
    | none => pure {}
  let store : Store := { directory := data }
  Action.step store.accountsPath (Disk.makeDirectories store.accountsPath)
  return { store, config, shell, speakers }

end Server

end SpeakerHub
