import SpeakerHub.Web.Failure

/-! # Routes

* **`Endpoint`** — what can be asked of the server.
* **`Route.choices`** — what can be done at a path, by verbs.
* **`Route.find`** — what a request asks for, or the response that it asks for nothing. -/

namespace SpeakerHub

open Failure

/-- Something that can be asked of the server. -/
inductive Endpoint where
  /-- Who the server is. -/
  | banner
  /-- The providers of the catalog. -/
  | sourceProviders
  /-- Whether there is newer software. -/
  | softwareUpdate
  /-- The settings of an account at its providers. -/
  | providerSettings (account : String)
  /-- A speaker has been switched on. -/
  | powerOn
  /-- An account with everything it has. -/
  | account (account : String)
  /-- A device is to be registered. -/
  | addDevice (account : String)
  /-- A device is to be removed. -/
  | removeDevice (account device : String)
  /-- The presets of an account. -/
  | presets (account : String)
  /-- A button is to play something. -/
  | putPreset (account device button : String)
  /-- The recents of an account. -/
  | recents (account : String)
  /-- Something was played. -/
  | addRecent (account device : String)
  /-- All known devices. -/
  | devices
  /-- What is known about the speaker at a host. -/
  | summary (host : String)
  /-- The speaker at a host is to use this server. -/
  | migrate (host : String)
  /-- The speaker at a host is to allow remote services. -/
  | remoteServices (host : String)
  /-- Speakers are to be searched for. -/
  | scan

/-- What can be done to something. -/
inductive Verb where
  /-- To be shown it. -/
  | get
  /-- To send something to it. -/
  | post
  /-- To remove it. -/
  | delete
  deriving DecidableEq

namespace Verb

/-- The methods that a verb stands for. -/
def methods : Verb → List String
  | get => ["GET", "HEAD"]
  | post => ["POST"]
  | delete => ["DELETE"]

end Verb

namespace Route

/-- A part of a path as a parameter with a name. -/
def parameter (name raw : String) : Except Rejection String :=
  match Utf8.decode? (Percent.decode (Utf8.encode raw)) with
  | some value => .ok value
  | none => .error (.parameterNotText name)

/-- An endpoint of an account. -/
def ofAccount (account : String) (endpoint : String → Endpoint) : Except Rejection Endpoint := do
  return endpoint (← parameter "account" account)

/-- An endpoint of a device of an account. -/
def ofDevice (account device : String) (endpoint : String → String → Endpoint) :
    Except Rejection Endpoint := do
  return endpoint (← parameter "account" account) (← parameter "device" device)

/-- An endpoint of the speaker at a host. -/
def ofHost (host : String) (endpoint : String → Endpoint) : Except Rejection Endpoint := do
  return endpoint (← parameter "host" host)

/-- What can be done at a path, given by its pieces. -/
def choices : List String → List (Verb × Except Rejection Endpoint)
  | [""] => [(.get, .ok .banner)]
  | ["marge", "streaming", "sourceproviders"] => [(.get, .ok .sourceProviders)]
  | ["marge", "updates", "soundtouch"] => [(.get, .ok .softwareUpdate)]
  | ["marge", "streaming", "account", account, "provider_settings"] =>
    [(.get, ofAccount account .providerSettings)]
  | ["marge", "streaming", "support", "power_on"] => [(.post, .ok .powerOn)]
  | ["marge", "accounts", account, "full"] => [(.get, ofAccount account .account)]
  | ["marge", "accounts", account, "devices"] => [(.post, ofAccount account .addDevice)]
  | ["marge", "accounts", account, "devices", device] =>
    [(.delete, ofDevice account device .removeDevice)]
  | ["marge", "accounts", account, "devices", device, "presets"] =>
    [(.get, ofDevice account device fun account _ => .presets account)]
  | ["marge", "accounts", account, "devices", device, "presets", button] =>
    [(.post, do
      let account ← parameter "account" account
      let device ← parameter "device" device
      return .putPreset account device (← parameter "button" button))]
  | ["marge", "accounts", account, "devices", device, "recents"] =>
    [(.get, ofDevice account device fun account _ => .recents account),
      (.post, ofDevice account device .addRecent)]
  | ["setup", "devices"] => [(.get, .ok .devices)]
  | ["setup", "devices", host, "summary"] => [(.get, ofHost host .summary)]
  | ["setup", "devices", host, "migrate"] => [(.post, ofHost host .migrate)]
  | ["setup", "devices", host, "remote_services"] => [(.post, ofHost host .remoteServices)]
  | ["setup", "discovery", "scan"] => [(.post, .ok .scan)]
  | _ => []

/-- What a request asks for. At an unknown path there is nothing; at a known one, the answer to
other methods names those that can be used. -/
def find (request : Request) : Except Response Endpoint :=
  match Route.choices request.target.segments with
  | [] => .error { status := 404 }
  | routes =>
    match routes.find? fun route => route.1.methods.contains request.method with
    | none =>
      let methods := routes.flatMap fun route => route.1.methods
      .error { status := 405, headers := [("allow", ",".intercalate methods)] }
    | some (_, .error rejection) => .error rejection.response
    | some (_, .ok endpoint) => .ok endpoint

end Route

end SpeakerHub
