import SpeakerHub.Speaker
import SpeakerHub.Store

/-! # Discovery

Speakers that answer are filed under one account. One writer takes messages in the order in which
they were sent and handles one at a time, so that records are never written at the same time.

* **`Discovery.record`** — merges what was found into a record.
* **`Discovery.Writer`** — the queue of messages in front of the writer.
* **`Discovery.scan`** — asks all hosts, and waits until what was found is stored. -/

namespace SpeakerHub.Discovery

/-- A speaker that was found. -/
structure Found where
  /-- The id it gives itself. -/
  id : String
  /-- Its name. -/
  name : String
  /-- Where it was found. -/
  host : String
  /-- The type of the device. -/
  model : String
  deriving DecidableEq

/-! ## Recording -/

/-- The product code after a model was found. A code that begins with the model is kept, because it
says more. -/
def productCode (model known : String) : String :=
  if model.isEmpty || model.toList.isPrefixOf known.toList then known else model

/-- The record of a device after it was found. What a search does not show is kept. -/
def merged (found : Found) (known : Device) : Device :=
  { known with
    name := if found.name.isEmpty then known.name else found.name
    productCode := productCode found.model known.productCode
    address := found.host }

/-- Stores a speaker that was found. -/
def record (s : Store) (account : String) (found : Found) : Action Unit := do
  let account ← Identifier.ofText account
  let id ← Identifier.ofText found.id
  let known ← Action.look (s.deviceOrNew account id)
  s.saveDevice account id (merged found known)

/-! ## The writer -/

/-- What is sent to the writer. -/
inductive Message where
  /-- A speaker is to be stored. -/
  | device (found : Found)
  /-- Someone waits, under a number, for everything in front of this message. -/
  | flush (waiter : Nat)

/-- The writer with its queue. -/
structure Writer where
  /-- The account that devices are filed under. -/
  account : String
  /-- Messages that were sent and not handled, the oldest first. -/
  queue : List Message := []
  /-- The waiters that were told that everything in front of them is stored. -/
  served : List Nat := []

namespace Writer

/-- Sends a message. -/
def send (w : Writer) (m : Message) : Writer :=
  { w with queue := w.queue ++ [m] }

/-- Handles a message. A device that cannot be stored is passed over. -/
def handle (s : Store) (m : Message) (w : Writer) (d : Disk) : Writer × Disk :=
  match m with
  | .device found => (w, ((record s w.account found).run d).2)
  | .flush waiter => ({ w with served := w.served ++ [waiter] }, d)

/-- Takes the oldest message from the queue and handles it. -/
def step (s : Store) (w : Writer) (d : Disk) : Writer × Disk :=
  match w.queue with
  | [] => (w, d)
  | m :: queue => handle s m { w with queue } d

/-- Handles messages until the queue is empty. -/
def drain (s : Store) (w : Writer) (d : Disk) : Writer × Disk :=
  w.queue.foldl (fun (w, d) m => handle s m w d) ({ w with queue := [] }, d)

end Writer

/-- Stores speakers and waits until all of them are stored. -/
def publish (s : Store) (account : String) (found : List Found) (d : Disk) : Disk :=
  let writer := found.foldl (fun w f => w.send (.device f)) { account : Writer }
  ((writer.send (.flush 0)).drain s d).2

/-! ## Searching -/

/-- Asks a host which speaker it is. -/
def probe (speakers : Speakers) (host : String) : Except Error Found := do
  let live ← Speaker.ask speakers host
  match live.deviceId with
  | some id => return { id, name := live.name.getD "", host, model := live.model.getD "" }
  | none => throw (.identityQuery host "response carries no device id")

/-- Asks all hosts, stores the speakers that answered, and says how many they are. -/
def scan (s : Store) (account : String) (speakers : Speakers) (hosts : List String) (d : Disk) :
    Nat × Disk :=
  let found := hosts.filterMap fun host => (probe speakers host).toOption
  (found.length, publish s account found d)

end SpeakerHub.Discovery
