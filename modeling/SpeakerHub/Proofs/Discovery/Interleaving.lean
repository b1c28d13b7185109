import SpeakerHub.Proofs.Discovery.Recording

/-! # Many callers and one writer

Any number of callers send finds to the writer, wait until it comes to their place in the queue, and
scan hosts, which is to send what was found and then to wait. Their steps and those of the writer
come in any order.

* **`System`**, **`Event`**, **`Step`**, **`Run`** — the callers, the queue and the disk, and what
  happens to them.
* **`sent`**, **`handled`**, **`finds`** — what happened in a run, by kinds of messages.
* **`Step.queue`**, **`Step.root`**, **`Step.served`**, **`Step.waiting`** — what one step does.
* **`Run.queue`** — messages leave the queue in the order in which they came.
* **`Run.root`** — the files are those that the finds made in their order.
* **`Run.waiting`**, **`Run.served`** — who waits has sent a message, and who is told was come to.
* **`writer_loses_nothing`** — all of it together. -/

namespace SpeakerHub.Discovery

open Store

/-! ## Callers -/

/-- What a caller is doing. -/
inductive Activity where
  /-- Nothing that concerns the writer. -/
  | idle
  /-- It scans: some hosts are left, and some have answered. -/
  | scanning (hosts : List String) (answered : Nat)
  /-- It waits under a number; at the end of a scan it knows how many hosts have answered. -/
  | waiting (waiter : Nat) (answered? : Option Nat)

/-- The callers, the writer and the disk. -/
structure System (ι : Type) where
  /-- The disk. -/
  disk : Disk
  /-- The writer with its queue. -/
  writer : Writer
  /-- What each caller is doing. -/
  doing : ι → Activity
  /-- A number under which nobody has waited yet. -/
  nextWaiter : Nat

/-- What happens. -/
inductive Event (ι : Type) where
  /-- A caller sends a message. -/
  | sent (who : ι) (m : Message)
  /-- The writer handles the oldest message, at a time. -/
  | handled (clock : Int) (m : Message)
  /-- A caller that waited goes on, at the end of a scan with the number of answers. -/
  | returned (who : ι) (waiter : Nat) (answered? : Option Nat)
  /-- A caller does something that concerns nobody else. -/
  | quiet (who : ι)

variable {ι : Type}

namespace System

/-- Nobody has done anything. -/
def start (account : String) (d : Disk) : System ι :=
  { disk := d, writer := { account }, doing := fun _ => .idle, nextWaiter := 0 }

/-- A message is sent. -/
def send (σ : System ι) (m : Message) : System ι :=
  { σ with writer := σ.writer.send m }

/-- The writer handles the oldest message. -/
def handle (s : Store) (clock : Int) (σ : System ι) : System ι :=
  let (writer, disk) := σ.writer.step s (σ.disk.atTime clock)
  { σ with writer, disk }

variable [DecidableEq ι]

/-- A caller turns to something else. -/
def turn (σ : System ι) (who : ι) (activity : Activity) : System ι :=
  { σ with doing := Function.update σ.doing who activity }

/-- What is being done after a caller has turned to something else. -/
theorem doing_turn (σ : System ι) (who other : ι) (activity : Activity) :
    (σ.turn other activity).doing who = if who = other then activity else σ.doing who :=
  Function.update_apply σ.doing other activity who

/-- A caller sends the message that it waits for. -/
def await (σ : System ι) (who : ι) (answered? : Option Nat) : System ι :=
  { (σ.send (.flush σ.nextWaiter)).turn who (.waiting σ.nextWaiter answered?) with
    nextWaiter := σ.nextWaiter + 1 }

/-- Only that caller has come to wait. -/
theorem waiting_of_await {σ : System ι} {who other : ι} {waiter : Nat}
    {answered? sent? : Option Nat}
    (h : (σ.await other sent?).doing who = .waiting waiter answered?) :
    who = other ∧ waiter = σ.nextWaiter
      ∨ who ≠ other ∧ σ.doing who = .waiting waiter answered? := by
  change (σ.turn other _).doing who = _ at h
  rw [doing_turn] at h
  split at h
  · exact .inl ⟨‹_›, (Activity.waiting.inj h).1.symm⟩
  · exact .inr ⟨‹_›, h⟩

end System

section

variable [DecidableEq ι]

/-- **One step** of a caller or of the writer. Each time a host is asked, any speakers may be
there. -/
inductive Step (s : Store) (σ : System ι) : Event ι → System ι → Prop where
  /-- A caller publishes a find. -/
  | publishes {who : ι} (f : Found) (hidle : σ.doing who = .idle) :
      Step s σ (.sent who (.device f)) (σ.send (.device f))
  /-- A caller flushes the queue. -/
  | flushes {who : ι} (hidle : σ.doing who = .idle) :
      Step s σ (.sent who (.flush σ.nextWaiter)) (σ.await who none)
  /-- A caller begins a scan. -/
  | begins {who : ι} (hosts : List String) (hidle : σ.doing who = .idle) :
      Step s σ (.quiet who) (σ.turn who (.scanning hosts 0))
  /-- The next host answers, and is published. -/
  | finds {who : ι} {host : String} {hosts : List String} {n : Nat} {speakers : Speakers}
      {f : Found} (hscan : σ.doing who = .scanning (host :: hosts) n)
      (hprobe : probe speakers host = .ok f) :
      Step s σ (.sent who (.device f)) ((σ.send (.device f)).turn who (.scanning hosts (n + 1)))
  /-- The next host does not answer. -/
  | misses {who : ι} {host : String} {hosts : List String} {n : Nat} {speakers : Speakers}
      {e : Error} (hscan : σ.doing who = .scanning (host :: hosts) n)
      (hprobe : probe speakers host = .error e) :
      Step s σ (.quiet who) (σ.turn who (.scanning hosts n))
  /-- All hosts were asked, and the queue is flushed. -/
  | asked {who : ι} {n : Nat} (hscan : σ.doing who = .scanning [] n) :
      Step s σ (.sent who (.flush σ.nextWaiter)) (σ.await who (some n))
  /-- The writer handles the oldest message. -/
  | handles (clock : Int) {m : Message} {rest : List Message}
      (hqueue : σ.writer.queue = m :: rest) : Step s σ (.handled clock m) (σ.handle s clock)
  /-- A caller that was told goes on. -/
  | returns {who : ι} {waiter : Nat} {answered? : Option Nat}
      (hwaits : σ.doing who = .waiting waiter answered?) (hserved : waiter ∈ σ.writer.served) :
      Step s σ (.returned who waiter answered?) (σ.turn who .idle)
  /-- A caller gives up what it was doing. -/
  | abandons {who : ι} : Step s σ (.quiet who) (σ.turn who .idle)

/-- **A run** with what happened in it. -/
inductive Run (s : Store) (σ : System ι) : List (Event ι) → System ι → Prop where
  /-- Nothing happened. -/
  | nil : Run s σ [] σ
  /-- One thing more happened. -/
  | snoc {trace : List (Event ι)} {e : Event ι} {τ τ' : System ι} (run : Run s σ trace τ)
      (step : Step s τ e τ') : Run s σ (trace ++ [e]) τ'

end

/-! ## What happened -/

/-- The find that a message is about. -/
def Message.find? : Message → Option Found
  | device f => some f
  | flush _ => none

namespace Event

/-- The message that is sent. -/
def sent? : Event ι → Option Message
  | sent _ m => some m
  | _ => none

/-- The message that is handled. -/
def handled? : Event ι → Option Message
  | handled _ m => some m
  | _ => none

/-- The find that is handled, and when. -/
def find? : Event ι → Option (Int × Found)
  | handled clock (.device f) => some (clock, f)
  | _ => none

end Event

/-- The messages that were sent. -/
def sent (trace : List (Event ι)) : List Message :=
  trace.filterMap Event.sent?

/-- The messages that were handled. -/
def handled (trace : List (Event ι)) : List Message :=
  trace.filterMap Event.handled?

/-- The finds that were handled, with the times. -/
def finds (trace : List (Event ι)) : List (Int × Found) :=
  trace.filterMap Event.find?

/-- The disk after finds were recorded at some times. -/
def recorded (s : Store) (account : String) (d : Disk) (found : List (Int × Found)) : Disk :=
  found.foldl (fun d (clock, f) => ((record s account f).run (d.atTime clock)).2) d

section

variable (trace : List (Event ι)) (e : Event ι)

@[simp] theorem sent_concat : sent (trace ++ [e]) = sent trace ++ e.sent?.toList := by
  cases h : e.sent? <;> simp [sent, h]

@[simp] theorem handled_concat : handled (trace ++ [e]) = handled trace ++ e.handled?.toList := by
  cases h : e.handled? <;> simp [handled, h]

@[simp] theorem finds_concat : finds (trace ++ [e]) = finds trace ++ e.find?.toList := by
  cases h : e.find? <;> simp [finds, h]

end

/-- The finds that were handled are those of the messages that were. -/
theorem map_finds (trace : List (Event ι)) :
    (finds trace).map (·.2) = (handled trace).filterMap Message.find? := by
  rw [finds, handled, List.map_filterMap, List.filterMap_filterMap]
  refine congrArg (List.filterMap · trace) (funext fun e => ?_)
  cases e with
  | handled clock m => cases m <;> rfl
  | _ => rfl

/-- Finds that come later are recorded on what the earlier ones left. -/
theorem recorded_append (s : Store) (account : String) (d : Disk)
    (front back : List (Int × Found)) :
    recorded s account d (front ++ back) = recorded s account (recorded s account d front) back :=
  List.foldl_append

/-- What is recorded depends on the files alone. -/
theorem recorded_root_congr {d d' : Disk} (h : d.root = d'.root) (s : Store) (account : String)
    (found : List (Int × Found)) :
    (recorded s account d found).root = (recorded s account d' found).root := by
  cases found with
  | nil => exact h
  | cons first found =>
    -- The first record is made at its own time, so only the files count.
    have htime : d.atTime first.1 = d'.atTime first.1 := by rw [Disk.atTime, Disk.atTime, h]
    simp only [recorded, List.foldl_cons, htime]

/-- Recording leaves the clock. -/
theorem clock_record (s : Store) (account : String) (f : Found) (d : Disk) :
    ((record s account f).run d).2.clock = d.clock := by
  have hrecords := records s account f d
  generalize ((record s account f).run d).2 = d' at hrecords
  cases hrecords with
  | unnamed _ => rfl
  | unreadable _ _ => rfl
  | written _ _ h => exact h.clock

/-- **If the clock stands still** the finds are those that one caller publishes. -/
theorem recorded_eq_publish (s : Store) (account : String) (d : Disk) (found : List Found) :
    (recorded s account d (found.map (d.clock, ·))).root = (publish s account found d).root := by
  rw [publish_eq, recorded, List.foldl_map]
  generalize hclock : d.clock = clock
  induction found generalizing d with
  | nil => rfl
  | cons f found ih =>
    -- A record leaves the clock, so the next one is made at the same time.
    subst hclock
    rw [List.foldl_cons, List.foldl_cons]
    exact ih ((record s account f).run d).2 (clock_record s account f d)

/-- **A find that cannot be recorded** is one that fails to be saved. -/
theorem fails_record {s : Store} {account : String} {f : Found} {d : Disk} {e : Error}
    (h : ((record s account f).run d).1 = .error e) :
    s.Fails d ((record s account f).run d).2 := by
  rcases ha : Identifier.ofText account with e | a
  · rw [record, ha]
    exact .refused
  rcases hid : Identifier.ofText f.id with e | id
  · rw [record, ha, Action.ok_bind, hid]
    exact .refused
  rw [record, ha, Action.ok_bind, hid, Action.ok_bind] at h ⊢
  -- The record is read before anything is written.
  rcases hknown : s.deviceOrNew a id d with e | known
  · rw [Action.run_look_bind_error hknown]
    exact .refused
  · rw [Action.run_look_bind_ok hknown] at h ⊢
    have hwrites := writes_saveDevice s a id (merged f known) d
    rw [h] at hwrites
    exact .broken hwrites

/-! ## One step -/

/-- The writer takes the oldest message from the queue. -/
theorem Writer.step_of_cons {w : Writer} {m : Message} {rest : List Message}
    (h : w.queue = m :: rest) (s : Store) (d : Disk) :
    w.step s d = handle s m { w with queue := rest } d := by
  rw [step, h]

namespace Step

variable [DecidableEq ι] {s : Store} {σ τ : System ι} {e : Event ι}

/-- What is sent goes to the end of the queue, and what is handled was at its front. -/
theorem queue (h : Step s σ e τ) :
    e.handled?.toList ++ τ.writer.queue = σ.writer.queue ++ e.sent?.toList := by
  cases h with
  | @handles clock m rest hqueue =>
    -- It goes from the front of the queue to what was handled.
    rw [System.handle, Writer.step_of_cons hqueue, hqueue]
    cases m <;> simp [Event.handled?, Event.sent?, Writer.handle]
  | begins | misses | returns | abandons => exact (List.append_nil _).symm
  | publishes | flushes | finds | asked => rfl

/-- The account stays. -/
theorem account (h : Step s σ e τ) : τ.writer.account = σ.writer.account := by
  cases h with
  | @handles clock m rest hqueue =>
    rw [System.handle, Writer.step_of_cons hqueue]
    cases m <;> rfl
  | _ => rfl

/-- **Files change by finds that are handled** alone. -/
theorem root (h : Step s σ e τ) :
    τ.disk.root = (recorded s σ.writer.account σ.disk e.find?.toList).root := by
  cases h with
  | @handles clock m rest hqueue =>
    rw [System.handle, Writer.step_of_cons hqueue]
    cases m <;> rfl
  | _ => rfl

/-- Whoever is told was told before, or is it by the message that is handled. -/
theorem served (h : Step s σ e τ) {waiter : Nat} (hserved : waiter ∈ τ.writer.served) :
    waiter ∈ σ.writer.served ∨ e.handled? = some (.flush waiter) := by
  cases h with
  | @handles clock m rest hqueue =>
    rw [System.handle, Writer.step_of_cons hqueue] at hserved
    cases m with
    | device f => exact .inl hserved
    | flush other =>
      -- Nobody is told but the one who sent it.
      refine (List.mem_append.1 hserved).imp_right fun h => ?_
      rw [List.mem_singleton.1 h]
      rfl
  | _ => exact .inl hserved

/-- Numbers are not used twice. -/
theorem nextWaiter (h : Step s σ e τ) : σ.nextWaiter ≤ τ.nextWaiter ∧
    ∀ waiter, e.sent? = some (.flush waiter) → waiter = σ.nextWaiter ∧ waiter < τ.nextWaiter := by
  cases h with
  | flushes | asked =>
    refine ⟨Nat.le_succ _, ?_⟩
    rintro waiter ⟨⟩
    exact ⟨rfl, Nat.lt_succ_self _⟩
  | _ => exact ⟨Nat.le_refl _, nofun⟩

/-- **Who waits** has just sent the message that it waits for, or waited before and has sent
nothing. -/
theorem waiting (h : Step s σ e τ) {who : ι} {waiter : Nat} {answered? : Option Nat}
    (hwaits : τ.doing who = .waiting waiter answered?) :
    e = .sent who (.flush waiter)
      ∨ σ.doing who = .waiting waiter answered? ∧ ∀ m, e ≠ .sent who m := by
  -- A caller that turned to something else than to wait is another one.
  have hother {ρ : System ι} {other : ι} {activity : Activity}
      (hne : activity ≠ .waiting waiter answered?)
      (hturned : (ρ.turn other activity).doing who = .waiting waiter answered?) :
      who ≠ other ∧ ρ.doing who = .waiting waiter answered? := by
    rw [System.doing_turn] at hturned
    split at hturned
    · exact absurd hturned hne
    · exact ⟨‹_›, hturned⟩
  cases h with
  | @publishes other f hidle =>
    refine .inr ⟨hwaits, ?_⟩
    rintro m ⟨⟩
    cases hidle.symm.trans hwaits
  | handles => exact .inr ⟨hwaits, nofun⟩
  | begins | misses | returns | abandons => exact .inr ⟨(hother (by nofun) hwaits).2, nofun⟩
  | @finds other host hosts n speakers f hscan hprobe =>
    obtain ⟨hne, hwaits⟩ := hother (by nofun) hwaits
    refine .inr ⟨hwaits, ?_⟩
    rintro m ⟨⟩
    exact hne rfl
  | flushes | asked =>
    rcases System.waiting_of_await hwaits with ⟨rfl, rfl⟩ | ⟨hne, hwaits⟩
    · exact .inl rfl
    · refine .inr ⟨hwaits, ?_⟩
      rintro m ⟨⟩
      exact hne rfl

end Step

/-! ## All steps -/

namespace Run

variable [DecidableEq ι] {s : Store} {ρ σ τ : System ι} {trace : List (Event ι)} {e : Event ι}

/-- A run goes on where another one ends. -/
theorem append {more : List (Event ι)} (run : Run s ρ trace σ) (next : Run s σ more τ) :
    Run s ρ (trace ++ more) τ := by
  induction next with
  | nil => rwa [List.append_nil]
  | snoc _ step ih =>
    rw [← List.append_assoc]
    exact ih.snoc step

/-- One step is a run. -/
theorem single (step : Step s ρ e σ) : Run s ρ [e] σ :=
  nil.snoc step

/-- **A run is taken apart** in front of what happened in it. -/
theorem before {front back : List (Event ι)} (run : Run s ρ (front ++ e :: back) τ) :
    ∃ σ σ', Run s ρ front σ ∧ Step s σ e σ' := by
  generalize htrace : front ++ e :: back = trace at run
  -- By induction on the run, which is on what came after.
  induction run generalizing back with
  | nil => simp at htrace
  | @snoc trace e' τ τ' run step ih =>
    rcases List.eq_nil_or_concat back with rfl | ⟨back, last, rfl⟩
    · obtain ⟨rfl, hlast⟩ := List.append_inj' htrace rfl
      obtain rfl := List.singleton_inj.1 hlast
      exact ⟨τ, τ', run, step⟩
    · rw [List.concat_eq_append, ← List.cons_append, ← List.append_assoc] at htrace
      exact ih (List.append_inj' htrace rfl).1

variable {account : String} {d : Disk} (run : Run s (System.start account d) trace σ)
include run

/-- **Messages leave the queue** in the order in which they came. -/
theorem queue : sent trace = handled trace ++ σ.writer.queue := by
  induction run with
  | nil => rfl
  | snoc run step ih => rw [sent_concat, handled_concat, ih, List.append_assoc,
      List.append_assoc, step.queue]

/-- Everything is filed under one account. -/
theorem account_eq : σ.writer.account = account := by
  induction run with
  | nil => rfl
  | snoc run step ih => rw [step.account, ih]

/-- **The files are those that the finds made** in their order. -/
theorem root : σ.disk.root = (recorded s account d (finds trace)).root := by
  induction run with
  | nil => rfl
  | snoc run step ih =>
    rw [step.root, finds_concat, recorded_append, run.account_eq]
    exact recorded_root_congr ih s account _

/-- **Whoever is told** was come to. -/
theorem served {waiter : Nat} (hserved : waiter ∈ σ.writer.served) :
    .flush waiter ∈ handled trace := by
  induction run with
  | nil => cases hserved
  | snoc run step ih =>
    rw [handled_concat, List.mem_append]
    refine (step.served hserved).imp ih fun h => ?_
    rw [h]
    exact List.mem_singleton_self _

/-- Numbers that were used are not new. -/
theorem lt_nextWaiter {waiter : Nat} (hsent : .flush waiter ∈ sent trace) :
    waiter < σ.nextWaiter := by
  induction run with
  | nil => cases hsent
  | @snoc trace e τ τ' run step ih =>
    rw [sent_concat, List.mem_append, Option.mem_toList] at hsent
    rcases hsent with hold | hnew
    · exact (ih hold).trans_le step.nextWaiter.1
    · exact (step.nextWaiter.2 waiter hnew).2

/-- **Who waits** has sent a message that nobody sent before, and nothing since. -/
theorem waiting {who : ι} {waiter : Nat} {answered? : Option Nat}
    (hwaits : σ.doing who = .waiting waiter answered?) :
    ∃ front back, trace = front ++ .sent who (.flush waiter) :: back
      ∧ .flush waiter ∉ sent front ∧ ∀ m, .sent who m ∉ back := by
  induction run with
  | nil => cases hwaits
  | @snoc trace e τ τ' run step ih =>
    rcases step.waiting hwaits with rfl | ⟨hwaited, hsilent⟩
    · refine ⟨trace, [], rfl, fun hsent => ?_, fun m => List.not_mem_nil⟩
      have hnew := (step.nextWaiter.2 waiter rfl).1
      exact (run.lt_nextWaiter hsent).ne hnew
    · obtain ⟨front, back, rfl, hfirst, hsince⟩ := ih hwaited
      refine ⟨front, back ++ [e], by simp, hfirst, fun m hm => ?_⟩
      rw [List.mem_append, List.mem_singleton] at hm
      exact hm.elim (hsince m) fun h => hsilent m h.symm

/-- The queue was handled up to the first place of a message that was handled. -/
theorem handled_of_first {front back : List Message} {m : Message}
    (hsent : sent trace = front ++ m :: back) (hfirst : m ∉ front) (hm : m ∈ handled trace) :
    front ++ [m] <+: handled trace := by
  have hhandled : handled trace <+: front ++ m :: back := ⟨σ.writer.queue, hsent ▸ run.queue.symm⟩
  have hplace : front ++ [m] <+: front ++ m :: back := ⟨back, by simp⟩
  rcases List.prefix_or_prefix_of_prefix hplace hhandled with hdone | hshort
  · exact hdone
  -- If not as much was handled, it was all in front of the message.
  rcases List.prefix_concat_iff.1 hshort with hall | hfront
  · rw [hall]
  · exact absurd (hfront.subset hm) hfirst

/-- **Who goes on was waiting for all that came before**: it had sent a message that nobody sent
before, nothing since, and everything up to that message was handled. -/
theorem returned {front back : List (Event ι)} {who : ι} {waiter : Nat} {answered? : Option Nat}
    (htrace : trace = front ++ .returned who waiter answered? :: back) :
    ∃ before after, front = before ++ .sent who (.flush waiter) :: after
      ∧ .flush waiter ∉ sent before ∧ (∀ m, .sent who m ∉ after)
      ∧ sent before ++ [.flush waiter] <+: handled front := by
  subst htrace
  obtain ⟨τ, τ', hfront, step⟩ := run.before
  cases step with
  | returns hwaits hserved =>
    -- Nobody else has sent this number, so it is this very message that was handled.
    obtain ⟨before, after, rfl, hfirst, hsince⟩ := hfront.waiting hwaits
    have hsent : sent (before ++ .sent who (.flush waiter) :: after)
        = sent before ++ .flush waiter :: sent after := List.filterMap_append
    exact ⟨before, after, rfl, hfirst, hsince,
      hfront.handled_of_first hsent hfirst (hfront.served hserved)⟩

end Run

/-! ## What cannot be recorded -/

/-- **A find that cannot be recorded** keeps everything that is stored, and is taken from the queue
like any other message. -/
theorem handle_of_error {s : Store} {σ : System ι} {clock : Int} {f : Found} {rest : List Message}
    {e : Error} (hqueue : σ.writer.queue = .device f :: rest)
    (h : ((record s σ.writer.account f).run (σ.disk.atTime clock)).1 = .error e) :
    (σ.handle s clock).writer = { σ.writer with queue := rest }
      ∧ s.Kept σ.disk (σ.handle s clock).disk := by
  have hkept := (fails_record h).kept
  rw [System.handle, Writer.step_of_cons hqueue]
  exact ⟨rfl, hkept.documents, hkept.devices⟩

/-- **The writer is never held up**: at any times it handles all that is in the queue. -/
theorem exists_run_handled [DecidableEq ι] (s : Store) (σ : System ι) (times : List Int)
    (htimes : times.length = σ.writer.queue.length) :
    ∃ τ, Run s σ (List.zipWith .handled times σ.writer.queue) τ ∧ τ.writer.queue = [] := by
  -- By induction on the queue, for every system that has it.
  generalize hqueue : σ.writer.queue = queue at htimes
  induction queue generalizing σ times with
  | nil => exact ⟨σ, by simpa using Run.nil, hqueue⟩
  | cons m rest ih =>
    obtain _ | ⟨clock, times⟩ := times
    · cases htimes
    have step : Step s σ (.handled clock m) (σ.handle s clock) := .handles clock hqueue
    have hrest : (σ.handle s clock).writer.queue = rest := by
      have hstep := step.queue
      rw [hqueue] at hstep
      simpa [Event.handled?, Event.sent?] using hstep
    obtain ⟨τ, run, hempty⟩ := ih (σ.handle s clock) times hrest (Nat.succ.inj htimes)
    exact ⟨τ, (Run.single step).append run, hempty⟩

/-! ## All of it -/

/-- **The writer loses, repeats and reorders nothing**, however the steps of any callers and of the
writer come one after the other, and whatever speakers are there when hosts are asked:

* The messages that were handled are the first of those that were sent, in their order, and those in
  the queue are the others. The files are those that recording the finds that were handled made, in
  that order.
* A find that cannot be recorded keeps everything that is stored, and is taken from the queue like
  any other message.
* At any times the writer can handle all that is in the queue.
* A caller that waited, by itself or at the end of a scan, goes on only when everything was handled
  that anyone had sent before the message that it waits for. It sends nothing in between, so what a
  scan has found is among it. -/
theorem writer_loses_nothing [DecidableEq ι] (s : Store) (account : String) (d : Disk)
    {trace : List (Event ι)} {σ : System ι} (run : Run s (System.start account d) trace σ) :
    (sent trace = handled trace ++ σ.writer.queue
        ∧ (finds trace).map (·.2) = (handled trace).filterMap Message.find?
        ∧ σ.disk.root = (recorded s account d (finds trace)).root)
      ∧ (∀ clock f rest e, σ.writer.queue = .device f :: rest →
        ((record s account f).run (σ.disk.atTime clock)).1 = .error e →
        ∀ τ, Step s σ (.handled clock (.device f)) τ →
          τ.writer = { σ.writer with queue := rest } ∧ s.Kept σ.disk τ.disk)
      ∧ (∀ times : List Int, times.length = σ.writer.queue.length →
        ∃ τ, Run s σ (List.zipWith .handled times σ.writer.queue) τ ∧ τ.writer.queue = [])
      ∧ ∀ front who waiter answered? back, trace = front ++ .returned who waiter answered? :: back →
        ∃ before after, front = before ++ .sent who (.flush waiter) :: after
          ∧ .flush waiter ∉ sent before ∧ (∀ m, .sent who m ∉ after)
          ∧ sent before ++ [.flush waiter] <+: handled front := by
  refine ⟨⟨run.queue, map_finds trace, run.root⟩, ?_, exists_run_handled s σ,
    fun _ _ _ _ _ => run.returned⟩
  intro clock f rest e hqueue herror τ step
  cases step with
  | handles =>
    rw [← run.account_eq] at herror
    exact handle_of_error hqueue herror

/-- A caller that publishes a find with no id and waits goes on after what another one published
before, whose find is stored all the same. -/
theorem waits_for_others :
    let s : Store := { directory := Path.ofTexts ["data"] }
    let d : Disk := { clock := 0 }
    let kitchen : Found := { id := "D", name := "Kitchen", host := "10.0.0.8", model := "" }
    let nameless : Found := { id := "", name := "", host := "10.0.0.9", model := "" }
    let front : List (Event Bool) := [.sent true (.device kitchen), .sent false (.device nameless),
      .sent false (.flush 0), .handled 1 (.device kitchen), .handled 2 (.device nameless),
      .handled 3 (.flush 0)]
    ∃ σ, Run s (System.start "A" d) (front ++ [.returned false 0 none]) σ
      ∧ σ.disk.root = (recorded s "A" d [(1, kitchen), (2, nameless)]).root
      ∧ ∃ before after, front = before ++ .sent false (.flush 0) :: after
        ∧ sent before ++ [.flush 0] <+: handled front := by
  intro s d kitchen nameless front
  have run := ((((((Run.nil (s := s) (σ := System.start "A" d)).snoc
    (@Step.publishes Bool _ _ _ true kitchen rfl)).snoc
    (@Step.publishes Bool _ _ _ false nameless rfl)).snoc
    (@Step.flushes Bool _ _ _ false rfl)).snoc (.handles 1 rfl)).snoc (.handles 2 rfl)).snoc
    (.handles 3 rfl) |>.snoc (@Step.returns Bool _ _ _ false 0 none rfl List.mem_cons_self)
  have hall := writer_loses_nothing s "A" d run
  obtain ⟨before, after, hfront, -, -, hhandled⟩ := hall.2.2.2 front false 0 none [] rfl
  exact ⟨_, run, hall.1.2.2, before, after, hfront, hhandled⟩

end SpeakerHub.Discovery
