import Turnstile.Cleanup
import Turnstile.Rehearsal.Scene

/-!
Scripted sessions: a list of actions on one guard and its store, with reports of what each of them
answered and changed. The operation of a call may run further actions before it ends, and a started
call waits until it is finished, so any interleaving of calls can be played.
-/

namespace Turnstile.Rehearsal

/-! ## Scripts -/

/-- A token named by a script: one that was granted, counted from one, a given one, or one that
nobody holds. -/
inductive TokenRef
  | granted (n : Nat)
  | given (token : Token)
  | stranger
deriving DecidableEq

/-- A key named by a script: as it is in the store, or of a client under a policy. -/
inductive KeyRef
  | stored (key : String)
  | client (policy : Policy) (rawKey : String)

/-- Where the key of a call comes from. -/
inductive KeyGiven
  | key (rawKey : String)
  | request (extractor : Extractor) (source : KeySource)

/-- What the operation of a call does in the end: it breaks off, fails, or returns; without a
payload it returns the number of its call. -/
structure Work where
  status : UInt16
  payload : Option Json
  failure : Option Fault
  panic : Option String

/-- A call to make. -/
structure CallPlan where
  policy : Policy
  key : KeyGiven
  bypass : Bool
  work : Work

/-- An action of a script. -/
inductive Action
  | execute (call : CallPlan) (during : List Action)
  | start (id : String) (call : CallPlan) (during : List Action)
  | drop (id : String)
  | finish (id : String)
  | claim (key : KeyRef) (lease : Span)
  | seize (key : KeyRef) (lease : Span)
  | complete (key : KeyRef) (owner : TokenRef) (outcome : Outcome) (window : Span)
  | release (key : KeyRef) (owner : TokenRef)
  | read (key : KeyRef)
  | purge
  | ping
  | isEmpty
  | plan (plans : List (Method × Plan))
  | cleanupOnce
  | cleanupStart (period : Nat)
  | advance (millis : Nat)
  | put (key : String) (fields : List (String × String))
  | dump
  | reply (replies : List Reply)

mutual

/-- The number of actions in an action. -/
def Action.weight : Action → Nat
  | .execute _ during => weightAll during + 1
  | .start _ _ during => weightAll during + 1
  | _ => 1

/-- The number of actions in a list. -/
def weightAll : List Action → Nat
  | [] => 0
  | a :: rest => a.weight + weightAll rest

end

/-! ## Reports -/

/-- The hash of a key as a dump shows it: the time to live and the fields. -/
abbrev DumpedHash := String × Option Nat × List (String × String)

mutual

/-- What an action answered. -/
inductive Answer
  | called (result : Except (CallError Fault) Outcome) (calls : Nat) (during : List Report)
  | running (calls : Nat)
  | brokenOff (message : String)
  | dropped
  | cancelled
  | unknown
  | acquired (owner : Token)
  | conflict (existing : Record)
  | finality (value : Finality)
  | record (found : Option Record)
  | purged (count : Nat)
  | pong (backend : String)
  | failed (fault : Fault)
  | empty (value : Option Bool)
  | queued
  | purgedOnce (count : Nat)
  | alive (value : Bool)
  | advanced
  | set
  | hashes (found : List DumpedHash)

/-- What an action left: its answer, the counters that changed, the store's calls, and the number of
records. -/
inductive Report
  | mk (answer : Answer) (changed : List (Counter × Nat)) (journal : List Call) (size : Option Nat)

end

/-! ## The stage -/

/-- A started call that waits: its lease, its work with the number of its call, what runs before it
ends, and whether its caller has gone. -/
structure Running where
  lease : Lease
  window : Span
  work : Work
  number : Nat
  during : List Action
  dropped : Bool

/-- The state of a session. -/
structure World (σ : Type) where
  scene : Scene σ
  running : List (String × Running)
  jobs : List CleanupJob
  timer : Nat
  shown : Counters
  reported : Nat

/-- What a session is played on. -/
structure Cast (σ : Type) where
  bench : Bench σ
  keyPrefix : String

namespace Cast

variable {σ : Type}

/-- The store under rehearsal. -/
def store (c : Cast σ) : Store (Stage σ) := Stage.store c.bench.store

/-- The guard of the session. -/
def guard (c : Cast σ) : Guard (Stage σ) := ⟨c.store, c.keyPrefix⟩

/-- The state before the first action. -/
def world (c : Cast σ) : World σ := ⟨.of c.bench, [], [], 0, .zero, 0⟩

/-- The key that a script names. -/
def keyOf (c : Cast σ) : KeyRef → String
  | .stored key => key
  | .client policy rawKey => c.guard.canonicalKey policy rawKey

/-- The token that a script names; a stranger's is drawn from the supply and never granted. -/
def tokenOf (w : World σ) : TokenRef → Token
  | .given token => token
  | .granted n => (if n = 0 then none else w.scene.stage.granted[n - 1]?).getD (.serial 0)
  | .stranger => .serial 0

/-! ## Calls -/

/-- How the work of a call ends. -/
def endingOf (work : Work) (number : Nat) : Ending Fault :=
  match work.panic, work.failure with
  | some message, _ => .panicked message
  | none, some fault => .failed fault
  | none, none =>
    .returned ⟨work.status, work.payload.getD (.ofMembers [("call", .nat number)])⟩

/-- Opens a call. -/
def openCall (c : Cast σ) (w : World σ) (call : CallPlan) : World σ × Opening :=
  let s := w.scene
  let t := match call.key with
    | .key rawKey => c.guard.openWithKey call.policy rawKey call.bypass s.stage s.moment
    | .request extractor source =>
      c.guard.openRequest call.policy extractor source call.bypass s.stage s.moment
  let (scene, opening) := s.traced t
  ({ w with scene := scene }, opening)

/-- Ends a call whose operation has run everything but its end. -/
def closeCall (c : Cast σ) (w : World σ) (r : Running) (during : List Report) :
    World σ × Answer :=
  let (scene, conclusion) := w.scene.traced
    (c.guard.conclude r.lease r.window (endingOf r.work r.number) w.scene.stage now)
  if r.dropped then ({ w with scene := scene }, .cancelled)
  else
    let (scene, result) := scene.traced (c.guard.resolve r.lease conclusion scene.stage now)
    ({ w with scene := scene }, .called result scene.calls during)

/-- The answer of a call that ended without running its operation. -/
def answerOf (w : World σ) : Except Refusal Outcome → Answer
  | .ok outcome => .called (.ok outcome) w.scene.calls []
  | .error refusal => .called (.error (.refused refusal)) w.scene.calls []

/-- The waiting operation of a call. -/
def runningOf (w : World σ) (call : CallPlan) (lease : Lease) (during : List Action) : Running :=
  ⟨lease, call.policy.window, call.work, w.scene.calls, during, false⟩

/-! ## Steps of the store -/

/-- The answer to a step of the store. -/
def answerStep {α : Type} (answer : α → Answer) : Attempt α → Answer
  | .done a => answer a
  | .failed fault => .failed fault
  | .overflow => .brokenOff overflowMessage

/-- Takes a step of the store. -/
def storeStep {α : Type} (w : World σ) (step : Step (Stage σ) α) (answer : α → Answer) :
    World σ × Answer :=
  let (scene, result) := w.scene.stepped step
  ({ w with scene := scene }, answerStep answer result)

/-- The answer to a claim. -/
def claimAnswer : Claim → Answer
  | .acquired owner => .acquired owner
  | .conflict existing => .conflict existing

/-- Lets a number of purges of the cleanup job happen. -/
def tickTimes (c : Cast σ) : Nat → World σ → World σ
  | 0, w => w
  | n + 1, w =>
    let (scene, _) := w.scene.traced (Cleanup.tick c.store w.scene.stage now)
    c.tickTimes n { w with scene := scene }

/-- Lets every job do the purges that are due. -/
def runJobs (c : Cast σ) (w : World σ) : World σ :=
  let w' := w.jobs.foldl (fun w job => c.tickTimes (Cleanup.due job w.timer) w) w
  { w' with jobs := w.jobs.map (Cleanup.advance · w.timer) }

/-- The time to live that is left of a hash, and its fields. -/
def dumped (entry : String × Hash) : DumpedHash :=
  (entry.1, entry.2.expiry.map fun e => e.millis, entry.2.fields.entries)

/-- An action that runs no other. -/
def simple (c : Cast σ) (w : World σ) : Action → World σ × Answer
  | .claim key lease =>
    storeStep w (c.store.claim w.scene.stage w.scene.moment (c.keyOf key) lease) claimAnswer
  | .seize key lease =>
    storeStep w (c.store.seize w.scene.stage w.scene.moment (c.keyOf key) lease) .acquired
  | .complete key owner outcome window =>
    storeStep w (c.store.complete w.scene.stage now (c.keyOf key) (tokenOf w owner) outcome window)
      .finality
  | .release key owner =>
    storeStep w (c.store.release w.scene.stage now (c.keyOf key) (tokenOf w owner)) .finality
  | .read key => storeStep w (c.store.read w.scene.stage now (c.keyOf key)) .record
  | .purge => storeStep w (c.store.purge w.scene.stage now) .purged
  | .ping => storeStep w (c.store.ping w.scene.stage) fun _ => .pong c.store.backend
  | .isEmpty => (w, .empty ((c.bench.size? w.scene.stage.inner).map (· = 0)))
  | .plan plans => ({ w with scene := { w.scene with stage := w.scene.stage.plan plans } }, .queued)
  | .cleanupOnce => storeStep w (c.store.purge w.scene.stage now) .purgedOnce
  | .cleanupStart period =>
    match Cleanup.start? period w.timer with
    | none => (w, .alive false)
    | some job => (c.runJobs { w with jobs := w.jobs ++ [job] }, .alive true)
  | .advance millis => (c.runJobs { w with timer := w.timer + millis }, .advanced)
  | .put key fields => ({ w with scene := w.scene.modifyInner (c.bench.put key fields) }, .set)
  | .dump => (w, .hashes ((c.bench.hashes w.scene.stage.inner).map dumped))
  | .reply replies => ({ w with scene := w.scene.modifyInner (c.bench.reply replies) }, .queued)
  | .drop id =>
    ({ w with running := w.running.map fun (i, r) =>
        if i = id then (i, { r with dropped := true }) else (i, r) }, .dropped)
  | _ => (w, .unknown)

/-! ## Whole sessions -/

/-- The counters with another value than at the last report. -/
def changed (before after : Counters) : List (Counter × Nat) :=
  (Counter.all.filter fun k => before.get k ≠ after.get k).map fun k => (k, after.get k)

/-- Reports an action. -/
def report (c : Cast σ) (w : World σ) (answer : Answer) : World σ × Report :=
  let journal := w.scene.stage.journal
  ({ w with shown := w.scene.counters, reported := journal.length },
   .mk answer (changed w.shown w.scene.counters) (journal.drop w.reported)
     (c.bench.size? w.scene.stage.inner))

mutual

/-- Plays an action; every call nested in another has less fuel. -/
def play (c : Cast σ) : Nat → World σ → Action → World σ × Answer
  | 0, w, _ => (w, .unknown)
  | fuel + 1, w, action =>
    match action with
    | .execute call during =>
      let (w, opening) := c.openCall w call
      match opening with
      | .ended result => (w, answerOf w result)
      | .brokenOff message => (w, .brokenOff message)
      | .running lease => playOut c fuel w (runningOf w call lease during)
    | .start id call during =>
      let (w, opening) := c.openCall w call
      match opening with
      | .ended result => (w, answerOf w result)
      | .brokenOff message => (w, .brokenOff message)
      | .running lease =>
        let r := runningOf w call lease during
        ({ w with running := w.running ++ [(id, r)] }, .running w.scene.calls)
    | .finish id =>
      match w.running.lookup id with
      | some r => playOut c fuel { w with running := w.running.eraseP (·.1 = id) } r
      | none => (w, .unknown)
    | action => c.simple w action

/-- Plays what an operation does before its end, and then ends its call. -/
def playOut (c : Cast σ) : Nat → World σ → Running → World σ × Answer
  | 0, w, _ => (w, .unknown)
  | fuel + 1, w, r =>
    let (w, during) := playAll c fuel w r.during
    c.closeCall w r during

/-- Plays actions one after the other. -/
def playAll (c : Cast σ) : Nat → World σ → List Action → World σ × List Report
  | 0, w, _ => (w, [])
  | _, w, [] => (w, [])
  | fuel + 1, w, action :: rest =>
    let (w, answer) := play c fuel w action
    let (w, first) := c.report w answer
    let (w, others) := playAll c fuel w rest
    (w, first :: others)

end

/-- Plays a session. -/
def session (c : Cast σ) (plans : List (Method × Plan)) (actions : List Action) :
    World σ × List Report :=
  let w := c.world
  let w := { w with scene := { w.scene with stage := w.scene.stage.plan plans } }
  playAll c (3 * weightAll actions + 3) w actions

end Cast

end Turnstile.Rehearsal
