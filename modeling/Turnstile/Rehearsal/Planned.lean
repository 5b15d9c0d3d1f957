import Turnstile.Store.Memory
import Turnstile.Store.Remote

/-!
Stores under rehearsal: a store in front of which answers can be planned, call by call, and which
keeps a journal of its calls and of the leases that it granted. A planned answer takes the place of
the call.
-/

namespace Turnstile.Rehearsal

/-- The steps of a store. -/
inductive Method
  | claim
  | complete
  | release
  | seize
  | read
  | purge
  | ping
deriving DecidableEq, Repr

/-- A call in the journal. -/
inductive Call
  | claim (key : String) (millis : Nat)
  | seize (key : String) (millis : Nat)
  | complete (key : String) (owner : Token) (status : Nat) (millis : Nat)
  | release (key : String) (owner : Token)
  | read (key : String)
  | purge
  | ping
deriving DecidableEq

/-- An answer planned for a call: the store's own, a fault, a lost lease, a completed record that
lacks its outcome or only its payload, or a probe that is answered late or never. -/
inductive Plan
  | pass
  | unavailable
  | internal
  | stale
  | bareCompleted
  | withoutPayload
  | slow
  | silent
deriving DecidableEq, Repr

/-- The state of a store under rehearsal. -/
structure Stage (σ : Type) where
  inner : σ
  plans : List (Method × Plan)
  journal : List Call
  granted : List Token

namespace Stage

variable {σ α : Type}

/-- A stage without plans. -/
def of (inner : σ) : Stage σ := ⟨inner, [], [], []⟩

/-- Adds plans behind those that are waiting. -/
def plan (s : Stage σ) (plans : List (Method × Plan)) : Stage σ :=
  { s with plans := s.plans ++ plans }

/-- Notes a call and takes the next plan for its method. -/
def take (s : Stage σ) (method : Method) (call : Call) : Plan × Stage σ :=
  let journal := s.journal ++ [call]
  match s.plans.find? (·.1 = method) with
  | some (_, plan) =>
    (plan, { s with plans := s.plans.eraseP (·.1 = method), journal := journal })
  | none => (.pass, { s with journal := journal })

/-- The fault that a plan stands for. -/
def faultOf? : Plan → Option Fault
  | .unavailable => some (.unavailable "connection refused")
  | .internal => some (.internal "store broke")
  | _ => none

/-- A step whose answer was planned. -/
def answered (s : Stage σ) (result : Attempt α) : Step (Stage σ) α := ⟨s, [], result⟩

/-- The store's own step. -/
def performed (s : Stage σ) (step : Step σ α) : Step (Stage σ) α :=
  ⟨{ s with inner := step.state }, step.effects, step.result⟩

/-- Notes a lease. -/
def grant (s : Stage σ) (owner : Token) : Stage σ := { s with granted := s.granted ++ [owner] }

/-- The planned answer of a call if there is one, else the store's own. -/
def run (s : Stage σ) (method : Method) (call : Call) (planned? : Plan → Option (Attempt α))
    (perform : σ → Step σ α) : Step (Stage σ) α :=
  let (plan, s) := s.take method call
  match (faultOf? plan).map Attempt.failed <|> planned? plan with
  | some result => answered s result
  | none => performed s (perform s.inner)

/-- A completed record without a status, or with a status and without a payload. -/
def bareRecord (m : Moment) (key : String) (status : Option UInt16) : Record :=
  ⟨key, .completed, m.fresh, status, none, m.now, m.now⟩

/-- The planned answer to a claim. -/
def plannedClaim (m : Moment) (key : String) : Plan → Option (Attempt Claim)
  | .bareCompleted => some (.done (.conflict (bareRecord m key none)))
  | .withoutPayload => some (.done (.conflict (bareRecord m key (some 202))))
  | _ => none

/-- The planned answer to the end of a lease. -/
def plannedFinality : Plan → Option (Attempt Finality)
  | .stale => some (.done .stale)
  | _ => none

/-- The planned answer to a probe. -/
def plannedPong : Plan → Option (Attempt Pong)
  | .slow => some (.done .slow)
  | .silent => some (.done .silent)
  | _ => none

/-- No other answer is planned. -/
def noPlan : Plan → Option (Attempt α) := fun _ => none

/-- A store under rehearsal. -/
def store (inner : Store σ) : Store (Stage σ) where
  backend := inner.backend
  claim := fun s m key lease =>
    let step := s.run .claim (.claim key lease.millis) (plannedClaim m key)
      fun s => inner.claim s m key lease
    match step.result with
    | .done (.acquired owner) => { step with state := step.state.grant owner }
    | _ => step
  complete := fun s now key owner outcome window =>
    s.run .complete (.complete key owner outcome.status.toNat window.millis) plannedFinality
      fun s => inner.complete s now key owner outcome window
  release := fun s now key owner =>
    s.run .release (.release key owner) plannedFinality fun s => inner.release s now key owner
  seize := fun s m key lease =>
    let step := s.run .seize (.seize key lease.millis) noPlan fun s => inner.seize s m key lease
    match step.result with
    | .done owner => { step with state := step.state.grant owner }
    | _ => step
  read := fun s now key => s.run .read (.read key) noPlan fun s => inner.read s now key
  purge := fun s now => s.run .purge .purge noPlan fun s => inner.purge s now
  ping := fun s => s.run .ping .ping plannedPong inner.ping

end Stage

/-! ## Benches -/

/-- What a rehearsal needs to know of a store besides its steps: its first state, how many records
it holds, and how to reach the server behind it. -/
structure Bench (σ : Type) where
  store : Store σ
  initial : σ
  size? : σ → Option Nat
  reply : List Reply → σ → σ
  put : String → List (String × String) → σ → σ
  hashes : σ → List (String × Hash)

/-- The bench of the store in memory. -/
def Bench.memory : Bench Memory.State where
  store := Memory.store
  initial := .empty
  size? := fun s => some s.size
  reply := fun _ s => s
  put := fun _ _ s => s
  hashes := fun _ => []

/-- The bench of the store on a server. -/
def Bench.remote (keyPrefix : String) (reachable : Bool) : Bench Remote.State where
  store := Remote.store keyPrefix
  initial := { (default : Remote.State) with reachable := reachable }
  size? := fun _ => none
  reply := fun replies s => { s with scripted := s.scripted ++ replies }
  put := fun key fields s => { s with keys := s.keys.put key ⟨.ofList fields, none⟩ }
  hashes := fun s => s.keys.hashes.entries

end Turnstile.Rehearsal
