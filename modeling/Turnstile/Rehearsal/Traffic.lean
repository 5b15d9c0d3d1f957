import Turnstile.Http.Service
import Turnstile.Rehearsal.Scene

/-!
Scripted traffic: requests to a service one after the other, some of them started and awaited later.
A timer stands still except when somebody waits; who waits lets every wait end that is due by then,
in the order of the times at which they are due and of their starts.
-/

namespace Turnstile.Rehearsal

/-- A step of a script: a request to be answered, one to be started under a name, or the wait for a
started one. -/
inductive TrafficStep
  | send (request : Http.Request)
  | start (id : String) (request : Http.Request)
  | await (id : String)

/-- What a request came to. -/
inductive Delivery
  | response (response : Http.Response)
  | brokenOff (message : String)

/-- What a step answered, with the identifier that its request brought along. -/
inductive TrafficAnswer
  | started
  | delivered (delivery : Delivery) (requestId : Option String)
  | unknown

/-- What a request waits for: the end of its operation, or the end of its patience with a store that
does not answer a probe, after which it has its response. -/
inductive Pending
  | operation (held : Http.Held)
  | probe (response : Http.Response)

/-- A request that waits: its number, the time at which the wait ends, and the request itself. -/
structure Waiting where
  number : Nat
  due : Nat
  pending : Pending
  request : Http.Request

/-- The state of the traffic. -/
structure Road (σ : Type) where
  scene : Scene σ
  waiting : List Waiting
  delivered : List (Nat × Delivery)
  names : List (String × Nat × Http.Request)
  timer : Nat
  next : Nat

/-- What traffic is played on; a probe that is not answered is given up after a number of
milliseconds. -/
structure Site (σ : Type) where
  bench : Bench σ
  settings : Settings
  exposesMeasures : Bool
  probeTimeoutMillis : Nat

namespace Site

variable {σ : Type}

/-- The service of a site. -/
def service (s : Site σ) : Http.Service (Stage σ) :=
  ⟨⟨Stage.store s.bench.store, s.settings.guards.keyPrefix⟩, s.settings, s.exposesMeasures⟩

/-- Delivers the response to a request and counts the request. -/
def deliver (r : Road σ) (number : Nat) (request : Http.Request) (response : Http.Response) :
    Road σ :=
  { r with
    scene := r.scene.note (Http.Service.counted request response)
    delivered := r.delivered ++ [(number, .response response)] }

/-- Ends a wait. -/
def settle (s : Site σ) (r : Road σ) (w : Waiting) : Road σ :=
  match w.pending with
  | .operation held =>
    let (scene, response) := r.scene.traced (s.service.settle held r.scene.stage r.scene.moment)
    deliver { r with scene := scene } w.number w.request response
  | .probe response => deliver r w.number w.request response

/-- Whether one wait ends before another. -/
def endsBefore (a b : Waiting) : Bool := a.due < b.due || (a.due = b.due && a.number < b.number)

/-- Lets the timer run to a time, and every wait end that is due by then. -/
def runTo (s : Site σ) (r : Road σ) (time : Nat) : Road σ :=
  let due := (r.waiting.filter (·.due ≤ time)).mergeSort endsBefore
  let r := { r with waiting := r.waiting.filter fun w => !(w.due ≤ time) }
  { due.foldl s.settle r with timer := max r.timer time }

/-- Lets a request wait for some milliseconds, unless there are none. -/
def hold (s : Site σ) (r : Road σ) (number millis : Nat) (pending : Pending)
    (request : Http.Request) : Road σ :=
  let w : Waiting := ⟨number, r.timer + millis, pending, request⟩
  if millis = 0 then s.settle r w else { r with waiting := r.waiting ++ [w] }

/-- Takes in a request under a number. -/
def takeIn (s : Site σ) (r : Road σ) (number : Nat) (request : Http.Request) : Road σ :=
  let readings : Http.Readings := ⟨r.scene.counters, Effect.measures r.scene.effects, 0⟩
  let (scene, acceptance) :=
    r.scene.traced (s.service.accept request readings r.scene.stage r.scene.moment)
  let r := { r with scene := scene }
  match acceptance with
  | .answered response false => deliver r number request response
  | .answered response true => s.hold r number s.probeTimeoutMillis (.probe response) request
  | .brokenOff message => { r with delivered := r.delivered ++ [(number, .brokenOff message)] }
  | .held held => s.hold r number held.delayMillis (.operation held) request

/-- Waits for the delivery to a request. -/
def awaitNumber (s : Site σ) (r : Road σ) (number : Nat) (request : Http.Request) :
    Road σ × TrafficAnswer :=
  let r := match r.waiting.find? (·.number = number) with
    | some w => s.runTo r w.due
    | none => r
  match r.delivered.lookup number with
  | some delivery => (r, .delivered delivery (Http.Service.requestId? request))
  | none => (r, .unknown)

/-- Plays a step. -/
def play (s : Site σ) (r : Road σ) : TrafficStep → Road σ × TrafficAnswer
  | .send request =>
    let number := r.next
    let r := s.takeIn { r with next := number + 1 } number request
    s.awaitNumber r number request
  | .start id request =>
    let number := r.next
    let r := { r with next := number + 1, names := (id, number, request) :: r.names }
    (s.takeIn r number request, .started)
  | .await id =>
    match r.names.lookup id with
    | some (number, request) => s.awaitNumber r number request
    | none => (r, .unknown)

/-- The road before the first request. -/
def road (s : Site σ) (plans : List (Method × Plan)) : Road σ :=
  let scene : Scene σ := .of s.bench
  ⟨{ scene with stage := scene.stage.plan plans }, [], [], [], 0, 0⟩

/-- Plays traffic. -/
def traffic (s : Site σ) (plans : List (Method × Plan)) (steps : List TrafficStep) :
    Road σ × List TrafficAnswer :=
  steps.foldl (fun (r, answers) step =>
    let (r, answer) := s.play r step
    (r, answers ++ [answer])) (s.road plans, [])

end Site

end Turnstile.Rehearsal
