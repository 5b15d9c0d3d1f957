import Turnstile.Json.Decode
import Turnstile.Number.Double

/-!
The counters of guarded calls. Main statement: counting one thing adds one to its counter and leaves
the others alone (`get_bump`).
-/

namespace Turnstile

/-- What is counted. -/
inductive Counter
  | total
  | missingKey
  | new
  | bypassed
  | replayed
  | inProgress
  | repeatRejected
  | completed
  | failed
  | stale
  | storeError
deriving DecidableEq, Repr

namespace Counter

/-- All counters, in the order in which they are shown. -/
def all : List Counter :=
  [.total, .missingKey, .new, .bypassed, .replayed, .inProgress, .repeatRejected, .completed,
   .failed, .stale, .storeError]

/-- The name under which a counter is shown. -/
def name : Counter → String
  | .total => "total_requests"
  | .missingKey => "missing_keys"
  | .new => "new_requests"
  | .bypassed => "bypassed_requests"
  | .replayed => "replayed_requests"
  | .inProgress => "in_progress_rejections"
  | .repeatRejected => "repeat_rejections"
  | .completed => "completed_requests"
  | .failed => "failed_requests"
  | .stale => "stale_finalizations"
  | .storeError => "store_errors"

end Counter

/-- The values of all counters. -/
structure Counters where
  total : Nat
  missingKeys : Nat
  new : Nat
  bypassed : Nat
  replayed : Nat
  inProgress : Nat
  repeatRejected : Nat
  completed : Nat
  failed : Nat
  stale : Nat
  storeErrors : Nat
deriving DecidableEq, Repr

namespace Counters

/-- All counters at zero. -/
def zero : Counters := ⟨0, 0, 0, 0, 0, 0, 0, 0, 0, 0, 0⟩

instance : Inhabited Counters := ⟨zero⟩

/-- The value of a counter. -/
def get (c : Counters) : Counter → Nat
  | .total => c.total
  | .missingKey => c.missingKeys
  | .new => c.new
  | .bypassed => c.bypassed
  | .replayed => c.replayed
  | .inProgress => c.inProgress
  | .repeatRejected => c.repeatRejected
  | .completed => c.completed
  | .failed => c.failed
  | .stale => c.stale
  | .storeError => c.storeErrors

/-- Adds one to a counter. -/
def bump (c : Counters) : Counter → Counters
  | .total => { c with total := c.total + 1 }
  | .missingKey => { c with missingKeys := c.missingKeys + 1 }
  | .new => { c with new := c.new + 1 }
  | .bypassed => { c with bypassed := c.bypassed + 1 }
  | .replayed => { c with replayed := c.replayed + 1 }
  | .inProgress => { c with inProgress := c.inProgress + 1 }
  | .repeatRejected => { c with repeatRejected := c.repeatRejected + 1 }
  | .completed => { c with completed := c.completed + 1 }
  | .failed => { c with failed := c.failed + 1 }
  | .stale => { c with stale := c.stale + 1 }
  | .storeError => { c with storeErrors := c.storeErrors + 1 }

/-- The requests that were answered without running their operation because of an earlier one. -/
def duplicates (c : Counters) : Nat := c.replayed + c.inProgress + c.repeatRejected

/-- The share of duplicates among all requests; zero when there is none. -/
def duplicateRate (c : Counters) : Double :=
  if c.total = 0 then .zero false
  else
    ((Double.ofInt? c.duplicates).bind fun part =>
      (Double.ofInt? c.total).bind part.div?).getD (.zero false)

/-- The counters as JSON. -/
def toJson (c : Counters) : Json := .ofMembers (Counter.all.map fun k => (k.name, .nat (c.get k)))

/-- Reads counters. -/
def decoder : Json.Decoder Counters :=
  let bits64 := Json.Decoder.natBelow (Nat.pow 2 64)
  let count := fun (k : Counter) => Json.Fields.required k.name bits64
  Json.Fields.decode <|
    Counters.mk <$> count .total <*> count .missingKey <*> count .new <*> count .bypassed
      <*> count .replayed <*> count .inProgress <*> count .repeatRejected <*> count .completed
      <*> count .failed <*> count .stale <*> count .storeError

/-! ## Lemmas -/

theorem get_bump (c : Counters) (k k' : Counter) :
    (c.bump k).get k' = if k' = k then c.get k' + 1 else c.get k' := by
  cases k <;> cases k' <;> rfl

end Counters

end Turnstile
