import Turnstile.Text.Percent

/-!
Endpoints of the service: the paths that it answers, the method of each, and the label under which
its requests are counted. Main statement: a plain path is asked for as it stands
(`pathOfTarget_of_plain`).
-/

namespace Turnstile.Http

/-! ## Request targets -/

/-- Whether a character may stand in the name of a scheme. -/
def isSchemeChar (c : Char) : Bool := c.isAlphanum || c = '+' || c = '-' || c = '.'

/-- What follows the scheme of a target; `none` without a scheme. -/
def afterScheme? (target : List Char) : Option (List Char) :=
  let rest := target.dropWhile isSchemeChar
  if "://".toList.isPrefixOf rest then some (rest.drop 3) else none

/-- A path without the query and the fragment behind it. -/
def cutPath (cs : List Char) : List Char := cs.takeWhile fun c => c ≠ '?' ∧ c ≠ '#'

/-- The path that a target asks for. A target is a path, or a scheme with an authority and a path
that may be missing; an authority alone has no path. -/
def pathOfTarget (target : List Char) : List Char :=
  if target.head? = some '/' then cutPath target
  else
    match afterScheme? target with
    | none => if target = ['*'] then target else []
    | some rest =>
      let path := cutPath (rest.dropWhile fun c => c ≠ '/' ∧ c ≠ '?' ∧ c ≠ '#')
      if path.isEmpty then ['/'] else path

theorem cutPath_of_plain {path : List Char} (plain : ∀ c ∈ path, c ≠ '?' ∧ c ≠ '#') :
    cutPath path = path := by
  induction path with
  | nil => rfl
  | cons c cs ih =>
    have first := plain c (by simp)
    have rest := ih fun x hx => plain x (by simp [hx])
    rw [cutPath, List.takeWhile_cons_of_pos (by simpa using first)]
    exact congrArg _ rest

/-- A plain path is asked for as it stands. -/
theorem pathOfTarget_of_plain {path : List Char} (h : path.head? = some '/')
    (plain : ∀ c ∈ path, c ≠ '?' ∧ c ≠ '#') : pathOfTarget path = path := by
  simp [pathOfTarget, h, cutPath_of_plain plain]

/-! ## Endpoints -/

/-- An endpoint; the segment of a path that names an order is still encoded. -/
inductive Endpoint
  | health
  | ready
  | live
  | metrics
  | stats
  | payments
  | slowPayments
  | refunds
  | orders
  | order (segment : String)
  | subscriptions
  | vouchers
deriving DecidableEq, Repr

namespace Endpoint

/-- The paths that stand for themselves. -/
def fixed : List (String × Endpoint) :=
  [("/health", .health), ("/ready", .ready), ("/live", .live), ("/metrics", .metrics),
   ("/api/idempotency/stats", .stats), ("/api/demo/payments", .payments),
   ("/api/demo/payments/slow", .slowPayments), ("/api/demo/payments/refunds", .refunds),
   ("/api/demo/orders", .orders), ("/api/demo/subscriptions", .subscriptions),
   ("/api/demo/vouchers/redeem", .vouchers)]

/-- What stands in front of the name of an order. -/
def orderRoot : String := "/api/demo/orders/"

/-- The endpoint of a path. -/
def ofPath? (path : List Char) : Option Endpoint :=
  match fixed.lookup (.ofList path) with
  | some e => some e
  | none =>
    let root := orderRoot.toList
    let segment := path.drop root.length
    if root.isPrefixOf path && !segment.isEmpty && !segment.contains '/' then
      some (.order (.ofList segment))
    else none

/-- The endpoint that a request is sent to. -/
def ofTarget? (target : String) : Option Endpoint := ofPath? (pathOfTarget target.toList)

/-- The label under which requests are counted. -/
def label : Endpoint → String
  | .order _ => "/api/demo/orders/:id"
  | e => (fixed.find? fun entry => entry.2 = e).elim "" Prod.fst

/-- The methods of an endpoint. -/
def methods : Endpoint → List String
  | .health | .ready | .live | .metrics | .stats => ["GET", "HEAD"]
  | .order _ => ["DELETE"]
  | _ => ["POST"]

end Endpoint

end Turnstile.Http
