import Turnstile.Telemetry.Directive
import Turnstile.Telemetry.Event
import Turnstile.Text.Split

/-!
Log filters: a list of directives, of which the most specific one that fits an event decides
whether the event passes. A filter without directives passes errors. Main statement: a filter never
holds two directives that ask the same of an event (`pairwise_insert`).
-/

namespace Turnstile

namespace Directive

/-- Whether a target and the names of an event's fields are what the directive asks for. -/
def fits (d : Directive) (target : String) (fields : List String) : Bool :=
  d.target.all (fun t => t.toList.isPrefixOf target.toList) && d.fieldName.all fields.contains

/-- Whether two directives ask the same of an event. -/
def sameEvents (d other : Directive) : Bool :=
  d.target = other.target && d.fieldName = other.fieldName

/-- Whether a directive comes before another one that asks for something else: a longer target
first, then one that names a field, then the greater one. -/
def precedes (d other : Directive) : Bool :=
  let length := fun d : Directive => d.target.elim 0 (·.utf8ByteSize + 1)
  let named := fun d : Directive => d.fieldName.elim 0 fun _ => 1
  let key := fun d : Directive => d.target.elim "" id
  let field := fun d : Directive => d.fieldName.elim "" id
  if length d ≠ length other then length other < length d
  else if named d ≠ named other then named other < named d
  else if key d ≠ key other then key other < key d
  else field other < field d

end Directive

/-- The directives that decide about events, the most specific first. -/
structure LogFilter where
  directives : List Directive
deriving Repr

namespace LogFilter

/-! ## Algorithm -/

/-- Puts a directive at its place; an earlier one for the same events is replaced. -/
def insert (d : Directive) (directives : List Directive) : List Directive :=
  let others := directives.filter (!d.sameEvents ·)
  others.takeWhile (·.precedes d) ++ d :: others.dropWhile (·.precedes d)

/-- The directives of a text. Texts that are no directive are passed over, but a text that is cut
inside of a character spoils the whole. -/
def readAll? : List String → Option (List Directive)
  | [] => some []
  | part :: parts =>
    match Directive.read part with
    | .ok d => (readAll? parts).map (d :: ·)
    | .error .refused => readAll? parts
    | .error .torn => none

/-- The filter that passes errors of all targets. -/
def errors : LogFilter := ⟨[⟨none, none, none, 1⟩]⟩

/-- The filter that a text describes. Directives that ask for a span decide about no event. -/
def ofText? (s : String) : Option LogFilter :=
  let parts := (Text.splitAt ',' s.toList).filter (!·.isEmpty)
  (readAll? (parts.map .ofList)).map fun directives =>
    if directives.isEmpty then errors
    else ⟨(directives.filter (·.isStatic)).foldl (fun all d => insert d all) []⟩

/-- Whether an event of a target passes. Every event has its message among its fields. -/
def passes (f : LogFilter) (target : String) (e : Event) : Bool :=
  let fields := "message" :: e.fields.map (·.1)
  (f.directives.find? (·.fits target fields)).any fun d => e.severity.rank ≤ d.level

/-! ## Lemmas -/

theorem sameEvents_comm (d other : Directive) : d.sameEvents other = other.sameEvents d := by
  simp only [Directive.sameEvents, eq_comm]

/-- If no two directives asked the same of an event, none do with one more. -/
theorem pairwise_insert (d : Directive) {directives : List Directive}
    (h : directives.Pairwise fun a b => a.sameEvents b = false) :
    (insert d directives).Pairwise fun a b => a.sameEvents b = false := by
  have others := h.filter (!d.sameEvents ·)
  have apart : ∀ x ∈ directives.filter (!d.sameEvents ·), d.sameEvents x = false := by
    intro x hx
    simpa using (List.mem_filter.1 hx).2
  unfold insert
  generalize directives.filter (!d.sameEvents ·) = rest at *
  rw [← List.takeWhile_append_dropWhile (p := (·.precedes d)) (l := rest)] at others
  obtain ⟨front, back, across⟩ := List.pairwise_append.1 others
  refine List.pairwise_append.2 ⟨front, List.pairwise_cons.2 ⟨fun x hx => ?_, back⟩, ?_⟩
  · exact apart x (List.dropWhile_sublist _ |>.subset hx)
  · intro x hx y hy
    rcases List.mem_cons.1 hy with rfl | hy
    · rw [sameEvents_comm]
      exact apart x (List.takeWhile_sublist _ |>.subset hx)
    · exact across x hx y hy

end LogFilter

/-- How events are written. -/
inductive LogFormat
  | pretty
  | json
  | compact
deriving DecidableEq, Repr

namespace LogFormat

/-- The format of a name, in any case of its letters; an unknown name stands for the pretty one. -/
def ofName (s : String) : LogFormat :=
  let lower := String.ofList (s.toList.map Char.toLower)
  if lower = "json" then .json else if lower = "compact" then .compact else .pretty

/-- The name of a format. -/
def text : LogFormat → String
  | .pretty => "Pretty"
  | .json => "Json"
  | .compact => "Compact"

end LogFormat

/-- The configuration of the log. -/
structure LogConfig where
  level : String
  format : LogFormat
  withTarget : Bool
  withFile : Bool
  withLine : Bool
deriving DecidableEq, Repr

namespace LogConfig

/-- The configuration used when nothing is set. -/
def standard : LogConfig := ⟨"info", .pretty, true, false, false⟩

/-- The configuration for a level and the name of a format. -/
def of (level format : String) : LogConfig :=
  { standard with level := level, format := .ofName format }

/-- The target of the events about the log itself. -/
def ownTarget : String := "idempotency_guard::observability::logging"

/-- The event that announces the log. -/
def announcement (c : LogConfig) : Event :=
  ⟨.info, "Logging initialized with level: " ++ c.level, []⟩

/-- The events that a log lets through, its own announcement in front; `none` if its level spoils
the filter. -/
def written? (c : LogConfig) (events : List (String × Event)) : Option (List (String × Event)) :=
  (LogFilter.ofText? c.level).map fun f =>
    ((ownTarget, c.announcement) :: events).filter fun (target, e) => f.passes target e

end LogConfig

end Turnstile
