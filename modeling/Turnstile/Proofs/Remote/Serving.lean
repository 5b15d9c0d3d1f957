import Turnstile.Proofs.Store.Keyspace
import Turnstile.Store.Remote

/-!
The store on a server that can be reached and runs every command itself. Main statements: one
equation for each operation, from what its script does on the server to the answer
(`claim_serving` and its companions).
-/

namespace Turnstile

/-! ## Replies -/

namespace Keyspace

variable (pairs : List (String × String))

/-- A list of names and values holds no error. -/
theorem error?_flatten : (flatten pairs).error? = none := by
  rw [flatten, Reply.error?]
  induction pairs with
  | nil => rfl
  | cons pair rest ih =>
    rw [List.flatMap_cons, List.cons_append, List.cons_append, List.nil_append]
    exact ih

/-- The names and values in their order. -/
def texts : List String := pairs.flatMap fun (name, value) => [name, value]

theorem texts?_flatten : (flatten pairs).texts? = some (texts pairs) := by
  rw [flatten, Reply.texts?]
  induction pairs with
  | nil => rfl
  | cons pair rest ih =>
    simp only [List.flatMap_cons, List.cons_append, List.nil_append, List.mapM_cons, ih,
      Reply.text?, texts]
    rfl

theorem pairUp_texts : Reply.pairUp (texts pairs) = pairs := by
  induction pairs with
  | nil => rfl
  | cons pair rest ih =>
    rw [texts] at ih ⊢
    rw [List.flatMap_cons, List.cons_append, List.cons_append, List.nil_append, Reply.pairUp, ih]

theorem pairs?_flatten : (flatten pairs).pairs? = some pairs := by
  have texts := texts?_flatten pairs
  have even : (pairs.flatMap fun (name, value) =>
      [Reply.bulk (some name), Reply.bulk (some value)]).length % 2 = 0 := by
    simp [List.length_flatMap, List.map_const']
  rw [flatten, Reply.texts?] at texts
  rw [flatten, Reply.pairs?, if_pos even, texts, Option.map_some, pairUp_texts]

end Keyspace

namespace Remote

/-- Different keys have different hashes. -/
theorem hashKey_inj {keyPrefix a b : String} :
    hashKey keyPrefix a = hashKey keyPrefix b ↔ a = b := by
  simp [hashKey]

/-! ## Talking to a server that serves -/

/-- A server that can be reached and runs every command itself. -/
def serving (keys : Keyspace) : State := ⟨keys, [], true⟩

variable {keys keys' : Keyspace} {reply : Reply}

/-- A script that ends well is run once. -/
theorem invoke_serving {script : Script Reply} (run : script.execute keys = (reply, keys'))
    (sound : reply.error? = none) :
    invoke (serving keys) script = (.ok reply, serving keys') := by
  simp [invoke, serving, command, run, Reply.isUnknownScript, checked, sound]

theorem send_serving {run : Keyspace → Reply × Keyspace} (h : run keys = (reply, keys'))
    (sound : reply.error? = none) : send (serving keys) run = (.ok reply, serving keys') := by
  simp [send, serving, command, h, checked, sound]

/-! ## Steps -/

section

variable {keyPrefix key : String} {m : Moment} {now : Instant} {window : Span} {owner : Token}

theorem claim_serving {r : Record} (pending : Record.pending? m.now key m.fresh window = some r)
    (executed : (Script.acquire m.now.millis (hashKey keyPrefix key) window.cappedMillis
      (Record.Wire.encode r)).execute keys = (reply, keys')) (sound : reply.error? = none) :
    claim keyPrefix (serving keys) m key window =
      observed "try_acquire" (serving keys')
        ((interpret Reply.texts? (.ok reply)).bind (claimOf key m.fresh)) := by
  rw [claim, pending]
  simp only [invoke_serving executed sound]

theorem seize_serving {r : Record} (pending : Record.pending? m.now key m.fresh window = some r)
    (executed : (Script.replace m.now.millis (hashKey keyPrefix key) window.cappedMillis
      (Record.Wire.encode r)).execute keys = (reply, keys')) (sound : reply.error? = none) :
    seize keyPrefix (serving keys) m key window =
      observed "force_replace" (serving keys')
        ((interpret Reply.integer? (.ok reply)).map fun _ => m.fresh) := by
  rw [seize, pending]
  simp only [invoke_serving executed sound]

theorem complete_serving {outcome : Outcome} {ends : Instant}
    (inRange : now.deadline? window = some ends)
    (executed : (Script.complete now.millis (hashKey keyPrefix key) owner.text
      (Text.writeNat outcome.status.toNat) outcome.payload.text (Text.writeInt ends.millis)
      window.cappedMillis).execute keys = (reply, keys')) (sound : reply.error? = none) :
    complete keyPrefix (serving keys) now key owner outcome window =
      observed "complete" (serving keys')
        ((interpret Reply.integer? (.ok reply)).map finalityOf) := by
  rw [complete, inRange]
  simp only [invoke_serving executed sound]

theorem release_serving
    (executed : (Script.release now.millis (hashKey keyPrefix key) owner.text).execute keys =
      (reply, keys')) (sound : reply.error? = none) :
    release keyPrefix (serving keys) now key owner =
      observed "release" (serving keys')
        ((interpret Reply.integer? (.ok reply)).map finalityOf) := by
  rw [release]
  simp only [invoke_serving executed sound]

theorem read_serving (keyPrefix key : String) (now : Instant) (keys : Keyspace) :
    read keyPrefix (serving keys) now key =
      observed "read" (serving keys)
        (Record.Wire.decode key (keys.hgetall now.millis (hashKey keyPrefix key))) := by
  have sent : send (serving keys) (fun keys =>
        (Keyspace.flatten (keys.hgetall now.millis (hashKey keyPrefix key)), keys)) =
      (.ok (Keyspace.flatten (keys.hgetall now.millis (hashKey keyPrefix key))), serving keys) :=
    send_serving rfl (Keyspace.error?_flatten _)
  simp only [read, sent, interpret, Except.bind, Keyspace.pairs?_flatten, Option.elim_some]

end

end Remote

end Turnstile
