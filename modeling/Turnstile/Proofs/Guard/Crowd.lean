import Mathlib.Data.List.Forall2
import Mathlib.Logic.Relation
import Turnstile.Proofs.Guard.Course
import Turnstile.Proofs.Telemetry.Exposed
import Turnstile.Store.Memory
import Turnstile.Store.Remote

/-!
A crowd: any number of calls on one guard that go on one effect and one call of the store at a time,
in any order, and nobody leaves. The store may be changed from outside at any time, so that it may
answer anything. Main statements: what is counted is what the parties counted
(`Crowd.count_effects`), what every party keeps as it goes on holds of all parties
(`Crowd.forall_parties`), every crowd can come to rest (`Crowd.exists_atRest`), and where a schedule
leads to is reached (`Crowd.proceeds_play`).
-/

namespace Turnstile

open Store

variable {σ ε : Type}

/-- A store leaves no counter of the guard behind. -/
def Store.Quiet (st : Store σ) : Prop :=
  ∀ (s : σ) (t : Timed) (k : Counter), .count k ∉ (st.perform s t).effects

/-- A store leaves no measure of a scope behind. -/
def Store.Discreet (st : Store σ) : Prop :=
  ∀ (s : σ) (t : Timed) (m : Measure), .measure m ∈ (st.perform s t).effects → m.scope? = none

/-! ## Parties -/

/-- A call that was made: by whom, what it has left behind, what it has asked the store, and what is
left of it. -/
structure Party (ε : Type) where
  caller : Caller
  left : List Effect
  asked : List Entry
  rest : Course ε

/-- A call at its beginning. -/
def Party.entering (g : Guard σ) (caller : Caller) (fresh : Token) (ending : Ending ε) : Party ε :=
  ⟨caller, [], [], g.courseOf caller fresh ending⟩

/-- A party goes on: what it makes of the store, the effects of that, and what it is afterwards. The
effects of the store are not its own. -/
inductive Party.Moves (st : Store σ) (s : σ) (p : Party ε) : σ → List Effect → Party ε → Prop
  | leave {effect : Effect} {rest : Course ε} (next : p.rest = .leaves effect rest) :
      Moves st s p s [effect] { p with left := p.left ++ [effect], rest := rest }
  | ask {call : Call} {answered : Attempt Answer → Course ε} {step : Step σ Answer} (now : Instant)
      (next : p.rest = .asks call answered) (performs : step = st.perform s ⟨now, call⟩) :
      Moves st s p step.state step.effects
        { p with
          asked := p.asked ++ [⟨⟨now, call⟩, step.result⟩]
          rest := answered step.result }

/-! ## Crowds -/

/-- The state of the store, all effects in their order, and all parties in the order in which they
entered. -/
structure Crowd (σ ε : Type) where
  store : σ
  effects : List Effect
  parties : List (Party ε)

namespace Crowd

/-- A crowd without parties. -/
def empty (s : σ) : Crowd σ ε := ⟨s, [], []⟩

/-- The counters as they are read. -/
def counters (c : Crowd σ ε) : Counters := Effect.counters .zero c.effects

/-- No call of the store broke off. -/
def Unbroken (c : Crowd σ ε) : Prop := ∀ p ∈ c.parties, ∀ e ∈ p.asked, e.answer ≠ .overflow

/-- No call is in flight. -/
def AtRest (c : Crowd σ ε) : Prop := ∀ p ∈ c.parties, ∃ result, p.rest = .ends result

/-- One step: the store changes from outside, a caller enters, or a party goes on. -/
inductive Step (g : Guard σ) : Crowd σ ε → Crowd σ ε → Prop
  | meddle (c : Crowd σ ε) (s : σ) : Step g c { c with store := s }
  | enter (c : Crowd σ ε) (caller : Caller) (fresh : Token) (ending : Ending ε) :
      Step g c { c with parties := c.parties ++ [.entering g caller fresh ending] }
  | move {s s' : σ} {effects own : List Effect} {before after : List (Party ε)} {p p' : Party ε}
      (moves : p.Moves g.store s s' own p') :
      Step g ⟨s, effects, before ++ p :: after⟩ ⟨s', effects ++ own, before ++ p' :: after⟩

/-- What can be reached step by step. -/
def Reaches (g : Guard σ) : Crowd σ ε → Crowd σ ε → Prop := Relation.ReflTransGen (Step g)

/-- What can be reached step by step while nobody enters. -/
def Proceeds (g : Guard σ) : Crowd σ ε → Crowd σ ε → Prop :=
  Relation.ReflTransGen fun c c' => Step g c c' ∧ c'.parties.length = c.parties.length

/-- A crowd that was reached from one without parties, with the endings of the operations of its
parties. -/
inductive Enrolled (g : Guard σ) : Crowd σ ε → List (Ending ε) → Prop
  | empty (s : σ) : Enrolled g (.empty s) []
  | enter {c : Crowd σ ε} {endings : List (Ending ε)} (h : Enrolled g c endings)
      (caller : Caller) (fresh : Token) (ending : Ending ε) :
      Enrolled g { c with parties := c.parties ++ [.entering g caller fresh ending] }
        (endings ++ [ending])
  | proceed {c c' : Crowd σ ε} {endings : List (Ending ε)} (h : Enrolled g c endings)
      (step : Step g c c') (same : c'.parties.length = c.parties.length) : Enrolled g c' endings

end Crowd

/-! ## Schedules -/

/-- What a party does at a time: what it makes of the store, the effects of that, and what it is
afterwards. At its end it does nothing. -/
def Party.act (st : Store σ) (s : σ) (now : Instant) (p : Party ε) : σ × List Effect × Party ε :=
  match p.rest with
  | .ends _ => (s, [], p)
  | .leaves effect rest => (s, [effect], { p with left := p.left ++ [effect], rest := rest })
  | .asks call answered =>
    let step := st.perform s ⟨now, call⟩
    (step.state, step.effects,
      { p with
        asked := p.asked ++ [⟨⟨now, call⟩, step.result⟩]
        rest := answered step.result })

namespace Crowd

/-- The party in a place goes on. -/
def advance (g : Guard σ) (c : Crowd σ ε) (place : Nat) (now : Instant) : Crowd σ ε :=
  match c.parties[place]? with
  | some p =>
    let (s, own, p') := p.act g.store c.store now
    ⟨s, c.effects ++ own, c.parties.set place p'⟩
  | none => c

/-- The parties go on by a schedule, which says whose turn it is, and at what time. -/
def play (g : Guard σ) (c : Crowd σ ε) (schedule : List (Nat × Instant)) : Crowd σ ε :=
  schedule.foldl (fun c turn => c.advance g turn.1 turn.2) c

instance (answer : Attempt Answer) : Decidable (answer ≠ .overflow) :=
  match answer with
  | .done _ => isTrue (by simp)
  | .failed _ => isTrue (by simp)
  | .overflow => isFalse (by simp)

instance (c : Crowd σ ε) : Decidable c.Unbroken :=
  inferInstanceAs (Decidable (∀ p ∈ c.parties, ∀ e ∈ p.asked, e.answer ≠ .overflow))

instance (rest : Course ε) : Decidable (∃ result, rest = .ends result) :=
  match rest with
  | .ends result => isTrue ⟨result, rfl⟩
  | .leaves _ _ => isFalse (by simp)
  | .asks _ _ => isFalse (by simp)

instance (c : Crowd σ ε) : Decidable c.AtRest :=
  inferInstanceAs (Decidable (∀ p ∈ c.parties, ∃ result, p.rest = .ends result))

end Crowd

/-! ## Lemmas -/

namespace Party.Moves

variable {st : Store σ} {s s' : σ} {own : List Effect} {p p' : Party ε}

/-- What a party leaves behind as it goes on adds up, if the store adds nothing. -/
theorem additive_left {f : List Effect → Nat} (append : ∀ a b, f (a ++ b) = f a + f b)
    (silent : ∀ s t, f (st.perform s t).effects = 0) (h : p.Moves st s s' own p') :
    f p'.left = f p.left + f own := by
  cases h with
  | leave next => exact append ..
  | ask now next performs => rw [performs, silent, Nat.add_zero]

end Party.Moves

/-- Unless a call of the store broke off, all that a party leaves behind to its end has a
property. -/
def Party.Leaves (p : Party ε) (P : List Effect → Prop) : Prop :=
  (∀ e ∈ p.asked, e.answer ≠ .overflow) → p.rest.Always fun more => P (p.left ++ more)

namespace Party.Leaves

variable {p : Party ε} {P : List Effect → Prop}

theorem move {st : Store σ} {s s' : σ} {own : List Effect} {p' : Party ε} (h : p.Leaves P)
    (moves : p.Moves st s s' own p') : p'.Leaves P := by
  cases moves with
  | leave next =>
    intro unbroken
    have rest := h unbroken
    rw [next] at rest
    simpa [Course.Always] using rest
  | ask now next performs =>
    intro unbroken
    have rest := h fun e he => unbroken e (List.mem_append_left _ he)
    rw [next] at rest
    exact rest _ (unbroken _ (List.mem_append_right _ List.mem_cons_self))

theorem left (h : p.Leaves P) (unbroken : ∀ e ∈ p.asked, e.answer ≠ .overflow)
    {result : Option (Except (CallError ε) Outcome)} (ended : p.rest = .ends result) :
    P p.left := by
  have rest := h unbroken
  rw [ended] at rest
  simpa [Course.Always] using rest

end Party.Leaves

namespace Crowd

variable {g : Guard σ} {s : σ} {c : Crowd σ ε}

/-- What holds of every party at its entrance, and stays when the party goes on, holds of all
parties. -/
theorem forall_parties {P : Party ε → Prop} (reached : Reaches g (.empty s) c)
    (entered : ∀ (caller : Caller) (fresh : Token) (ending : Ending ε),
      P (.entering g caller fresh ending))
    (moved : ∀ {s s' : σ} {own : List Effect} {p p' : Party ε},
      p.Moves g.store s s' own p' → P p → P p') : ∀ p ∈ c.parties, P p := by
  induction reached with
  | refl => exact fun p hp => by cases hp
  | tail _ step ih =>
    intro x hx
    cases step with
    | meddle c s => exact ih x hx
    | enter c caller fresh ending =>
      rcases List.mem_append.1 hx with hx | hx
      · exact ih x hx
      · rw [List.mem_singleton.1 hx]
        exact entered ..
    | @move s s' effects own before after p p' moves =>
      simp only [List.mem_append, List.mem_cons] at ih hx
      rcases hx with hx | rfl | hx
      · exact ih x (.inl hx)
      · exact moved moves (ih p (.inr (.inl rfl)))
      · exact ih x (.inr (.inr hx))

/-- What adds up over effects, and is nothing for those of the store, adds up over the parties. -/
theorem additive_effects {f : List Effect → Nat} (append : ∀ a b, f (a ++ b) = f a + f b)
    (silent : ∀ s t, f (g.store.perform s t).effects = 0) (reached : Reaches g (.empty s) c) :
    f c.effects = f (c.parties.flatMap Party.left) := by
  induction reached with
  | refl => rfl
  | tail _ step ih =>
    cases step with
    | meddle c s => exact ih
    | enter c caller fresh ending => simpa [Party.entering] using ih
    | move moves =>
      -- the party that goes on adds the same to both sides
      have added := moves.additive_left append silent
      simp only [List.flatMap_append, List.flatMap_cons, append] at ih ⊢
      omega

/-- What is counted in all is what the parties counted. -/
theorem count_effects (quiet : g.store.Quiet) (reached : Reaches g (.empty s) c) (k : Counter) :
    c.effects.count (.count k) = (c.parties.flatMap Party.left).count (.count k) :=
  additive_effects (f := List.count (.count k)) (fun _ _ => List.count_append ..)
    (fun s t => List.count_eq_zero.2 (quiet s t k)) reached

/-! ### Endings -/

theorem Proceeds.reaches {c' : Crowd σ ε} (h : Proceeds g c c') : Reaches g c c' :=
  h.lift id fun _ _ step => step.1

namespace Enrolled

variable {endings : List (Ending ε)}

theorem proceeds {c' : Crowd σ ε} (h : Enrolled g c endings) (proceeds : Proceeds g c c') :
    Enrolled g c' endings := by
  induction proceeds with
  | refl => exact h
  | tail _ step ih => exact ih.proceed step.1 step.2

theorem exists_reaches (h : Enrolled g c endings) : ∃ s, Reaches g (.empty s) c := by
  induction h with
  | empty s => exact ⟨s, .refl⟩
  | enter _ caller fresh ending ih =>
    obtain ⟨s, reached⟩ := ih
    exact ⟨s, reached.tail (.enter _ caller fresh ending)⟩
  | proceed _ step _ ih =>
    obtain ⟨s, reached⟩ := ih
    exact ⟨s, reached.tail step⟩

/-- Every crowd that is reached has endings. -/
theorem exists_endings (reached : Reaches g (.empty s) c) : ∃ endings, Enrolled g c endings := by
  induction reached with
  | refl => exact ⟨[], .empty s⟩
  | tail _ step ih =>
    obtain ⟨endings, enrolled⟩ := ih
    cases step with
    | enter _ caller fresh ending => exact ⟨_, enrolled.enter caller fresh ending⟩
    | meddle _ s => exact ⟨endings, enrolled.proceed (.meddle _ s) rfl⟩
    | move moves => exact ⟨endings, enrolled.proceed (.move moves) (by simp)⟩

/-- One element of a list is replaced, and still stands in relation to its partner. -/
theorem forall₂_replace {α β : Type} {R : α → β → Prop} {before after : List α} {a a' : α}
    {bs : List β} (h : List.Forall₂ R (before ++ a :: after) bs) (step : ∀ b, R a b → R a' b) :
    List.Forall₂ R (before ++ a' :: after) bs := by
  induction before generalizing bs with
  | nil =>
    cases h with
    | cons first rest => exact .cons (step _ first) rest
  | cons x before ih =>
    cases h with
    | cons first rest => exact .cons first (ih rest)

/-- What holds of every party and the ending of its operation at its entrance, and stays when the
party goes on, holds of all parties. -/
theorem forall₂_parties {P : Party ε → Ending ε → Prop} (h : Enrolled g c endings)
    (entered : ∀ (caller : Caller) (fresh : Token) (ending : Ending ε),
      P (.entering g caller fresh ending) ending)
    (moved : ∀ {s s' : σ} {own : List Effect} {p p' : Party ε} (ending : Ending ε),
      p.Moves g.store s s' own p' → P p ending → P p' ending) :
    List.Forall₂ P c.parties endings := by
  induction h with
  | empty s => exact .nil
  | enter _ caller fresh ending ih =>
    exact List.rel_append ih (.cons (entered caller fresh ending) .nil)
  | proceed _ step same ih =>
    cases step with
    | enter c caller fresh ending => simp at same
    | meddle c s => exact ih
    | move moves => exact forall₂_replace ih fun ending => moved ending moves

end Enrolled

/-! ### Single parties -/

/-- A party can go on to its end, while nobody else does anything: it does what its course says, and
if the store's calls return, those of the party do. -/
theorem exists_proceeds (g : Guard σ) (later : Instant) (before after : List (Party ε))
    (p : Party ε) (s : σ) (now : Instant) (effects : List Effect) :
    let t := p.rest.run g.store later s now
    ∃ p' : Party ε, Proceeds g ⟨s, effects, before ++ p :: after⟩
        ⟨t.state, effects ++ t.effects, before ++ p' :: after⟩ ∧
      p'.rest = .ends t.value ∧
      (g.store.Returns → (∀ e ∈ p.asked, e.answer ≠ .overflow) →
        ∀ e ∈ p'.asked, e.answer ≠ .overflow) := by
  obtain ⟨caller, left, asked, rest⟩ := p
  -- the party takes the first step of its course, and the induction runs the rest from there
  induction rest generalizing left asked s now effects with
  | ends result =>
    refine ⟨⟨caller, left, asked, .ends result⟩, ?_, rfl, fun _ unbroken => unbroken⟩
    rw [Course.run, List.append_nil]
    exact .refl
  | leaves effect rest ih =>
    obtain ⟨p', reached, ended, unbroken⟩ :=
      ih s now (effects ++ [effect]) (left ++ [effect]) asked
    refine ⟨p', ?_, ended, unbroken⟩
    rw [List.append_assoc] at reached
    exact .head ⟨.move (.leave rfl), by simp⟩ reached
  | asks call answered ih =>
    let step := g.store.perform s ⟨now, call⟩
    obtain ⟨p', reached, ended, unbroken⟩ :=
      ih step.result step.state later (effects ++ step.effects) left
        (asked ++ [⟨⟨now, call⟩, step.result⟩])
    refine ⟨p', ?_, ended, fun returns past => unbroken returns fun e he => ?_⟩
    · rw [List.append_assoc] at reached
      exact .head ⟨.move (.ask now rfl rfl), by simp⟩ reached
    · rcases List.mem_append.1 he with he | he
      · exact past e he
      · rw [List.mem_singleton.1 he]
        exact returns s ⟨now, call⟩

/-- Every crowd can come to rest while nobody enters, and no call of the store breaks off on the way
if the store's calls return. -/
theorem exists_atRest (g : Guard σ) (now : Instant) (c : Crowd σ ε) :
    ∃ c', Proceeds g c c' ∧ c'.AtRest ∧ (g.store.Returns → c.Unbroken → c'.Unbroken) := by
  -- one party after the other goes on to its end, and those in front of it have come to theirs
  suffices rests : ∀ (after before : List (Party ε)) (s : σ) (effects : List Effect),
      AtRest ⟨s, effects, before⟩ → ∃ c', Proceeds g ⟨s, effects, before ++ after⟩ c' ∧ c'.AtRest ∧
        (g.store.Returns → Unbroken ⟨s, effects, before ++ after⟩ → c'.Unbroken) from
    rests c.parties [] c.store c.effects (by simp [AtRest])
  intro after
  induction after with
  | nil =>
    intro before s effects ended
    exact ⟨_, .refl, by simpa using ended, fun _ unbroken => unbroken⟩
  | cons p after ih =>
    intro before s effects ended
    obtain ⟨p', ran, ends, returned⟩ := exists_proceeds g now before after p s now effects
    obtain ⟨c', more, rest, unbroken⟩ := ih (before ++ [p']) _ _ fun q hq => by
      rcases List.mem_append.1 hq with hq | hq
      · exact ended q hq
      · rw [List.mem_singleton.1 hq]
        exact ⟨_, ends⟩
    rw [List.append_assoc, List.singleton_append] at more unbroken
    refine ⟨c', ran.trans more, rest, fun returns past => unbroken returns fun q hq => ?_⟩
    simp only [List.mem_append, List.mem_cons] at hq
    rcases hq with hq | rfl | hq
    · exact past q (by simp [hq])
    · exact returned returns (past p (by simp))
    · exact past q (by simp [hq])

/-! ### Parties on a schedule -/

/-- A party that acts moves, unless it has come to its end. -/
theorem act_eq_or_moves (st : Store σ) (s : σ) (now : Instant) (p : Party ε) :
    p.act st s now = (s, [], p) ∨
      p.Moves st s (p.act st s now).1 (p.act st s now).2.1 (p.act st s now).2.2 := by
  unfold Party.act
  split
  · exact .inl rfl
  · rename_i effect rest next
    exact .inr (.leave next)
  · rename_i call answered next
    exact .inr (.ask now next rfl)

theorem proceeds_advance (g : Guard σ) (c : Crowd σ ε) (place : Nat) (now : Instant) :
    Proceeds g c (c.advance g place now) := by
  obtain ⟨s, effects, parties⟩ := c
  unfold advance
  split
  · rename_i p there
    obtain ⟨inside, rfl⟩ := List.getElem?_eq_some_iff.1 there
    have split : parties = parties.take place ++ parties[place] :: parties.drop (place + 1) := by
      rw [← List.drop_eq_getElem_cons inside, List.take_append_drop]
    have replaced : ∀ p', parties.set place p' =
        parties.take place ++ p' :: parties.drop (place + 1) :=
      fun p' => List.set_eq_take_append_cons_drop.trans (if_pos inside)
    rcases act_eq_or_moves g.store s now parties[place] with done | moves
    · simp only [done, List.append_nil, List.set_getElem_self]
      exact .refl
    · refine .single ⟨?_, List.length_set⟩
      simp only [replaced]
      nth_rewrite 1 [split]
      exact .move moves
  · exact .refl

/-- Where a schedule leads to is reached, and nobody enters on the way. -/
theorem proceeds_play (g : Guard σ) (c : Crowd σ ε) (schedule : List (Nat × Instant)) :
    Proceeds g c (c.play g schedule) := by
  induction schedule generalizing c with
  | nil => exact .refl
  | cons turn schedule ih => exact (proceeds_advance g c turn.1 turn.2).trans (ih _)

end Crowd

/-! ## The effects of the stores -/

/-- The store in memory leaves nothing behind. -/
theorem Memory.effects_perform (s : Memory.State) (t : Timed) :
    (Memory.store.perform s t).effects = [] := by
  obtain ⟨now, call⟩ := t
  have grants : ∀ {α : Type} (m : Moment) (key : String) (lease : Span) (answer : Token → α),
      (Memory.grant s m key lease answer).effects = [] := by
    intro α m key lease answer
    unfold Memory.grant
    split <;> rfl
  cases call with
  | claim key lease fresh =>
    simp only [perform, perform.as, Memory.store, Memory.claim]
    split
    · rfl
    · exact grants ⟨now, fresh⟩ key lease _
  | seize key lease fresh => exact grants ⟨now, fresh⟩ key lease id
  | complete key owner outcome window =>
    simp only [perform, perform.as, Memory.store, Memory.complete]
    repeat' split
    all_goals rfl
  | release key owner =>
    simp only [perform, perform.as, Memory.store, Memory.release]
    repeat' split
    all_goals rfl
  | read key => rfl
  | purge => rfl

theorem Memory.quiet_store : Memory.store.Quiet := by
  intro s t k counted
  rw [Memory.effects_perform] at counted
  cases counted

theorem Memory.discreet_store : Memory.store.Discreet := by
  intro s t m measured
  rw [Memory.effects_perform] at measured
  cases measured

/-- The store on a server leaves at most a report of the call behind. -/
theorem Remote.mem_effects_perform {keyPrefix : String} {s : Remote.State} {t : Timed} {e : Effect}
    (h : e ∈ ((Remote.store keyPrefix).perform s t).effects) :
    ∃ (α : Type) (operation : String) (result : Except Fault α),
      e ∈ Remote.report operation result := by
  obtain ⟨now, call⟩ := t
  cases call with
  | claim key lease fresh =>
    simp only [perform, perform.as, Remote.store, Remote.claim] at h
    split at h
    · cases h
    · exact ⟨_, _, _, h⟩
  | seize key lease fresh =>
    simp only [perform, perform.as, Remote.store, Remote.seize] at h
    split at h
    · cases h
    · exact ⟨_, _, _, h⟩
  | complete key owner outcome window =>
    simp only [perform, perform.as, Remote.store, Remote.complete] at h
    split at h
    · cases h
    · exact ⟨_, _, _, h⟩
  | release key owner => exact ⟨_, _, _, h⟩
  | read key => exact ⟨_, _, _, h⟩
  | purge => cases h

theorem Remote.quiet_store (keyPrefix : String) : (Remote.store keyPrefix).Quiet := by
  intro s t k counted
  obtain ⟨α, operation, result, reported⟩ := Remote.mem_effects_perform counted
  cases result <;> simp [Remote.report] at reported

theorem Remote.discreet_store (keyPrefix : String) : (Remote.store keyPrefix).Discreet := by
  intro s t m measured
  obtain ⟨α, operation, result, reported⟩ := Remote.mem_effects_perform measured
  cases result <;> simp [Remote.report] at reported <;> rw [reported] <;> rfl

end Turnstile
