import Turnstile.Proofs.Store.Tenure

/-!
What remains of a lease once it was ended. Main statements: a lease that nobody tried to end is
still held (`held_of_unended`), and a lease that somebody tried to end is not held in force any
more, whatever the store answered (`over_of_ended`).
-/

namespace Turnstile.Store

variable {journal before after : List Entry} {e : Entry} {owner : Token} {key : String}
  {g : Standing} {now : Instant}

/-- A lease that nobody tried to end is held until it ends by itself. -/
theorem held_of_unended (unended : finals owner journal = [])
    (stands : standing key journal = some g) (mine : g.owner = owner) : g.fate = .held := by
  induction journal using List.reverseRecOn generalizing g with
  | nil => simp at stands
  | append_singleton journal e ih =>
    rw [finals_append, List.append_eq_nil_iff] at unended
    rcases Standing.of_append stands with kept | ⟨-, -, -, ends, -⟩ | ⟨-, -, -, -, held⟩
    · exact ih unended.1 kept mine
    · have mem : e ∈ finals owner [e] := by simp [finals, ends, mine]
      rw [unended.2] at mem
      cases mem
    · exact held

/-- Once somebody tried to end a lease on a key, it is not held in force any more: the attempt was
applied, or the lease had been lost before. -/
theorem over_of_final (answered : Answered (journal ++ [e])) (inRange : e.InRange)
    (ends : e.call.finalizes? = some owner) (here : e.call.key? = some key)
    (stands : standing key (journal ++ [e]) = some g) (mine : g.owner = owner) :
    g.fate ≠ .held ∨ g.ends ≤ e.now := by
  have answer := Throughout.last answered
  rcases Standing.of_append stands with kept | ⟨-, -, -, -, settled⟩ | ⟨a, granted, -⟩
  · by_contra held
    rw [not_or, not_not, not_le] at held
    -- the store would have applied the call, and the lease would be over
    obtain ⟨⟨now, call⟩, answer'⟩ := e
    cases call with
    | complete key' owner' outcome window =>
      cases here
      cases ends
      have seen := any_expected_pending_iff.2 ⟨g, kept, mine, held⟩
      have applied := answer (by simp)
      rw [Sight.snd_next_complete _ _ _ _ (inRange window rfl), if_pos seen] at applied
      obtain ⟨ends, news⟩ := Entry.newsOf?_of_complete inRange rfl applied
      rw [standing_append_of_news news, kept, Standing.update, if_pos mine] at stands
      have fate := congrArg Standing.fate (Option.some.inj stands)
      rw [held.1] at fate
      cases fate
    | release key' owner' =>
      cases here
      cases ends
      have seen := any_expected_owned_iff.2 ⟨g, kept, mine, by simp [held.1], held.2⟩
      have applied := answer (by simp)
      rw [Sight.snd_next_release, if_pos seen] at applied
      rw [standing_append_of_news (Entry.newsOf?_of_release rfl applied), kept, Standing.update,
        if_pos mine] at stands
      have fate := congrArg Standing.fate (Option.some.inj stands)
      rw [held.1] at fate
      cases fate
    | claim key' lease fresh => cases ends
    | seize key' lease fresh => cases ends
    | read key' => cases ends
    | purge => cases ends
  · exact .inl settled
  · rw [grant?_of_finalizes? ends] at granted
    cases granted

/-- A lease that somebody tried to end is not held in force later on, as long as its token is
granted no more. -/
theorem over_of_ended (answered : Answered (before ++ [e] ++ after)) (inRange : e.InRange)
    (le : e.now ≤ now) (ends : e.call.finalizes? = some owner) (here : e.call.key? = some key)
    (once : ∀ a ∈ after.filterMap Entry.grant?, a.owner ≠ owner)
    (stands : standing key (before ++ [e] ++ after) = some g) (mine : g.owner = owner) :
    g.fate ≠ .held ∨ g.ends ≤ now := by
  induction after using List.reverseRecOn generalizing g with
  | nil =>
    rw [List.append_nil] at answered stands
    exact (over_of_final answered inRange ends here stands mine).imp_right fun expired =>
      le_trans expired le
  | append_singleton after e' ih =>
    rw [← List.append_assoc] at answered stands
    rcases Standing.of_append stands with kept | ⟨-, -, -, -, settled⟩ | ⟨a, granted, -, owned, -⟩
    · exact ih (Throughout.left answered)
        (fun a mem => once a (by simp [List.filterMap_append, mem])) kept mine
    · exact .inl settled
    · exact absurd (owned.trans mine) (once a (by simp [granted]))

end Turnstile.Store
