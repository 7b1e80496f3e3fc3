import TierCascade.Proofs.Interruptions
/-!
# What a delivery costs

Each tier takes a sample of a delivery in at most once and calls each collaborator at most once for it;
and a call makes no more attempts than the budget allows. So a delivery costs a bounded number of calls
at every tier, whatever the collaborators do.
-/

namespace TierCascade

/-- What one tier did with a delivery: it took a sample in once at most, and called each collaborator
once at most for what it made of it. -/
structure History.Thrifty (h : History) : Prop where
  folds : h.aggregates.length ≤ 1
  calls : h.calls.length ≤ 2 * h.aggregates.length

/-! ### Folds and calls -/

theorem Dispatch.length_goodCalls_le (d : Dispatch) (a : Aggregate) (sinks : List Sink) :
    (d.goodCalls a sinks).length ≤ sinks.length := by
  rw [goodCalls, List.length_map]
  exact List.length_filter_le ..

namespace History

variable {s : Settings} {h : History} {a : Aggregate} {sinks : List Sink}

theorem thrifty_nil : Thrifty [] := ⟨Nat.zero_le 1, Nat.le_refl 0⟩

theorem Serving.length_calls_le (serving : h.Serving s a sinks) : h.calls.length ≤ sinks.length := by
  rw [serving.calls]
  exact s.dispatch.length_goodCalls_le a sinks

theorem Serving.thrifty (serving : h.Serving s a sinks) (few : sinks.length ≤ 2) : h.Thrifty := by
  refine ⟨?_, ?_⟩
  · rw [serving.aggregates]
    exact le_refl 1
  · rw [serving.aggregates]
    exact serving.length_calls_le.trans few

theorem Thrifty.append (thrifty : h.Thrifty) {ds : History} (folds : ds.aggregates = [])
    (calls : ds.calls = []) : (h ++ ds).Thrifty := by
  refine ⟨?_, ?_⟩
  · rw [aggregates_append, folds, List.append_nil]
    exact thrifty.folds
  · rw [aggregates_append, calls_append, folds, calls, List.append_nil, List.append_nil]
    exact thrifty.calls

end History

theorem Spot.Sees.thrifty {s : Settings} {spot : Spot} {h : History} (sees : spot.Sees s h) :
    h.Thrifty := by
  cases spot with
  | serving t a sink => exact sees.1.thrifty (by cases sink <;> decide)
  | closing t a => exact sees.1.thrifty (le_refl 2)
  | _ =>
    rw [show h = [] from sees]
    exact History.thrifty_nil

theorem Course.thrifty {s : Settings} {start d : Delivery} {spot : Spot} {h : History}
    (course : Course s start d spot h) (t : Tier) : (h.within t).Thrifty := by
  rcases lt_trichotomy t spot.tier with behind | rfl | ahead
  · obtain ⟨⟨a, -, -, served⟩, -⟩ := course.passed behind
    exact served.thrifty (le_refl 2)
  · exact course.sees.thrifty
  · rw [course.ahead ahead]
    exact History.thrifty_nil

theorem Ended.thrifty {s : Settings} {start : Delivery} {mark : Option Mark} {h : History}
    (ended : Ended s start mark h) (t : Tier) : (h.within t).Thrifty := by
  cases ended with
  | @halt d spot h e _ course halt =>
    rw [History.within_append]
    cases halt with
    | refuse | keep =>
      refine (course.thrifty t).append ?_ ?_
      all_goals
        simp only [History.within, List.filter_cons]
        split <;> rfl
    | @fault r a sink tries fault before after =>
      by_cases here : r = t
      · -- The call that failed is one more, but the notifier is not called after a store that failed.
        subst here
        have seen : (h.within r).Serving s a sink.before ∧ (h.within r).looks = [] := course.sees
        have few : sink.before.length ≤ 1 := by cases sink <;> decide
        have calls := seen.1.length_calls_le
        rw [History.within_worked_self]
        refine ⟨?_, ?_⟩
        · rw [History.aggregates_append, seen.1.aggregates]
          exact le_refl 1
        · rw [History.aggregates_append, seen.1.aggregates, History.calls_append, List.length_append]
          change _ + 1 ≤ 2
          omega
      · rw [History.within_worked_of_ne _ _ _ _ here, List.append_nil]
        exact course.thrifty t

/-- **However a ticket stands, each tier was thrifty with its delivery.** -/
theorem Fares.thrifty {s : Settings} {k : Ticket} {h : History} {heads : Multiset (Delivery × Spot)}
    {n : Nat} {record : Option Held} (fares : Fares s k h heads n record) (t : Tier) :
    (h.within t).Thrifty := by
  cases fares with
  | abandoned => exact History.thrifty_nil
  | tended st =>
    cases st with
    | absent => exact History.thrifty_nil
    | live course => exact course.thrifty t
    | ended ended => exact ended.thrifty t
    | reported ended =>
      rw [History.within_append]
      exact (ended.thrifty t).append rfl rfl

/-! ### Attempts -/

def Deed.tries : Deed → Nat
  | worked _ _ (.called _ _ tries _) .. => tries
  | _ => 0

theorem CallBudget.tries_le {σ : Type} (b : CallBudget) (label : String) (callee : Callee σ) (left : Nat)
    (sinks : σ) : b.tries label callee left sinks ≤ left + 1 := by
  induction left generalizing sinks with
  | zero => exact le_refl 1
  | succ left ih =>
    rw [tries]
    split
    · exact Nat.le_add_left ..
    · exact Nat.succ_le_succ (ih _)

namespace History

/-- Every call was made within the budget. -/
structure Within (b : CallBudget) (h : History) : Prop where
  each : ∀ e ∈ h, e.tries ≤ b.retries + 1

variable {b : CallBudget} {h g : History}

theorem within_nil (b : CallBudget) : Within b [] := ⟨fun _ mem => absurd mem List.not_mem_nil⟩

theorem Within.cons {e : Deed} (first : e.tries ≤ b.retries + 1) (rest : h.Within b) :
    Within b (e :: h) := ⟨List.forall_mem_cons.2 ⟨first, rest.each⟩⟩

theorem Within.free {e : Deed} (free : e.tries = 0) (rest : h.Within b) : Within b (e :: h) :=
  .cons (free ▸ Nat.zero_le _) rest

theorem Within.append (first : h.Within b) (second : g.Within b) : (h ++ g).Within b :=
  ⟨fun e mem => (List.mem_append.1 mem).elim (first.each e) (second.each e)⟩

theorem Within.of_subset (all : h.Within b) (subset : g ⊆ h) : g.Within b :=
  ⟨fun e mem => all.each e (subset mem)⟩

theorem length_attempts_cons (e : Deed) (h : History) :
    (attempts (e :: h) .store).length + (attempts (e :: h) .notifier).length
      = e.tries + ((h.attempts .store).length + (h.attempts .notifier).length) := by
  have own : ∀ sink, (attempts (e :: h) sink).length
      = (attempts [e] sink).length + (h.attempts sink).length := fun sink => by
    rw [← List.singleton_append, attempts_append, List.length_append]
  have one : (attempts [e] .store).length + (attempts [e] .notifier).length = e.tries := by
    cases e with
    | worked d t act before after =>
      cases act with
      | called sink a tries result => cases sink <;> simp [attempts, Deed.tries]
      | _ => rfl
    | _ => rfl
  rw [own, own]
  omega

/-- Within the budget each call comes to a bounded number of attempts. -/
theorem Within.length_attempts_le (all : h.Within b) :
    (h.attempts .store).length + (h.attempts .notifier).length ≤ (b.retries + 1) * h.calls.length := by
  induction h with
  | nil => exact Nat.zero_le _
  | cons e h ih =>
    obtain ⟨first, others⟩ := List.forall_mem_cons.1 all.each
    have rest := ih ⟨others⟩
    have calls : History.calls (e :: h) = History.calls [e] ++ History.calls h := by
      rw [← calls_append, List.singleton_append]
    have priced : e.tries ≤ (b.retries + 1) * (History.calls [e]).length := by
      cases e with
      | worked d t act before after =>
        cases act with
        | called => exact first.trans (le_of_eq (Nat.mul_one _).symm)
        | _ => exact Nat.zero_le _
      | _ => exact Nat.zero_le _
    rw [length_attempts_cons, calls, List.length_append, Nat.mul_add]
    exact Nat.add_le_add priced rest

theorem Thrifty.length_attempts_le (thrifty : h.Thrifty) (all : h.Within b) :
    (h.attempts .store).length + (h.attempts .notifier).length
      ≤ 2 * (b.retries + 1) * h.aggregates.length := by
  refine all.length_attempts_le.trans ?_
  refine (Nat.mul_le_mul_left _ thrifty.calls).trans (le_of_eq ?_)
  rw [← Nat.mul_assoc, Nat.mul_comm (b.retries + 1) 2]

end History

/-! ### The deeds of a step -/

theorem Tickets.within_farewells (ts : Tickets) (k : Ticket) (b : CallBudget) :
    History.Within b (ts.farewells k) := by
  refine ⟨fun e mem => ?_⟩
  obtain ⟨o, -, rfl⟩ := List.mem_map.1 mem
  exact Nat.zero_le _

theorem Tickets.within_farewellsAll (ts : Tickets) (ds : List Delivery) (b : CallBudget) :
    History.Within b (ts.farewellsAll ds) := by
  induction ds generalizing ts with
  | nil => exact History.within_nil b
  | cons d ds ih => exact (ts.within_farewells d.ticket b).append (ih _)

namespace Plant

variable {σ : Type} (s : Settings) (c : Collaborator σ) (p : Plant σ)

theorem within_callDeeds (t : Tier) (w : Worker) (d : Delivery) (a : Aggregate) (sink : Sink) :
    (p.callDeeds s c t w d a sink).Within s.calls := by
  unfold callDeeds
  split
  · refine .cons (s.calls.tries_le ..) ?_
    split
    · exact History.within_nil _
    · exact Tickets.within_farewells ..
  · exact History.within_nil _

theorem within_workDeeds (t : Tier) (i : Nat) : (p.workDeeds s c t i).Within s.calls := by
  cases here : p.worker? t i with
  | none =>
    rw [workDeeds, here]
    exact History.within_nil _
  | some w =>
    rw [workDeeds, here]
    dsimp only
    cases w.activity with
    | stopped => exact History.within_nil _
    | idle =>
      rcases w.queue with - | ⟨d | _, rest⟩
      · exact History.within_nil _
      · dsimp only [takeDeeds]
        split
        · exact .free rfl (History.within_nil _)
        · exact .free rfl (Tickets.within_farewells ..)
      · exact Tickets.within_farewellsAll ..
    | storing d a => exact p.within_callDeeds s c ..
    | notifying d a => exact p.within_callDeeds s c ..
    | closing d a =>
      dsimp only [closeDeeds]
      refine .free rfl ?_
      split
      · exact History.within_nil _
      · exact Tickets.within_farewells ..
    | forwarding d onward gate =>
      dsimp only [forwardDeeds]
      split
      · split
        · exact .free rfl (History.within_nil _)
        · exact History.within_nil _
      · split <;> exact Tickets.within_farewellsAll ..
    | parting d => exact Tickets.within_farewells ..

/-- **No step makes more attempts than the budget allows.** -/
theorem within_deeds (a : Action) : (p.deeds s c a).Within s.calls := by
  cases a with
  | work t i => exact p.within_workDeeds s c t i
  | interrupt => exact p.tickets.within_farewellsAll p.loop.ready s.calls
  | finish => exact p.tickets.within_farewellsAll p.loop.ready s.calls
  | receive x => exact .free rfl (History.within_nil _)
  | settle =>
    simp only [deeds]
    split
    · rename_i o st _
      cases st with
      | redeliver => exact .free rfl (.free rfl (History.within_nil _))
      | _ => exact .free rfl (History.within_nil _)
    · exact History.within_nil _
  | wake i =>
    simp only [deeds]
    split
    · split
      · exact History.within_nil _
      · exact Tickets.within_farewells ..
    · exact History.within_nil _
  | enter =>
    simp only [deeds]
    split
    · exact History.within_nil _
    · split
      · exact .free rfl (History.within_nil _)
      · exact Tickets.within_farewells ..
  | _ => exact History.within_nil _

/-- Whatever happens, every call is made within the budget. -/
theorem within_of_follow {s : Settings} {c : Collaborator σ} {as : List Action} {h : History}
    {start p : Plant σ} (moves : Plant.follow s c as ([], start) = some (h, p)) : h.Within s.calls := by
  have keeps : ∀ {h : History} {p q : Plant σ} {a : Action}, p.step s c a = some q → h.Within s.calls →
      (h ++ p.deeds s c a).Within s.calls := fun _ all => all.append (within_deeds s c _ _)
  exact @follow_keeps σ s c (fun h _ _ => h.Within s.calls) (fun _ => True) (fun _ => keeps) as
    (fun _ _ => trivial) [] h [] start p moves (History.within_nil _)

end Plant

end TierCascade
