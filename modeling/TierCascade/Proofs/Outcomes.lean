import TierCascade.Proofs.Runs
/-!
# What an outcome says

A delivery is acknowledged by saying nothing: nobody marked its ticket, and everyone has let go of
it. `Run.outcome_fate` says that this is safe. However workers and loop take turns and whatever the
collaborators do, a delivery reports one outcome, not before its sample is at its end, and the outcome
tells how far the sample came and that nothing that was due was left out on the way.
-/

namespace TierCascade

namespace Fate

variable {s : Settings} {start : Delivery} {h : History} {o : Outcome}

theorem append_sent (fate : Fate s start h o) (k : Ticket) (o' : Outcome) :
    Fate s start (h ++ [.sent k o']) o := by
  have tiers : History.tiers (h ++ [.sent k o']) = h.tiers := by
    rw [History.tiers_append]
    exact List.append_nil _
  have queues : History.queues (h ++ [.sent k o']) = h.queues := by
    rw [History.queues_append]
    exact List.append_nil _
  have within : ∀ g, History.within (h ++ [.sent k o']) g = h.within g := fun g => by
    rw [History.within_append]
    exact List.append_nil _
  cases fate with
  | refused infinite none => exact .refused infinite (tiers.trans none)
  | @kept t a finite taken entered passed served stays =>
    refine .kept (t := t) (a := a) finite (tiers.trans taken) (queues.trans entered) ?_ ?_ ?_
    · intro g finer
      rw [History.Passed, History.Served, within]
      exact passed g finer
    · rw [History.Served, within]
      exact served
    · rw [within]
      exact stays
  | @broke t reason finite taken entered passed broken unmoved =>
    refine .broke finite (tiers.trans taken) (queues.trans entered) ?_ ?_ ?_
    · intro g finer
      rw [History.Passed, History.Served, within]
      exact passed g finer
    · rw [History.Broken, within]
      exact broken
    · intro d act before after mem
      rcases List.mem_append.1 mem with old | new
      · exact unmoved old
      · cases List.mem_singleton.1 new

end Fate

/-- What happened under a ticket tells one outcome at most, and the outcome its fate. -/
theorem Standing.fate {s : Settings} {k : Ticket} {h : History}
    {heads : Multiset (Delivery × Spot)} {n : Nat} {record : Option Held} {d : Delivery}
    (st : Standing s k h heads n record) (issued : d ∈ h.deliveries) :
    h.deliveries = [d] ∧ h.outcomes.length ≤ 1 ∧ ∀ o ∈ h.outcomes, Fate s d h o := by
  cases st with
  | absent => cases issued
  | live course =>
    rw [course.deliveries_eq] at issued ⊢
    rw [course.outcomes_eq_nil, List.mem_singleton.1 issued]
    exact ⟨rfl, Nat.zero_le 1, nofun⟩
  | ended ended =>
    rw [ended.deliveries_eq] at issued ⊢
    rw [ended.outcomes_eq_nil, List.mem_singleton.1 issued]
    exact ⟨rfl, Nat.zero_le 1, nofun⟩
  | @reported start mark h ended ticket =>
    have one : History.outcomes (h ++ [.sent k (k.outcome mark)]) = [k.outcome mark] := by
      rw [History.outcomes_append, ended.outcomes_eq_nil]
      rfl
    have first : History.deliveries (h ++ [.sent k (k.outcome mark)]) = [start] := by
      rw [History.deliveries_append, ended.deliveries_eq]
      rfl
    rw [first] at issued ⊢
    obtain rfl := List.mem_singleton.1 issued
    rw [one]
    refine ⟨rfl, le_refl 1, ?_⟩
    intro o said
    obtain rfl := List.mem_singleton.1 said
    rw [← ticket]
    exact ended.fate.append_sent _ _

/-- **An outcome tells its delivery's fate.** All along an undisturbed run: what was reported is what
the ledger settled, and what waits to be settled; and every delivery that was handed out has a ticket
to itself, reports at most one outcome, and exactly one once the run has drained. If that outcome is
an acknowledgement, the sample was no number and no tier took it in; or every tier up to one took it
in once, in order, made all calls that were due with success, and let it through, but for the last,
which kept it. If it is a failure at a tier, all this is so for the tiers before; that tier took the
sample in once, a call failed, its window was left as it was, and the sample came no farther. -/
theorem Run.outcome_fate {σ : Type} {s : Settings} {c : Collaborator σ} {h : History} {p : Plant σ}
    (run : Run s c h p) :
    h.outcomes = h.settlements ++ p.tickets.outcomes ∧
      ∀ d ∈ h.deliveries, (h.of d.ticket).deliveries = [d] ∧
        (h.of d.ticket).outcomes.length ≤ 1 ∧
        (p.loop.exit = some .drained → (h.of d.ticket).outcomes.length = 1) ∧
        ∀ o ∈ (h.of d.ticket).outcomes, Fate s d (h.of d.ticket) o := by
  obtain ⟨-, -, traffic⟩ := run.sound
  refine ⟨traffic.accounts.channel, fun d issued => ?_⟩
  have here : d ∈ (h.of d.ticket).deliveries := History.mem_deliveries_of.2 ⟨issued, rfl⟩
  obtain ⟨alone, once, fate⟩ := (traffic.stands d.ticket).fate here
  refine ⟨alone, once, fun drained => ?_, fate⟩
  obtain ⟨-, settled⟩ := run.settled_of_drained drained
  obtain ⟨o, said⟩ := (traffic.at_rest settled).2.2 d issued
  rw [said]
  rfl

/-- In the short run the second unit fails at the second tier and is acknowledged there when it comes
again. -/
theorem outcome_fate_trial :
    Trial.history.outcomes
        = [.acked 1, .failed 2 .minute "persistence failed: disk full", .acked 2] ∧
      Trial.final.loop.exit = some .drained ∧
      ∀ d ∈ Trial.history.deliveries, (Trial.history.of d.ticket).outcomes.length = 1 ∧
        ∀ o ∈ (Trial.history.of d.ticket).outcomes,
          Fate Trial.settings d (Trial.history.of d.ticket) o := by
  have drained : Trial.final.loop.exit = some .drained := by decide +kernel
  refine ⟨by decide +kernel, drained, fun d issued => ?_⟩
  obtain ⟨-, -, one, fate⟩ := (Run.outcome_fate Trial.run).2 d issued
  exact ⟨one drained, fate⟩

end TierCascade
