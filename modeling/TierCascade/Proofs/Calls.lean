import TierCascade.Proofs.Runs
/-!
# What the collaborators get

The history notes which calls were made and how many attempts each of them took. `Run.sinks_eq` says
that it leaves none out and invents none: whoever makes the attempts that were noted, one after the
other, brings the collaborators from where they were when the plant was started to where they are.
-/

namespace TierCascade

namespace CallBudget

variable {σ : Type} (b : CallBudget) (label : String) (callee : Callee σ)

/-- Makes a number of attempts, whatever they come to. -/
def make : Nat → σ → σ
  | 0, sinks => sinks
  | n + 1, sinks => make n (b.attempt label callee sinks).1

theorem fst_attempts (left : Nat) (sinks : σ) :
    (b.attempts label callee left sinks).1
      = b.make label callee (b.tries label callee left sinks) sinks := by
  induction left generalizing sinks with
  | zero => rfl
  | succ left ih =>
    rw [attempts, tries]
    cases first : b.attempt label callee sinks with
    | mk reached result =>
      cases result with
      | ok => simp only [make, first]
      | error fault =>
        simp only [make, first]
        exact ih reached

end CallBudget

variable {σ : Type} {s : Settings} {c : Collaborator σ} {p q : Plant σ} {h ds : History}

def Deed.reach (s : Settings) (c : Collaborator σ) (sinks : σ) : Deed → σ
  | worked _ _ (.called sink a tries _) .. => s.calls.make sink.label (c sink a) tries sinks
  | _ => sinks

/-- Where the collaborators are after all that has happened. -/
def History.reach (s : Settings) (c : Collaborator σ) (h : History) (sinks : σ) : σ :=
  h.foldl (Deed.reach s c) sinks

theorem History.reach_append (s : Settings) (c : Collaborator σ) (h ds : History) (sinks : σ) :
    (h ++ ds).reach s c sinks = ds.reach s c (h.reach s c sinks) :=
  List.foldl_append

theorem Tickets.reach_farewells (ts : Tickets) (k : Ticket) (sinks : σ) :
    (ts.farewells k).reach s c sinks = sinks := by
  rw [farewells]
  cases ts.farewell k <;> rfl

namespace Plant

variable {t : Tier} {w : Worker} {d : Delivery} {a : Aggregate} {sink : Sink} {sinks : σ}

theorem reach_callDeeds {result : Except SinkFault Bool}
    (issued : s.dispatch.issue c sink a p.sinks = (sinks, result)) :
    (p.callDeeds s c t w d a sink).reach s c p.sinks = sinks := by
  unfold Dispatch.issue at issued
  unfold callDeeds
  by_cases due : s.dispatch.due a sink = true
  · rw [if_pos due] at issued ⊢
    have made : sinks = (s.calls.call sink.label (c sink a) p.sinks).1 :=
      (congrArg Prod.fst issued).symm
    have farewell : ∀ {e : Deed} {ts : Tickets}, History.reach s c (e :: ts.farewells d.ticket) p.sinks
        = Deed.reach s c p.sinks e := Tickets.reach_farewells ..
    simp only
    rw [made, CallBudget.call, CallBudget.fst_attempts]
    cases (s.calls.attempts sink.label (c sink a) s.calls.retries p.sinks).2 with
    | ok => rfl
    | error fault => exact farewell
  · rw [if_neg due] at issued ⊢
    exact congrArg Prod.fst issued

end Plant

/-- The collaborators get what is noted, and nothing else. -/
theorem Turn.sinks_eq (turn : Turn s c p ds q) : q.sinks = ds.reach s c p.sinks := by
  cases turn with
  | begin => rfl
  | receive => rfl
  | closeInput => rfl
  | settle ready settled =>
    obtain ⟨tickets, meter, journal, read, rfl, rfl⟩ := Plant.settle_eq_some settled
    cases (p.ledger.settle _).2 <;> rfl
  | wake => rfl
  | resubmit => rfl
  | enter => rfl
  | finish => rfl
  | @reject t i w d rest f here free head refused =>
    obtain ⟨m, j, taken⟩ := p.take_eq_of_error t i { w with queue := rest } d refused
    rw [taken]
    exact (Tickets.reach_farewells ..).symm
  | @fold t i w d rest a stage here free head folded =>
    obtain ⟨m, taken⟩ := p.take_eq_of_ok t i { w with queue := rest } d folded
    rw [taken]
    rfl
  | call here calls issued => exact (Plant.reach_callDeeds issued).symm
  | @fault t i w sink d a sinks fault here calls issued =>
    obtain ⟨m, j, desk, failed⟩ := Plant.fail_eq { p with sinks } t i w d a fault
    rw [failed]
    exact (Plant.reach_callDeeds issued).symm
  | @keep t i w d a receipt here looks kept =>
    obtain ⟨m, desk, closed⟩ := p.close_eq_of_kept t i w d receipt kept
    rw [closed]
    exact (Tickets.reach_farewells ..).symm
  | @move t i w d a receipt g here looks moves next =>
    exact p.close_sinks ..
  | hand => rfl
  | part => exact (Tickets.reach_farewells ..).symm

/-- **The history leaves no call out.** The collaborators of a plant are where the calls that were
noted have brought them. -/
theorem Run.sinks_eq (run : Run s c h p) :
    ∃ sinks board now start, Plant.launch s sinks board now = .ok start ∧
      p.sinks = h.reach s c sinks := by
  refine Run.by_turns (P := fun h p => ∃ sinks board now start,
    Plant.launch s sinks board now = .ok start ∧ p.sinks = h.reach s c sinks) ?_ ?_ run
  · intro sinks board now p start
    refine ⟨sinks, board, now, p, start, ?_⟩
    obtain ⟨-, j, rfl⟩ := Plant.launch_eq_ok start
    rfl
  · rintro h p ds q - turn ⟨sinks, board, now, start, launched, reached⟩
    refine ⟨sinks, board, now, start, launched, ?_⟩
    rw [History.reach_append, ← reached]
    exact turn.sinks_eq

end TierCascade
