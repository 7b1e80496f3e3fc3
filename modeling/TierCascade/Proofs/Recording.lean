import TierCascade.Proofs.Calls
import TierCascade.Proofs.Custody
import TierCascade.Proofs.Sequential
/-!
# Recorders that nobody tampers with

A recorder without rules takes whatever it is handed, at once. So no attempt to call it fails, and it keeps
just what the history says it was handed, in the same order (`Plant.Recorded`).
-/

namespace TierCascade

namespace Recorder

variable {b : CallBudget} {label : String} {r : Recorder} {sink : Sink} {a : Aggregate}

def took (r : Recorder) (sink : Sink) (a : Aggregate) : Recorder := record sink a { r with calls := r.calls + 1 }

theorem attempt_eq (none : r.rules = []) : b.attempt label (collaborator sink a) r = (r.took sink a, .ok ()) := by
  obtain ⟨rules, calls, stored, notified⟩ := r
  obtain rfl : rules = [] := none
  simp [CallBudget.attempt, CallBudget.judge, collaborator, start, useRule, took]

theorem call_eq (none : r.rules = []) : b.call label (collaborator sink a) r = (r.took sink a, .ok ()) := by
  rw [CallBudget.call]
  cases b.retries with
  | zero => exact attempt_eq none
  | succ left => rw [CallBudget.attempts, attempt_eq none]

theorem tries_eq (none : r.rules = []) (left : Nat) : b.tries label (collaborator sink a) left r = 1 := by
  cases left with
  | zero => rfl
  | succ left => rw [CallBudget.tries, attempt_eq none]

private theorem reach_deed (s : Settings) {e : Deed} (none : r.rules = []) (fine : e.isFault = false) :
    (e.reach s collaborator r).rules = [] ∧
      (e.reach s collaborator r).stored.reverse = r.stored.reverse ++ History.attempts [e] .store := by
  cases e with
  | worked d t act =>
    cases act with
    | called sink a tries result =>
      simp only [Deed.isFault, Bool.or_eq_false_iff, bne_eq_false_iff_eq] at fine
      obtain rfl := fine.1
      rw [Deed.reach, CallBudget.make, CallBudget.make, attempt_eq none]
      cases sink with
      | store => exact ⟨none, List.reverse_cons⟩
      | notifier => exact ⟨none, (List.append_nil _).symm⟩
    | _ => exact ⟨none, (List.append_nil _).symm⟩
  | _ => exact ⟨none, (List.append_nil _).symm⟩

/-- A recorder that was never tampered with has kept all that it was handed. -/
theorem reach_eq (s : Settings) {h : History} (none : r.rules = []) (calm : h.Faultless) :
    (h.reach s collaborator r).rules = [] ∧
      (h.reach s collaborator r).stored.reverse = r.stored.reverse ++ h.attempts .store := by
  induction h generalizing r with
  | nil => exact ⟨none, (List.append_nil _).symm⟩
  | cons e h ih =>
    obtain ⟨still, kept⟩ := reach_deed s none (calm e List.mem_cons_self)
    obtain ⟨rules, stored⟩ := ih still fun e mem => calm e (List.mem_cons_of_mem _ mem)
    refine ⟨rules, ?_⟩
    change (History.reach s collaborator h (e.reach s collaborator r)).stored.reverse = _
    rw [stored, kept, List.append_assoc, ← History.attempts_append]
    rfl

end Recorder

/-! ### Turns -/

namespace History

variable {ds : History}

theorem faultless_of_silent (silent : ∀ e ∈ ds, ∀ r y, e.concerns r y = false) : ds.Faultless := by
  intro e mem
  cases e with
  | worked d r act => simpa [Deed.concerns] using silent _ mem r d.sample.series
  | _ => rfl

theorem Faultless.nil : Faultless [] := fun _ mem => absurd mem List.not_mem_nil

theorem Faultless.cons {e : Deed} (fine : e.isFault = false) (calm : ds.Faultless) : Faultless (e :: ds) := by
  intro e' mem
  rcases List.mem_cons.1 mem with rfl | later
  · exact fine
  · exact calm e' later

theorem faultless_farewells (ts : Tickets) (k : Ticket) : (ts.farewells k).Faultless :=
  faultless_of_silent fun _ mem => Tickets.concerns_of_mem_farewells mem

end History

namespace Plant

variable {s : Settings} {p q start : Plant Recorder} {h ds : History}

theorem faultless_callDeeds (none : p.sinks.rules = []) (t : Tier) (w : Worker) (d : Delivery) (a : Aggregate)
    (sink : Sink) : (p.callDeeds s Recorder.collaborator t w d a sink).Faultless := by
  unfold callDeeds
  split
  · rw [Recorder.call_eq none, Recorder.tries_eq none]
    exact .cons rfl .nil
  · exact .nil

theorem faultless_of_turn (turn : Turn s Recorder.collaborator p ds q) (none : p.sinks.rules = []) :
    ds.Faultless := by
  cases turn with
  | begin => exact .nil
  | closeInput => exact .nil
  | finish => exact .nil
  | wake => exact .nil
  | resubmit => exact .nil
  | receive => exact .cons rfl .nil
  | @settle _ _ st => cases st <;> first | exact .cons rfl .nil | exact .cons rfl (.cons rfl .nil)
  | enter => exact .cons rfl .nil
  | reject => exact .cons rfl (History.faultless_farewells _ _)
  | fold => exact .cons rfl .nil
  | call => exact faultless_callDeeds none _ _ _ _ _
  | fault => exact faultless_callDeeds none _ _ _ _ _
  | keep => exact .cons rfl (History.faultless_farewells _ _)
  | move => exact .cons rfl .nil
  | hand => exact .cons rfl .nil
  | part => exact History.faultless_farewells _ _

/-- What holds all along a run whose collaborators record what they get. -/
structure Recorded (s : Settings) (h : History) (p : Plant Recorder) : Prop where
  run : Run s Recorder.collaborator h p
  calm : h.Faultless
  rules : p.sinks.rules = []
  stored : p.sinks.stored.reverse = h.attempts .store

theorem Recorded.step {a : Action} (recorded : p.Recorded s h) (calm : a.disturbs = false)
    (move : p.step s Recorder.collaborator a = some q) :
    q.Recorded s (h ++ p.deeds s Recorder.collaborator a) := by
  have turn := recorded.run.sound.turn calm move
  have fine := faultless_of_turn turn recorded.rules
  obtain ⟨rules, stored⟩ := Recorder.reach_eq s recorded.rules fine
  rw [← turn.sinks_eq] at rules stored
  refine ⟨recorded.run.step calm move, ?_, rules, ?_⟩
  · intro e mem
    rcases List.mem_append.1 mem with old | new
    · exact recorded.calm e old
    · exact fine e new
  · rw [stored, recorded.stored, History.attempts_append]

theorem recorded_of_launch {board : Board} {now : Int}
    (launched : Plant.launch s (Recorder.new []) board now = .ok start) : start.Recorded s [] := by
  refine ⟨.launch launched, .nil, ?_, ?_⟩ <;> obtain ⟨-, j, rfl⟩ := launch_eq_ok launched <;> rfl

/-- **A recorder keeps what it is handed.** -/
theorem recorded_of_follow {board : Board} {now : Int} {as : List Action}
    (launched : Plant.launch s (Recorder.new []) board now = .ok start) (calm : ∀ a ∈ as, a.disturbs = false)
    (moves : Plant.follow s Recorder.collaborator as ([], start) = some (h, p)) : p.Recorded s h := by
  refine @follow_keeps _ s Recorder.collaborator (fun h _ p => p.Recorded s h) _ ?_ as calm [] h [] start p moves
    (recorded_of_launch launched)
  exact fun calm move recorded => recorded.step calm move

end Plant

end TierCascade
