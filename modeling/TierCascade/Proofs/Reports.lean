import Mathlib.Data.List.DropRight
import TierCascade.Health.Reporter
import TierCascade.Proofs.Boards
/-!
# What the reports come to

The board is written only where a flag turns over, yet it shows what all the reports together say
(`HealthDesk.hearAll_shows`). Of a collaborator it shows the call with which the last unbroken run of calls of
one outcome began (`Report.Told`), but nothing at all before its first failure: the flag is down to begin with,
as if all calls before had succeeded.
-/

namespace TierCascade

/-- What workers report: how a call of a collaborator ended, or that one of them broke down. -/
inductive Report where
  | failed (fault : SinkFault)
  | succeeded (sink : Sink)
  | stopped (tier : Tier) (worker : Nat) (reason : String)
  deriving DecidableEq

namespace HealthDesk

def hear (d : HealthDesk) (now : Int) : Report → HealthDesk
  | .failed fault => d.fault now fault
  | .succeeded sink => d.success now sink.part.name
  | .stopped tier worker reason => d.workerStopped now tier worker reason

def hearAll (d : HealthDesk) (rs : List (Int × Report)) : HealthDesk := rs.foldl (fun d r => d.hear r.1 r.2) d

theorem hearAll_append (d : HealthDesk) (rs rs' : List (Int × Report)) :
    d.hearAll (rs ++ rs') = (d.hearAll rs).hearAll rs' :=
  List.foldl_append

theorem hearAll_concat (d : HealthDesk) (rs : List (Int × Report)) (r : Int × Report) :
    d.hearAll (rs ++ [r]) = (d.hearAll rs).hear r.1 r.2 :=
  hearAll_append d rs [r]

end HealthDesk

namespace Report

/-- How a call of a collaborator ended, if that is what is reported: with a fault, or well. -/
def call? (sink : Sink) : Report → Option (Option SinkFault)
  | failed fault => if fault.sink = sink then some (some fault) else none
  | succeeded other => if other = sink then some none else none
  | stopped .. => none

def part : Report → String
  | failed fault => fault.sink.part.name
  | succeeded sink => sink.part.name
  | stopped .. => Part.topology.name

def calls (sink : Sink) (rs : List (Int × Report)) : List (Int × Option SinkFault) :=
  rs.filterMap fun r => (r.2.call? sink).map (r.1, ·)

/-- The workers that are reported to have broken down. -/
def stops (rs : List (Int × Report)) : List (Int × Tier × Nat × String) :=
  rs.filterMap fun
    | (now, .stopped tier worker reason) => some (now, tier, worker, reason)
    | _ => none

/-- The unbroken run of calls at the end that failed, or that did not. -/
def streak (failed : Bool) (calls : List (Int × Option SinkFault)) : List (Int × Option SinkFault) :=
  calls.rtakeWhile (·.2.isSome == failed)

def condition : Int × Option SinkFault → Condition
  | (now, some fault) => ⟨.degraded, some ("Retries exhausted: " ++ fault.message), now⟩
  | (now, none) => ⟨.healthy, none, now⟩

def breakdown : Int × Tier × Nat × String → Condition
  | (now, tier, worker, reason) =>
    ⟨.unhealthy, some (tier.name ++ " " ++ workerName worker ++ " stopped: " ++ reason), now⟩

/-! ### Runs of calls -/

section

variable {calls : List (Int × Option SinkFault)} {failed : Bool} {e : Int × Option SinkFault}

theorem streak_concat_of_eq (same : e.2.isSome = failed) :
    streak failed (calls ++ [e]) = streak failed calls ++ [e] :=
  List.rtakeWhile_concat_pos _ _ _ (beq_iff_eq.2 same)

theorem streak_concat_of_ne (other : e.2.isSome ≠ failed) : streak failed (calls ++ [e]) = [] :=
  List.rtakeWhile_concat_neg _ _ _ fun same => other (beq_iff_eq.1 same)

theorem exists_head_streak (last : calls.getLast? = some e) :
    ∃ first, (streak e.2.isSome calls).head? = some first := by
  obtain ⟨before, rfl⟩ := List.getLast?_eq_some_iff.1 last
  rw [streak_concat_of_eq rfl]
  cases streak e.2.isSome before with
  | nil => exact ⟨e, rfl⟩
  | cons first rest => exact ⟨first, rfl⟩

theorem streak_eq_nil (ends : calls.getLast?.any (·.2.isSome) ≠ failed) : streak failed calls = [] := by
  cases last : calls.getLast? with
  | none => rw [List.getLast?_eq_none_iff.1 last]; rfl
  | some e =>
    obtain ⟨before, rfl⟩ := List.getLast?_eq_some_iff.1 last
    refine streak_concat_of_ne fun same => ends ?_
    rw [last]
    exact same

theorem goes_on (same : calls.getLast?.any (·.2.isSome) = e.2.isSome) (some : ∃ e' ∈ calls ++ [e], e'.2.isSome) :
    (∃ e' ∈ calls, e'.2.isSome) ∧ (streak e.2.isSome (calls ++ [e])).head? = (streak e.2.isSome calls).head? := by
  obtain ⟨failed, mem, bad⟩ := some
  cases last : calls.getLast? with
  | none =>
    obtain rfl := List.getLast?_eq_none_iff.1 last
    obtain rfl := List.mem_singleton.1 mem
    cases same.trans bad
  | some before =>
    rw [last] at same
    have like : before.2.isSome = e.2.isSome := same
    constructor
    · rcases List.mem_append.1 mem with mem | mem
      · exact ⟨failed, mem, bad⟩
      · obtain rfl := List.mem_singleton.1 mem
        exact ⟨before, List.mem_of_getLast? last, like.trans bad⟩
    · obtain ⟨first, begins⟩ := exists_head_streak last
      rw [like] at begins
      rw [streak_concat_of_eq rfl, List.head?_append, begins]
      rfl

theorem isSome_of_mem_streak (mem : e ∈ streak failed calls) : e.2.isSome = failed := by
  have like := List.mem_rtakeWhile_imp mem
  exact beq_iff_eq.1 like

end

end Report

/-- Whether a collaborator is shown as degraded. -/
def Board.Degraded (b : Board) (sink : Sink) : Prop :=
  ∃ c, b.parts.get? sink.part.name = some c ∧ c.status = .degraded

theorem Board.degraded_iff {b : Board} {sink : Sink} :
    b.Degraded sink ↔ (b.parts.get? sink.part.name).map (·.status) = some .degraded :=
  Option.map_eq_some_iff.symm

instance (b : Board) (sink : Sink) : Decidable (b.Degraded sink) := decidable_of_iff' _ Board.degraded_iff

/-! ### One report -/

theorem Sink.name_injective {sink other : Sink} (same : sink.part.name = other.part.name) : sink = other := by
  cases sink <;> cases other <;> first | rfl | exact absurd same (by decide)

theorem Sink.name_ne_topology (sink : Sink) : sink.part.name ≠ Part.topology.name := by
  cases sink <;> decide

theorem Report.call_or_stopped (r : Report) :
    (∃ sink o, r.call? sink = some o) ∨ ∃ tier worker reason, r = .stopped tier worker reason := by
  cases r with
  | failed fault => exact .inl ⟨fault.sink, some fault, if_pos rfl⟩
  | succeeded sink => exact .inl ⟨sink, none, if_pos rfl⟩
  | stopped tier worker reason => exact .inr ⟨tier, worker, reason, rfl⟩

theorem Report.part_of_call {sink : Sink} {r : Report} {o : Option SinkFault} (call : r.call? sink = some o) :
    r.part = sink.part.name := by
  cases r with
  | failed fault =>
    obtain ⟨rfl, -⟩ := Option.ite_none_right_eq_some.1 call
    rfl
  | succeeded about =>
    obtain ⟨rfl, -⟩ := Option.ite_none_right_eq_some.1 call
    rfl
  | stopped => cases call

theorem Report.name_ne_part {sink : Sink} {r : Report} (other : r.call? sink = none) : sink.part.name ≠ r.part := by
  obtain ⟨about, o, call⟩ | ⟨tier, worker, reason, rfl⟩ := r.call_or_stopped
  · rw [part_of_call call]
    intro same
    obtain rfl := Sink.name_injective same
    cases other.symm.trans call
  · exact sink.name_ne_topology

/-- What is noted of a call that ended otherwise than the one before it. -/
def Report.note (sink : Sink) : Option SinkFault → Note
  | some fault => ⟨sink.part.name, .degraded, some ("Retries exhausted: " ++ fault.message)⟩
  | none => ⟨sink.part.name, .healthy, none⟩

theorem Report.post_note (sink : Sink) (o : Option SinkFault) (now : Int) (b : Board) :
    (note sink o).post now b = b.update sink.part.name (condition (now, o)) := by
  cases o <;> rfl

namespace Reporter

variable (reporter : Reporter) {sink : Sink} {r : Report}

/-- Takes a report down: the flags, and what is to be put up, if anything. -/
def take (reporter : Reporter) : Report → Reporter × Option Note
  | .failed fault => reporter.fault fault
  | .succeeded sink => reporter.success sink.part.name
  | .stopped tier worker reason => (reporter, some (.workerStopped tier worker reason))

theorem flagged_name (sink : Sink) : flagged sink.part.name = sink := by
  cases sink <;> decide

theorem failing_turn (sink other : Sink) (failing : Bool) :
    (reporter.turn sink failing).1.failing other = if other = sink then failing else reporter.failing other := by
  cases sink <;> cases other <;> rfl

theorem take_call {o : Option SinkFault} (call : r.call? sink = some o) : reporter.take r =
    ((reporter.turn sink o.isSome).1,
      if reporter.failing sink = o.isSome then none else some (Report.note sink o)) := by
  cases r with
  | stopped => cases call
  | failed fault =>
    by_cases own : fault.sink = sink
    · subst own
      obtain rfl : some fault = o := by simpa [Report.call?] using call
      cases was : reporter.failing fault.sink <;> simp [take, Reporter.fault, turn, was, Report.note]
    · simp [Report.call?, own] at call
  | succeeded other =>
    by_cases own : other = sink
    · subst own
      obtain rfl : none = o := by simpa [Report.call?] using call
      cases was : reporter.failing other <;> simp [take, success, turn, flagged_name, was, Report.note]
    · simp [Report.call?, own] at call

theorem take_part {n : Note} (taken : (reporter.take r).2 = some n) : n.part = r.part := by
  obtain ⟨sink, o, call⟩ | ⟨tier, worker, reason, rfl⟩ := r.call_or_stopped
  · rw [reporter.take_call call] at taken
    rw [Report.part_of_call call]
    dsimp only at taken
    split at taken
    · cases taken
    · obtain rfl := Option.some.inj taken
      cases o <;> rfl
  · obtain rfl := Option.some.inj taken
    rfl

theorem failing_take (other : r.call? sink = none) : (reporter.take r).1.failing sink = reporter.failing sink := by
  obtain ⟨about, o, call⟩ | ⟨tier, worker, reason, rfl⟩ := r.call_or_stopped
  · have apart : sink ≠ about := by
      rintro rfl
      cases other.symm.trans call
    rw [reporter.take_call call, failing_turn, if_neg apart]
  · rfl

end Reporter

namespace HealthDesk

variable (d : HealthDesk) (now : Int) {sink : Sink} {r : Report}

theorem hear_eq_apply : d.hear now r = d.apply now (d.reporter.take r) := by
  cases r <;> rfl

theorem hear_call {o : Option SinkFault} (call : r.call? sink = some o) :
    (d.hear now r).reporter = (d.reporter.turn sink o.isSome).1 ∧
      (d.hear now r).board = if d.reporter.failing sink = o.isSome then d.board
        else d.board.update sink.part.name (Report.condition (now, o)) := by
  rw [hear_eq_apply, d.reporter.take_call call]
  refine ⟨rfl, ?_⟩
  by_cases same : d.reporter.failing sink = o.isSome
  · rw [if_pos same, if_pos same]
    rfl
  · rw [if_neg same, if_neg same]
    exact Report.post_note sink o now d.board

theorem hear_frame (r : Report) : (d.hear now r).board.ready = d.board.ready ∧
    ∀ part, part ≠ r.part → (d.hear now r).board.parts.get? part = d.board.parts.get? part := by
  rw [hear_eq_apply]
  cases taken : (d.reporter.take r).2 with
  | none =>
    rw [apply, taken]
    exact ⟨rfl, fun _ _ => rfl⟩
  | some n =>
    rw [apply, taken, ← d.reporter.take_part taken]
    exact ⟨rfl, fun part apart => OrderedMap.get?_insert_of_ne _ _ apart⟩

theorem hear_none (other : r.call? sink = none) :
    (d.hear now r).reporter.failing sink = d.reporter.failing sink ∧
      (d.hear now r).board.parts.get? sink.part.name = d.board.parts.get? sink.part.name := by
  refine ⟨?_, (d.hear_frame now r).2 _ (Report.name_ne_part other)⟩
  rw [hear_eq_apply]
  exact d.reporter.failing_take other

end HealthDesk

/-! ### All reports -/

namespace Report

variable {sink : Sink} {rs : List (Int × Report)} {now : Int} {r : Report}

theorem calls_append (sink : Sink) (rs rs' : List (Int × Report)) :
    calls sink (rs ++ rs') = calls sink rs ++ calls sink rs' :=
  List.filterMap_append

theorem calls_concat_some {o : Option SinkFault} (call : r.call? sink = some o) :
    calls sink (rs ++ [(now, r)]) = calls sink rs ++ [(now, o)] := by
  rw [calls_append]
  simp [calls, call]

theorem calls_concat_none (other : r.call? sink = none) : calls sink (rs ++ [(now, r)]) = calls sink rs := by
  rw [calls_append]
  simp [calls, other]

/-- The desk shows of a collaborator what its calls come to. -/
structure Told (sink : Sink) (initial : Option Condition) (calls : List (Int × Option SinkFault))
    (d : HealthDesk) : Prop where
  /-- The flag is up if the last call failed. -/
  flag : d.reporter.failing sink = calls.getLast?.any (·.2.isSome)
  /-- As long as no call has failed, nothing is put up. -/
  untouched : (¬ ∃ e ∈ calls, e.2.isSome) → d.board.parts.get? sink.part.name = initial
  /-- Otherwise the first call of the last unbroken run is shown. -/
  shown : (∃ e ∈ calls, e.2.isSome) → ∀ failed e, (streak failed calls).head? = some e →
    d.board.parts.get? sink.part.name = some (condition e)

theorem Told.new (sink : Sink) (b : Board) : Told sink (b.parts.get? sink.part.name) [] (.new b) where
  flag := by cases sink <;> rfl
  untouched _ := rfl
  shown := nofun

/-- One more call: it goes on with the last run, and nothing is put up, or it begins another one. -/
theorem Told.call {initial : Option Condition} {calls : List (Int × Option SinkFault)} {d : HealthDesk}
    (told : Told sink initial calls d) {o : Option SinkFault} (call : r.call? sink = some o) (now : Int) :
    Told sink initial (calls ++ [(now, o)]) (d.hear now r) := by
  obtain ⟨reporter, board⟩ := d.hear_call now call
  have flag : (d.hear now r).reporter.failing sink = o.isSome := by
    rw [reporter, Reporter.failing_turn, if_pos rfl]
  refine ⟨by rw [flag, List.getLast?_concat]; rfl, fun none => ?_, fun some failed e head => ?_⟩
  · -- No call has failed, so the flag was down and stays there.
    have before : ¬ ∃ e ∈ calls, e.2.isSome :=
      fun ⟨e, mem, bad⟩ => none ⟨e, List.mem_append_left _ mem, bad⟩
    have well : o.isSome = false :=
      Bool.eq_false_iff.2 fun bad => none ⟨(now, o), List.mem_append_right _ List.mem_cons_self, bad⟩
    have down : d.reporter.failing sink = o.isSome := by
      rw [told.flag, well, Option.any_eq_false]
      exact fun e last => Bool.eq_false_iff.2 fun bad => before ⟨e, List.mem_of_getLast? last, bad⟩
    rw [board, if_pos down]
    exact told.untouched before
  · obtain rfl : o.isSome = failed := by
      by_contra other
      rw [streak_concat_of_ne other] at head
      cases head
    rw [board]
    by_cases same : d.reporter.failing sink = o.isSome
    · -- The call goes on with a run, whose beginning is up already.
      rw [if_pos same]
      rw [told.flag] at same
      obtain ⟨failed, begins⟩ := goes_on (e := (now, o)) same some
      exact told.shown failed _ _ (begins ▸ head)
    · -- The call is the first of its run.
      rw [told.flag] at same
      rw [streak_concat_of_eq (e := (now, o)) rfl, streak_eq_nil same] at head
      obtain rfl := Option.some.inj head
      rw [← told.flag] at same
      rw [if_neg same]
      exact OrderedMap.get?_insert_self ..

theorem Told.other {initial : Option Condition} {calls : List (Int × Option SinkFault)} {d : HealthDesk}
    (told : Told sink initial calls d) (other : r.call? sink = none) (now : Int) :
    Told sink initial calls (d.hear now r) := by
  obtain ⟨flag, shown⟩ := d.hear_none now other
  exact ⟨by rw [flag]; exact told.flag, by rw [shown]; exact told.untouched, by rw [shown]; exact told.shown⟩

section

variable {initial : Option Condition} {calls : List (Int × Option SinkFault)} {d : HealthDesk}

theorem Told.degraded (told : Told sink initial calls d) {fault : SinkFault}
    (last : calls.getLast? = some (now, some fault)) :
    ∃ since first, (streak true calls).head? = some (since, some first) ∧
      d.board.parts.get? sink.part.name =
        some ⟨.degraded, some ("Retries exhausted: " ++ first.message), since⟩ := by
  obtain ⟨⟨since, o⟩, begins⟩ := exists_head_streak last
  have bad : o.isSome = true := isSome_of_mem_streak (List.mem_of_head? begins)
  obtain ⟨first, rfl⟩ := Option.isSome_iff_exists.1 bad
  exact ⟨since, first, begins, told.shown ⟨_, List.mem_of_getLast? last, rfl⟩ _ _ begins⟩

theorem Told.healthy (told : Told sink initial calls d) (failed : ∃ e ∈ calls, e.2.isSome)
    (last : calls.getLast? = some (now, none)) :
    ∃ since, (streak false calls).head? = some (since, none) ∧
      d.board.parts.get? sink.part.name = some ⟨.healthy, none, since⟩ := by
  obtain ⟨⟨since, o⟩, begins⟩ := exists_head_streak last
  have well : o.isSome = false := isSome_of_mem_streak (List.mem_of_head? begins)
  obtain rfl : o = none := Option.not_isSome_iff_eq_none.1 (Bool.eq_false_iff.1 well)
  exact ⟨since, begins, told.shown failed _ _ begins⟩

/-- A collaborator that was not shown as degraded is, if and only if its last call failed. -/
theorem Told.degraded_iff (told : Told sink initial calls d) (well : initial.map (·.status) ≠ some .degraded) :
    d.board.Degraded sink ↔ ∃ now fault, calls.getLast? = some (now, some fault) := by
  rw [Board.degraded_iff]
  cases last : calls.getLast? with
  | none =>
    obtain rfl := List.getLast?_eq_none_iff.1 last
    rw [told.untouched nofun]
    exact iff_of_false well nofun
  | some e =>
    obtain ⟨now, fault | fault⟩ := e
    · refine iff_of_false ?_ nofun
      by_cases failed : ∃ e ∈ calls, e.2.isSome
      · obtain ⟨since, -, shown⟩ := told.healthy failed last
        rw [shown]
        nofun
      · rw [told.untouched failed]
        exact well
    · obtain ⟨since, first, -, shown⟩ := told.degraded last
      rw [shown]
      exact iff_of_true rfl ⟨now, fault, rfl⟩

end

end Report

namespace HealthDesk

theorem hearAll_told (b : Board) (sink : Sink) (rs : List (Int × Report)) :
    Report.Told sink (b.parts.get? sink.part.name) (Report.calls sink rs) ((new b).hearAll rs) := by
  induction rs using List.reverseRecOn with
  | nil => exact .new sink b
  | append_singleton rs r ih =>
    rw [hearAll_concat]
    cases call : r.2.call? sink with
    | some o =>
      rw [Report.calls_concat_some call]
      exact ih.call call r.1
    | none =>
      rw [Report.calls_concat_none call]
      exact ih.other call r.1

/-- What is put up about the workers: the last one that broke down. -/
theorem hearAll_topology (b : Board) (rs : List (Int × Report)) :
    ((new b).hearAll rs).board.parts.get? Part.topology.name =
      ((Report.stops rs).getLast?.map Report.breakdown).or (b.parts.get? Part.topology.name) := by
  induction rs using List.reverseRecOn with
  | nil => rfl
  | append_singleton rs r ih =>
    obtain ⟨now, r⟩ := r
    rw [hearAll_concat, Report.stops, List.filterMap_append, ← Report.stops]
    -- A report of a call is about another part, and is no report of a worker.
    have aside : Part.topology.name ≠ r.part →
        (((new b).hearAll rs).hear now r).board.parts.get? Part.topology.name =
          ((Report.stops rs ++ []).getLast?.map Report.breakdown).or (b.parts.get? Part.topology.name) := by
      intro apart
      rw [(hear_frame _ now r).2 _ apart, ih, List.append_nil]
    cases r with
    | failed fault => exact aside fault.sink.name_ne_topology.symm
    | succeeded sink => exact aside sink.name_ne_topology.symm
    | stopped tier worker reason =>
      rw [List.filterMap_cons, List.filterMap_nil, List.getLast?_concat]
      exact OrderedMap.get?_insert_self ..

theorem hearAll_frame (b : Board) (rs : List (Int × Report)) : ((new b).hearAll rs).board.ready = b.ready ∧
    ∀ part, (∀ r ∈ rs, part ≠ r.2.part) →
      ((new b).hearAll rs).board.parts.get? part = b.parts.get? part := by
  induction rs using List.reverseRecOn with
  | nil => exact ⟨rfl, fun _ _ => rfl⟩
  | append_singleton rs r ih =>
    rw [hearAll_concat]
    obtain ⟨ready, others⟩ := hear_frame ((new b).hearAll rs) r.1 r.2
    refine ⟨ready.trans ih.1, fun part apart => ?_⟩
    rw [others part (apart r (List.mem_append_right _ List.mem_cons_self))]
    exact ih.2 part fun r mem => apart r (List.mem_append_left _ mem)

/-- What the board shows once some reports were taken, whatever stood on it before: of a collaborator, the first
call of the last unbroken run of calls that ended alike, but nothing new before its first failure; of the
workers, the last one that broke down. Nothing else is touched. The whole is as well as its worst part, and work
can be handed in if the system was set up and no part has broken down. -/
theorem hearAll_shows (b : Board) (rs : List (Int × Report)) :
    let shown := ((new b).hearAll rs).board
    (∀ sink, let calls := Report.calls sink rs
      ((¬ ∃ e ∈ calls, e.2.isSome) → shown.parts.get? sink.part.name = b.parts.get? sink.part.name) ∧
      (∀ now fault, calls.getLast? = some (now, some fault) →
        ∃ since first, (Report.streak true calls).head? = some (since, some first) ∧
          shown.parts.get? sink.part.name =
            some ⟨.degraded, some ("Retries exhausted: " ++ first.message), since⟩) ∧
      (∀ now, (∃ e ∈ calls, e.2.isSome) → calls.getLast? = some (now, none) →
        ∃ since, (Report.streak false calls).head? = some (since, none) ∧
          shown.parts.get? sink.part.name = some ⟨.healthy, none, since⟩)) ∧
    (Report.stops rs = [] → shown.parts.get? Part.topology.name = b.parts.get? Part.topology.name) ∧
    (∀ now tier worker reason, (Report.stops rs).getLast? = some (now, tier, worker, reason) →
      shown.parts.get? Part.topology.name =
        some ⟨.unhealthy, some (tier.name ++ " " ++ workerName worker ++ " stopped: " ++ reason), now⟩) ∧
    (∀ part, (∀ sink : Sink, part ≠ sink.part.name) → part ≠ Part.topology.name →
      shown.parts.get? part = b.parts.get? part) ∧
    (shown.report.status = .unhealthy ↔ ∃ part c, shown.parts.get? part = some c ∧ c.status = .unhealthy) ∧
    (shown.report.status = .degraded ↔
      (¬ ∃ part c, shown.parts.get? part = some c ∧ c.status = .unhealthy) ∧
        ∃ part c, shown.parts.get? part = some c ∧ c.status = .degraded) ∧
    (shown.report.status = .healthy ↔ ∀ part c, shown.parts.get? part = some c → c.status = .healthy) ∧
    (shown.readiness.ready = true ↔ b.ready = true ∧ shown.report.status ≠ .unhealthy) := by
  intro shown
  refine ⟨fun sink => ?_, fun never => ?_, fun now tier worker reason last => ?_, fun part call stop => ?_,
    worstStatus_eq_unhealthy, worstStatus_eq_degraded, worstStatus_eq_healthy, ?_⟩
  · have told := hearAll_told b sink rs
    exact ⟨told.untouched, fun _ _ last => told.degraded last, fun _ failed last => told.healthy failed last⟩
  · have topology := hearAll_topology b rs
    rw [never] at topology
    exact topology
  · have topology := hearAll_topology b rs
    rw [last] at topology
    exact topology
  · refine (hearAll_frame b rs).2 part fun r _ => ?_
    cases r.2 with
    | failed fault => exact call fault.sink
    | succeeded sink => exact call sink
    | stopped => exact stop
  · rw [Board.readiness_ready, (hearAll_frame b rs).1]

end HealthDesk

end TierCascade
