import Mathlib.Algebra.BigOperators.Group.List.Lemmas
import TierCascade.Proofs.Metering
import TierCascade.Proofs.Ownership
/-!
# Nothing is lost on the way

Between the source and the last tier samples are counted three times: by the ledger when they are
delivered, by the states that take them in, and by the meter when a worker is done with them. What the
ledger hands out goes through the loop into the queues of the finest tier (`Turn.supplies`); what goes
into a queue comes out of it (`Plant.Queued`); and what a tier takes in is counted by its states
(`Plant.Open.counted_eq`). A run that has drained has nothing on its way, so then all counts agree
(`Run.flow_conserved`).
-/

namespace TierCascade

/-! ### From the ledger to the finest tier -/

/-- What the loop gets from the ledger it holds or has put into a queue, and the ledger counts it. -/
structure Plant.Supplies {σ : Type} (p : Plant σ) (ds : History) (q : Plant σ) : Prop where
  loop : (ds.deliveries : Multiset Delivery) + p.loop.deliveries = ds.came .raw + q.loop.deliveries
  ledger : q.ledger.emitted + q.ledger.redelivered
    = p.ledger.emitted + p.ledger.redelivered + ds.deliveries.length

theorem Tickets.came_farewells {ts : Tickets} {k : Ticket} {t : Tier} : (ts.farewells k).came t = [] := by
  rw [farewells]
  cases ts.farewell k <;> rfl

theorem Settlement.deliveries_issues (st : Settlement) : st.issues.deliveries = st.waits := by
  cases st <;> rfl

theorem Ledger.Settles.supplied {l l' : Ledger} {o : Outcome} {st : Settlement} (settles : l.Settles o l' st) :
    l'.emitted + l'.redelivered = l.emitted + l.redelivered + st.waits.length := by
  cases settles <;> rfl

namespace Plant.Supplies

variable {σ : Type} {s : Settings} {c : Collaborator σ} {p q : Plant σ} {ds : History}

theorem quiet (deliveries : ds.deliveries = []) (came : ds.came .raw = [])
    (loop : (q.loop.deliveries : Multiset Delivery) = p.loop.deliveries) (ledger : q.ledger = p.ledger) :
    p.Supplies ds q := by
  constructor
  case loop => rw [deliveries, came, loop]
  case ledger => rw [ledger, deliveries, List.length_nil, Nat.add_zero]

theorem call {t : Tier} {w : Worker} {d : Delivery} {a : Aggregate} {sink : Sink} (loop : q.loop = p.loop)
    (ledger : q.ledger = p.ledger) : p.Supplies (p.callDeeds s c t w d a sink) q := by
  have none : (p.callDeeds s c t w d a sink).deliveries = [] ∧
      (p.callDeeds s c t w d a sink).came .raw = [] := by
    unfold callDeeds
    split
    · simp only
      split
      · exact ⟨rfl, rfl⟩
      · exact ⟨Tickets.deliveries_farewells, Tickets.came_farewells⟩
    · exact ⟨rfl, rfl⟩
  exact .quiet none.1 none.2 (by rw [loop]) ledger

theorem receive (x : Sample) (ready : p.loopIdle = true) :
    p.Supplies [.issued (p.ledger.emit x).2] (p.receive x) := by
  constructor
  case loop =>
    simp only [Loop.deliveries, Plant.receive, submitting_eq_none ready]
    rfl
  case ledger => exact Nat.add_right_comm ..

theorem settle {o : Outcome} {st : Settlement} (settled : p.settle = some (q, o, st)) :
    p.Supplies (.settled o st :: st.issues) q := by
  obtain ⟨tickets, meter, journal, read, rfl, rfl⟩ := settle_eq_some settled
  have issued : History.deliveries (.settled o (p.ledger.settle o).2 :: (p.ledger.settle o).2.issues)
      = (p.ledger.settle o).2.waits :=
    Settlement.deliveries_issues _
  have none : History.came (.settled o (p.ledger.settle o).2 :: (p.ledger.settle o).2.issues) .raw = [] := by
    cases (p.ledger.settle o).2 <;> rfl
  constructor
  case loop =>
    have last : ((p.ledger.settle o).2.waits.map fun d => (p.loop.run, d)).map (·.2)
        = (p.ledger.settle o).2.waits := by
      rw [List.map_map]
      exact List.map_id _
    rw [issued, none, Loop.deliveries, Loop.deliveries, List.map_append, last, ← List.append_assoc,
      Multiset.coe_nil, zero_add, Multiset.coe_add, Multiset.coe_eq_coe]
    exact List.perm_append_comm
  case ledger =>
    rw [issued]
    exact (p.ledger.settles o).supplied

theorem wake {i run : Nat} {d : Delivery} (waits : p.loop.waiting[i]? = some (run, d)) :
    p.Supplies [] { p with loop :=
      { p.loop with waiting := p.loop.waiting.eraseIdx i, ready := p.loop.ready ++ [d] } } := by
  refine .quiet rfl rfl (Multiset.coe_eq_coe.2 ?_) rfl
  obtain ⟨inside, here⟩ := List.getElem?_eq_some_iff.1 waits
  have perm := (List.getElem_cons_eraseIdx_perm inside).map (·.2)
  rw [here] at perm
  simp only [Loop.deliveries, List.append_assoc, List.singleton_append]
  exact (perm.append_left _).append_left _

end Plant.Supplies

/-- **Every turn passes on what the ledger hands out.** -/
theorem Turn.supplies {σ : Type} {s : Settings} {c : Collaborator σ} {p q : Plant σ} {ds : History}
    (turn : Turn s c p ds q) (o : p.Orderly s) : p.Supplies ds q := by
  cases turn with
  | begin => exact .quiet rfl rfl rfl rfl
  | receive x ready => exact .receive x ready
  | closeInput => exact .quiet rfl rfl rfl rfl
  | settle ready settled => exact .settle settled
  | wake waits => exact .wake waits
  | @resubmit d rest ready first =>
    refine .quiet rfl rfl ?_ rfl
    simp only [Loop.deliveries, Plant.submitting_eq_none ready, first]
    rfl
  | @enter d taker waits found room =>
    refine ⟨?_, rfl⟩
    have one : History.came [.queued d .raw] .raw = [d] := by simp [History.came, Deed.came?]
    simp only [Loop.deliveries, waits, one]
    rfl
  | finish ready settled none =>
    exact .quiet rfl rfl rfl rfl
  | reject =>
    obtain ⟨loop, ledger, -⟩ := p.take_frame ..
    exact .quiet Tickets.deliveries_farewells Tickets.came_farewells (by rw [loop]) ledger
  | fold =>
    obtain ⟨loop, ledger, -⟩ := p.take_frame ..
    exact .quiet rfl rfl (by rw [loop]) ledger
  | call => exact .call rfl rfl
  | fault => exact .call rfl rfl
  | keep =>
    obtain ⟨loop, ledger, -⟩ := p.close_frame ..
    exact .quiet Tickets.deliveries_farewells Tickets.came_farewells (by rw [loop]) ledger
  | move =>
    obtain ⟨loop, ledger, -⟩ := p.close_frame ..
    exact .quiet rfl rfl (by rw [loop]) ledger
  | @hand t i w d onward g taker here hands found room =>
    have apart : g ≠ .raw :=
      ne_of_gt (lt_of_le_of_lt (Tier.raw_le t) (Tier.lt_next ((o.fits here).next hands)))
    exact .quiet rfl (by simp [History.came, Deed.came?, apart]) rfl rfl
  | part => exact .quiet Tickets.deliveries_farewells Tickets.came_farewells rfl rfl

namespace Run

variable {σ : Type} {s : Settings} {c : Collaborator σ} {h : History} {p : Plant σ}

/-- All that was handed out is with the loop or has entered the finest tier, and the ledger has counted
it. -/
theorem supplied (run : Run s c h p) :
    (h.deliveries : Multiset Delivery) = h.came .raw + p.loop.deliveries ∧
      p.ledger.emitted + p.ledger.redelivered = h.deliveries.length := by
  refine Run.by_turns (P := fun h p => (h.deliveries : Multiset Delivery) = h.came .raw + p.loop.deliveries ∧
    p.ledger.emitted + p.ledger.redelivered = h.deliveries.length) (fun start => ?_) ?_ run
  · obtain ⟨-, j, rfl⟩ := Plant.launch_eq_ok start
    exact ⟨rfl, rfl⟩
  · rintro h p ds q run turn ⟨loop, ledger⟩
    have supplies := turn.supplies run.sound.orderly
    constructor
    · rw [History.deliveries_append, History.came_append, ← Multiset.coe_add, ← Multiset.coe_add, loop,
        add_assoc, add_assoc, add_right_inj, add_comm, supplies.loop]
    · rw [supplies.ledger, ledger, History.deliveries_append, List.length_append]

/-- So once a run has drained, just what was handed out has entered the finest tier. -/
theorem came_of_drained (run : Run s c h p) (drained : p.loop.exit = some .drained) :
    (h.came .raw).Perm h.deliveries := by
  obtain ⟨-, settled⟩ := run.settled_of_drained drained
  obtain ⟨submitting, ready, waiting⟩ := run.sound.loop_at_rest settled
  have none : p.loop.deliveries = [] := by rw [Loop.deliveries, submitting, ready, waiting]; rfl
  have all := run.supplied.1
  rw [none, Multiset.coe_nil, add_zero] at all
  exact (Multiset.coe_eq_coe.1 all).symm

/-! ### What is always so -/

theorem staffed (run : Run s c h p) : p.Staffed s h := by
  induction run with
  | launch start => exact Plant.staffed_of_launch start
  | step run calm move ih => exact ih.step (Action.closes_of_disturbs calm) move

theorem opened (run : Run s c h p) : ∃ xs, p.Open s h xs := by
  induction run with
  | launch start => exact ⟨[], .launch start⟩
  | step run calm move ih =>
    obtain ⟨xs, before⟩ := ih
    exact ⟨_, before.step (Action.closes_of_disturbs calm) move⟩

theorem queued (run : Run s c h p) : p.Queued s h :=
  run.by_turns (P := fun h p => p.Queued s h) .launch
    fun run turn ih => ih.moves (turn.lane run.sound.orderly)

end Run

/-! ### What was taken in is counted by the states -/

namespace History

variable (h : History) (t : Tier) (x : Series)

theorem length_folds_lane : (h.lane t x).folds.length = (h.takenIn t).count x := by
  have same : (h.lane t x).folds
      = ((h.taken t).filter fun d => d.sample.series = x).map (·.sample.bare) := by
    rw [lane, folds, taken, met, List.filterMap_filter, List.filter_filterMap, List.map_filterMap]
    congr 1
    funext e
    cases e with
    | worked d r act =>
      by_cases tier : r = t <;> by_cases series : d.sample.series = x <;> cases act <;>
        simp [Deed.concerns, Deed.met?, Act.takesIn, Option.filter, tier, series]
    | _ => simp [Deed.met?]
  rw [same, List.length_map, takenIn, List.count_eq_countP, List.countP_map, List.countP_eq_length_filter]
  rfl

end History

def Plant.sampleCount {σ : Type} (s : Settings) (p : Plant σ) (t : Tier) (x : Series) : Nat :=
  match p.inspect s t x with
  | .ok (some state) => state.count
  | _ => 0

/-- The number of samples that all states of a tier together have taken in. -/
def Plant.counted {σ : Type} (s : Settings) (p : Plant σ) (t : Tier) : Nat :=
  ((p.series t).map (p.sampleCount s t)).sum

namespace Plant

variable {σ : Type} {s : Settings} {h : History} {xs : List Sample} {p : Plant σ}

theorem Open.sampleCount_eq (now : p.Open s h xs) (t : Tier) (x : Series) :
    p.sampleCount s t x = (h.takenIn t).count x := by
  have nests := now.lanes t x
  rw [← h.length_folds_lane, sampleCount, now.orderly.inspect_eq, stateAt]
  cases state : (p.lane s t x).state with
  | some st => exact (nests.shows state).count
  | none =>
    by_cases taken : (h.lane t x).folds = []
    · rw [taken]
      rfl
    · obtain ⟨st, known⟩ := nests.exists_state taken
      cases state.symm.trans known

/-- The states of a tier count what the tier has taken in. -/
theorem Open.counted_eq (now : p.Open s h xs) (owns : p.Owns s h) (t : Tier) :
    p.counted s t = (h.taken t).length := by
  have series : (p.series t).Perm (h.takenIn t).dedup := by
    rw [List.perm_ext_iff_of_nodup (owns.nodup_series t) (List.nodup_dedup _)]
    intro x
    rw [owns.mem_series now.orderly, List.mem_dedup]
  rw [counted, List.map_congr_left fun x _ => now.sampleCount_eq t x, (series.map _).sum_eq,
    List.sum_map_count_dedup_eq_length, History.takenIn, List.length_map]

end Plant

/-! ### What the meter counts -/

namespace History

private theorem count_raised {k : Counter} {f : Deed → Option Delivery}
    (each : ∀ e : Deed, e.raises.count k = (f e).toList.length) (h : History) :
    h.raised.count k = (h.filterMap f).length := by
  induction h with
  | nil => rfl
  | cons e h ih =>
    rw [raised, List.flatMap_cons, List.count_append, ← raised, ih, each, List.filterMap_cons]
    cases f e with
    | none => exact Nat.zero_add _
    | some d => exact Nat.add_comm ..

theorem count_processed (h : History) (t : Tier) : h.raised.count (.processed t) = (h.taken t).length := by
  refine count_raised (fun e => ?_) h
  cases e with
  | worked d r act =>
    by_cases same : r = t <;> cases act <;> simp [Deed.raises, Deed.met?, Act.takesIn, same]
  | queued d r =>
    refine List.count_eq_zero_of_not_mem fun mem => ?_
    obtain ⟨_, -, other⟩ := List.mem_map.1 mem
    cases other
  | _ => rfl

theorem count_forwarded (h : History) {t g : Tier} (next : t.next = some g) :
    h.raised.count (.forwarded t) = (h.came g).length := by
  refine count_raised (fun e => ?_) h
  cases e with
  | queued d r => cases t <;> cases next <;> cases r <;> rfl
  | worked d r act => cases act <;> rfl
  | _ => rfl

theorem count_forwarded_last (h : History) {t : Tier} (last : t.next = none) :
    h.raised.count (.forwarded t) = 0 := by
  refine List.count_eq_zero_of_not_mem fun mem => ?_
  obtain ⟨e, -, raised⟩ := List.mem_flatMap.1 mem
  cases e with
  | queued d r =>
    obtain ⟨r', before, same⟩ := List.mem_map.1 raised
    cases same
    simp [last] at before
  | worked d r act => cases act <;> simp [Deed.raises] at raised
  | _ => cases raised

theorem count_invalid (h : History) :
    h.raised.count .invalid = (Tier.all.map fun t => (h.refused t).length).sum := by
  induction h with
  | nil => rfl
  | cons e h ih =>
    have one : e.raises.count .invalid = (Tier.all.map fun t => (refused [e] t).length).sum := by
      cases e with
      | worked d r act => cases act <;> cases r <;> rfl
      | queued d r => cases r <;> rfl
      | _ => rfl
    have split : (Tier.all.map fun t => (refused (e :: h) t).length)
        = Tier.all.map fun t => (refused [e] t).length + (refused h t).length :=
      List.map_congr_left fun t _ => by
        rw [← List.length_append, refused, refused, refused, ← met_append]
        rfl
    rw [raised, List.flatMap_cons, List.count_append, ← raised, ih, one, split, List.sum_map_add]

end History

/-! ### All counts agree -/

namespace Run

variable {σ : Type} {s : Settings} {c : Collaborator σ} {h : History} {p : Plant σ}

theorem handled_of_drained (run : Run s c h p) (drained : p.loop.exit = some .drained) (t : Tier) :
    (h.came t).Perm (h.handled t) :=
  run.queued.came_perm fun x => (run.lane_of_drained drained t x).1

theorem isNumber_of_came (run : Run s c h p) {t g : Tier} (next : t.next = some g) :
    ∀ d ∈ h.came g, d.isNumber = true := by
  intro d mem
  obtain ⟨xs, now⟩ := run.opened
  have nests := now.lanes t d.sample.series
  have came : d.sample ∈ (h.lane t d.sample.series).arrivals g := by
    rw [History.arrivals_lane (.inr next), List.mem_filter, History.arrivals_eq]
    exact ⟨List.mem_map_of_mem mem, decide_eq_true rfl⟩
  exact nests.finite _ (nests.handles.passes_sublist.subset ((nests.handles.arrivals_sublist next).subset came))

theorem taken_of_drained (run : Run s c h p) (drained : p.loop.exit = some .drained) {t g : Tier}
    (next : t.next = some g) : (h.came g).Perm (h.taken g) := by
  have handled := run.handled_of_drained drained g
  have numbers : (h.handled g).filter Delivery.isNumber = h.handled g :=
    List.filter_eq_self.2 fun d mem => run.isNumber_of_came next d (handled.mem_iff.2 mem)
  exact handled.trans (numbers ▸ run.queued.taken_perm g).symm

theorem refused_of_drained (run : Run s c h p) (drained : p.loop.exit = some .drained) :
    (Tier.all.map fun t => (h.refused t).length).sum = (h.deliveries.filter fun d => !d.isNumber).length := by
  have first : (h.refused .raw).length = (h.deliveries.filter fun d => !d.isNumber).length :=
    ((run.queued.refused_perm .raw).trans (((run.handled_of_drained drained .raw).symm.trans
      (run.came_of_drained drained)).filter _)).length_eq
  have others : ∀ {t g : Tier}, t.next = some g → (h.refused g).length = 0 := by
    intro t g next
    have handled := run.handled_of_drained drained g
    have none : (h.handled g).filter (fun d => !d.isNumber) = [] :=
      List.filter_eq_nil_iff.2 fun d mem => by
        rw [run.isNumber_of_came next d (handled.mem_iff.2 mem)]
        exact Bool.false_ne_true
    exact (none ▸ run.queued.refused_perm g).length_eq
  simp only [Tier.all, List.map_cons, List.map_nil, List.sum_cons, List.sum_nil, first,
    others (t := .raw) rfl, others (t := .minute) rfl, others (t := .hour) rfl, others (t := .day) rfl,
    others (t := .week) rfl, Nat.add_zero]

theorem emitted_of_drained (run : Run s c h p) (drained : p.loop.exit = some .drained) :
    p.ledger.emitted + p.ledger.redelivered
      = (h.taken .raw).length + (h.deliveries.filter fun d => !d.isNumber).length := by
  have entered := (run.handled_of_drained drained .raw).symm.trans (run.came_of_drained drained)
  rw [run.supplied.2, ((run.queued.taken_perm .raw).trans (entered.filter _)).length_eq]
  exact (List.length_eq_length_filter_add _).trans rfl

end Run

/-- **Nothing is lost on the way.** When a run has drained, whatever came in, whatever failed and was
delivered again, and in whatever order workers and loop took turns: the finest tier has taken in each
delivery that the ledger counts, but for those that the meter counts as turned away, and these are the
ones whose value is no number. The meter has counted a sample as processed for each one that a tier has
taken in, and as forwarded for each one that the next tier has taken in. The meter read zero when the
plant was started, and what a tier has taken in is the sum of the counts of all its states. -/
theorem Run.flow_conserved {σ : Type} {s : Settings} {c : Collaborator σ} {h : History} {p : Plant σ}
    (run : Run s c h p) (drained : p.loop.exit = some .drained) :
    (∀ t, (p.series t).Nodup ∧ ∀ x, x ∈ p.series t ↔ ∃ state, p.inspect s t x = .ok (some state)) ∧
      (p.counted s .raw : Int) = p.ledger.emitted + p.ledger.redelivered - p.meter.read .invalid ∧
      p.meter.read .invalid = (h.deliveries.filter fun d => !d.isNumber).length ∧
      (∀ t, p.meter.read (.processed t) = p.counted s t) ∧
      (∀ t g, t.next = some g → p.meter.read (.forwarded t) = p.counted s g) ∧
      p.meter.read (.forwarded .month) = 0 := by
  obtain ⟨xs, now⟩ := run.opened
  obtain ⟨orderly, owns⟩ := run.staffed
  have invalid : p.meter.read .invalid = (h.deliveries.filter fun d => !d.isNumber).length := by
    rw [run.read_of_drained drained rfl, h.count_invalid, run.refused_of_drained drained]
  refine ⟨fun t => ⟨owns.nodup_series t, fun x => ?_⟩, ?_, invalid, fun t => ?_, fun t g next => ?_, ?_⟩
  · obtain ⟨w, here, -⟩ := orderly.target_eq t x
    rw [orderly.inspect_eq, Plant.stateAt, Plant.lane_of_worker here, owns.mem_series orderly]
    have known := owns.iff here x
    rw [and_iff_left rfl, Option.isSome_iff_exists] at known
    rw [← known]
    simp only [Except.ok.injEq]
    rfl
  · have emitted := run.emitted_of_drained drained
    rw [now.counted_eq owns, invalid]
    omega
  · rw [run.read_of_drained drained rfl, h.count_processed, now.counted_eq owns]
  · rw [run.read_of_drained drained rfl, h.count_forwarded next, now.counted_eq owns,
      (run.taken_of_drained drained next).length_eq]
  · rw [run.read_of_drained drained rfl, h.count_forwarded_last rfl]
    rfl

/-- In the short run the finest tier takes in three deliveries of two samples, and hands on two of them. -/
theorem flow_conserved_trial :
    Trial.final.loop.exit = some .drained ∧ Trial.final.ledger.emitted = 2 ∧
      Trial.final.ledger.redelivered = 1 ∧ Trial.final.counted Trial.settings .raw = 3 ∧
      Trial.final.meter.read (.processed .raw) = 3 ∧ Trial.final.counted Trial.settings .minute = 2 ∧
      Trial.final.meter.read (.forwarded .raw) = 2 := by
  have drained : Trial.final.loop.exit = some .drained := by decide +kernel
  have emitted : Trial.final.ledger.emitted = 2 ∧ Trial.final.ledger.redelivered = 1 := by decide +kernel
  have second : Trial.final.counted Trial.settings .minute = 2 := by decide +kernel
  have numbers : (Trial.history.deliveries.filter fun d => !d.isNumber) = [] := by decide +kernel
  obtain ⟨-, first, invalid, processed, forwarded, -⟩ := Run.flow_conserved Trial.run drained
  rw [invalid, emitted.1, emitted.2, numbers] at first
  have three : Trial.final.counted Trial.settings .raw = 3 := Int.ofNat.inj first
  refine ⟨drained, emitted.1, emitted.2, three, ?_, second, ?_⟩
  · rw [processed, three]
    rfl
  · rw [forwarded .raw .minute rfl, second]
    rfl

end TierCascade
