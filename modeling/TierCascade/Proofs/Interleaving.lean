import TierCascade.Proofs.Flow
import TierCascade.Proofs.Schedules
import TierCascade.Proofs.Sharing
import TierCascade.Proofs.Sorting
/-!
# A replay does not depend on the schedule

In a replay the loop, the workers and the shutdown take turns in any order (`Console.Replays`). What the
ledger counts and which series have a state follows from the samples alone. The order in which aggregates
are recorded does not, but series that share all their workers are recorded in the order of their samples.
In a replay these are the series whose texts agree (`ReplayOptions.together`), so aggregates that are shown
at one place are recorded in one order, and sorting leaves them in it. Hence a replay has one result
(`Console.replay_deterministic`).
-/

namespace TierCascade

/-! ### What is counted -/

section Counts

variable {σ : Type} {s : Settings} {c : Collaborator σ} {h : History} {p : Plant σ}

theorem Run.failed_eq_zero (run : Run s c h p) (calm : h.Faultless) : p.ledger.failed = 0 := by
  refine Run.by_turns_of (P := fun _ p => p.ledger.failed = 0)
    (fun calm => (History.faultless_append.1 calm).1) ?_ ?_ run calm
  · intro sinks board now p start
    obtain ⟨-, j, rfl⟩ := Plant.launch_eq_ok start
    rfl
  · intro h p ds q run calm turn none
    cases turn with
    | settle ready settled =>
      obtain ⟨tickets, meter, journal, read, -, rfl⟩ := Plant.settle_eq_some settled
      obtain ⟨u, rfl⟩ := run.acked_of_read (History.faultless_append.1 calm).1 read
      have settles := p.ledger.settles (.acked u)
      generalize (p.ledger.settle (.acked u)).1 = l at settles
      generalize (p.ledger.settle (.acked u)).2 = st at settles
      cases settles <;> exact none
    | reject => rw [(p.take_frame ..).ledger]; exact none
    | fold => rw [(p.take_frame ..).ledger]; exact none
    | keep => rw [(p.close_frame ..).ledger]; exact none
    | move => rw [(p.close_frame ..).ledger]; exact none
    | _ => exact none

theorem Run.tally_of_drained (run : Run s c h p) (calm : h.Faultless) (drained : p.loop.exit = some .drained) :
    p.ledger.tally = ⟨h.inputs.length, h.inputs.length, 0, 0, 0, 0⟩ := by
  obtain ⟨-, settled⟩ := run.settled_of_drained drained
  obtain ⟨m, books⟩ := run.books
  have emitted : p.ledger.emitted = h.inputs.length := books.emitted
  have balance : p.ledger.emitted = p.ledger.acked + p.ledger.deadLettered + p.ledger.pending := books.balance
  have failures : p.ledger.failed = p.ledger.redelivered + p.ledger.deadLettered := books.failures
  rw [run.failed_eq_zero calm] at failures
  have again : p.ledger.redelivered = 0 := by omega
  have lost : p.ledger.deadLettered = 0 := by omega
  have acked : p.ledger.acked = h.inputs.length := by omega
  rw [Ledger.tally, emitted, acked, run.failed_eq_zero calm, again, lost, settled]

theorem Run.mem_takenIn_of_drained (run : Run s c h p) (calm : h.Faultless)
    (drained : p.loop.exit = some .drained) (t : Tier) (x : Series) :
    x ∈ h.takenIn t ↔ ((s.tuning.alone (h.numbers x) t).stage.inspect x).isSome = true := by
  obtain ⟨orderly, owns⟩ := run.staffed
  obtain ⟨w, here, -⟩ := orderly.target_eq t x
  have known := owns.iff here x
  rw [and_iff_left rfl] at known
  have state := (run.inspect_of_drained calm drained t x).1
  rw [orderly.inspect_eq, Plant.stateAt, Plant.lane_of_worker here] at state
  rw [← known, ← Except.ok.inj state]
  rfl

end Counts

/-! ### Two runs over the same samples -/

section Twice

variable {σ : Type} {s : Settings} {c : Collaborator σ} {h h' : History} {p p' : Plant σ}

theorem Run.census_congr (run : Run s c h p) (calm : h.Faultless) (drained : p.loop.exit = some .drained)
    (run' : Run s c h' p') (calm' : h'.Faultless) (drained' : p'.loop.exit = some .drained)
    (same : h'.inputs = h.inputs) : p'.census = p.census := by
  have series : ∀ t, (h'.takenIn t).toFinset = (h.takenIn t).toFinset := by
    intro t
    ext x
    rw [List.mem_toFinset, List.mem_toFinset, run.mem_takenIn_of_drained calm drained,
      run'.mem_takenIn_of_drained calm' drained', History.numbers, same, ← History.numbers]
  rw [run.staffed.census_eq, run'.staffed.census_eq]
  simp only [series]

/-- If series whose texts agree share their workers, both runs are shown alike. -/
theorem Run.shown_congr (stores : ∀ t, s.stored.get t = true)
    (together : ∀ x, s.Together (fun y => decide (y.canonical = x.canonical)) x)
    (run : Run s c h p) (calm : h.Faultless) (drained : p.loop.exit = some .drained)
    (run' : Run s c h' p') (calm' : h'.Faultless) (drained' : p'.loop.exit = some .drained)
    (same : h'.inputs = h.inputs) :
    (h'.attempts .store).mergeSort Console.shownBefore = (h.attempts .store).mergeSort Console.shownBefore := by
  refine mergeSort_eq_of_classes Console.shownBefore_trans Console.shownBefore_total fun a => ?_
  let mine : Series → Bool := fun y => decide (y.canonical = a.series.canonical)
  -- Those that are shown where this one is are of its tier, and their texts agree.
  have narrow : ∀ as : List Aggregate, as.filter (tied Console.shownBefore a)
      = (as.filter fun b => decide (b.tier = a.tier) && mine b.series).filter
        fun b => decide (a.timestamp = b.timestamp) := by
    intro as
    rw [List.filter_filter]
    refine List.filter_congr fun b _ => ?_
    rw [Console.tied_shownBefore, Bool.decide_and, Bool.decide_and]
    simp only [mine, eq_comm]
  rw [narrow, narrow, run.recorded_of_drained calm stores drained (together a.series) a.tier,
    run'.recorded_of_drained calm' stores drained' (together a.series) a.tier, same]

end Twice

/-! ### What the shutdown leaves alone -/

/-- Workers that have nothing to do, whether they were told to stop or not. -/
structure Plant.Emptied {σ : Type} (p : Plant σ) : Prop where
  rests : ∀ {t i w}, p.worker? t i = some w →
    Command.deliveries w.queue = [] ∧ (w.activity = .idle ∨ w.activity = .stopped)

namespace Plant.Emptied

variable {σ : Type} {s : Settings} {c : Collaborator σ} {h h' : History} {p q : Plant σ} {t : Tier} {i : Nat}
  {w : Worker}

theorem set (emptied : p.Emptied) (here : p.worker? t i = some w) (w' : Worker)
    (pools : q.pools = (p.setWorker t i w').pools)
    (own : Command.deliveries w'.queue = [] ∧ (w'.activity = .idle ∨ w'.activity = .stopped)) : q.Emptied := by
  refine ⟨fun {r j v} there => ?_⟩
  rw [worker?, pools] at there
  rcases worker?_setWorker p here there with ⟨rfl, rfl, rfl⟩ | ⟨-, before⟩
  · exact own
  · exact emptied.rests before

theorem work (emptied : p.Emptied) (move : p.work s c t i = some q) :
    q.Emptied ∧ q.sinks = p.sinks ∧ q.ledger = p.ledger := by
  -- All that can be left to do for a worker is to stop.
  cases workStep_of_work move with
  | take w' here head =>
    have none := (emptied.rests here).1
    rw [head] at none
    cases none
  | serve w' here queue less =>
    rcases (emptied.rests here).2 with rests | rests <;> rw [rests] at less <;> cases less
  | hand here hands =>
    rcases (emptied.rests here).2 with rests | rests <;> cases hands.symm.trans rests
  | refused here hands =>
    rcases (emptied.rests here).2 with rests | rests <;> cases hands.symm.trans rests
  | @halt w rest here free head stops =>
    subst stops
    exact ⟨emptied.set here { w with activity := .stopped, queue := [] } rfl ⟨rfl, .inr rfl⟩, rfl, rfl⟩

theorem shutdown (emptied : p.Emptied) (move : p.shutdown s = some q) :
    q.Emptied ∧ q.sinks = p.sinks ∧ q.ledger = p.ledger := by
  cases shutdownStep_of_shutdown move with
  | @tell t sent w stage here =>
    have rests := emptied.rests here
    refine ⟨emptied.set here (w.push .halt) rfl ⟨?_, rests.2⟩, rfl, rfl⟩
    rw [← rests.1]
    exact List.filterMap_append.trans (List.append_nil _)
  | _ => exact ⟨⟨emptied.rests⟩, rfl, rfl⟩

/-- **Shutting down a plant whose workers are done changes neither what was recorded nor what was
counted.** -/
theorem leads {xs : List Sample} (emptied : p.Emptied) (leads : Leads s c Action.winds xs (h, p) (h', q)) :
    q.sinks = p.sinks ∧ q.ledger = p.ledger := by
  obtain ⟨as, winds, -, moves⟩ := leads
  refine (@follow_keeps _ s c (fun _ _ q => q.Emptied ∧ q.sinks = p.sinks ∧ q.ledger = p.ledger) _ ?_ as winds h h'
    [] p q moves ⟨emptied, rfl, rfl⟩).2
  rintro h xs r a r' winds move ⟨emptied, sinks, ledger⟩
  cases a with
  | work t i =>
    obtain ⟨emptied', sinks', ledger'⟩ := emptied.work move
    exact ⟨emptied', sinks'.trans sinks, ledger'.trans ledger⟩
  | shutdown =>
    rw [Plant.step] at move
    split at move
    · cases move
    · obtain ⟨emptied', sinks', ledger'⟩ := emptied.shutdown move
      exact ⟨emptied', sinks'.trans sinks, ledger'.trans ledger⟩
  | _ => cases winds

end Plant.Emptied

theorem Run.emptied_of_drained {σ : Type} {s : Settings} {c : Collaborator σ} {h : History} {p : Plant σ}
    (run : Run s c h p) (drained : p.loop.exit = some .drained) : p.Emptied := by
  obtain ⟨-, settled⟩ := run.settled_of_drained drained
  exact ⟨Plant.rests_of_custody (run.sound.custody_eq_zero settled)⟩

/-! ### Replays -/

theorem Plant.Leads.recorded {s : Settings} {board : Board} {now : Int} {start p : Plant Recorder} {h : History}
    {xs : List Sample} (launched : Plant.launch s (Recorder.new []) board now = .ok start)
    (leads : Leads s Recorder.collaborator Action.calm xs ([], start) (h, p)) : p.Recorded s h ∧ h.inputs = xs := by
  obtain ⟨as, all, came, moves⟩ := leads
  have calm : ∀ a ∈ as, a.disturbs = false := fun a mem => Action.calm_iff.1 (all a mem)
  refine ⟨recorded_of_follow launched calm moves, ?_⟩
  rw [← came]
  exact Run.inputs_follow calm (.launch launched) moves

namespace Console

/-- What can come of replaying some samples. Settings that cannot be used are turned down. Otherwise the
samples are taken in, and the loop and the workers take turns in any order until the run has drained; the
states are counted; and the workers and the shutdown take turns in any order until the plant is closed. -/
inductive Replays (s : Settings) (xs : List Sample) (skipped : Nat) : Except Complaint ReplayReport → Prop where
  | refused {f : Failure} (launched : Plant.launch s (Recorder.new []) .empty 0 = .error f) :
      Replays s xs skipped (.error ⟨"Failed to start pipeline", [f.message]⟩)
  | uncounted {start p : Plant Recorder} {h : History} {f : Failure}
      (launched : Plant.launch s (Recorder.new []) .empty 0 = .ok start)
      (served : Plant.Leads s Recorder.collaborator Action.calm xs ([], start) (h, p))
      (drained : p.loop.exit = some .drained) (counted : p.census = .error f) :
      Replays s xs skipped (.error ⟨f.message, []⟩)
  | done {start p q : Plant Recorder} {h h' : History} {census : List TierCensus}
      (launched : Plant.launch s (Recorder.new []) .empty 0 = .ok start)
      (served : Plant.Leads s Recorder.collaborator Action.calm xs ([], start) (h, p))
      (drained : p.loop.exit = some .drained) (counted : p.census = .ok census)
      (wound : Plant.Leads s Recorder.collaborator Action.winds []
        (h, p.report (.stopping Exit.drained.text p.ledger.pending)) (h', q))
      (closed : q.closing = .closed) :
      Replays s xs skipped (.ok (.of xs.length skipped q.ledger.tally census q.sinks.stored.reverse))

variable {s : Settings} {xs : List Sample} {skipped : Nat} {out out' : Except Complaint ReplayReport}

theorem replays_replay (s : Settings) (xs : List Sample) (skipped : Nat) :
    Replays s xs skipped (replay s xs skipped) := by
  unfold replay
  cases launched : Plant.launch s (Recorder.new []) .empty 0 with
  | error f => exact .refused launched
  | ok start =>
    obtain ⟨h, served, drained⟩ := Plant.run_drains launched xs
    have idle := ((Plant.Leads.recorded launched served).1.run.settled_of_drained drained).1
    cases counted : (start.run s Recorder.collaborator none xs).census with
    | error f =>
      simp only [Except.mapError, counted, bind, Except.bind]
      exact .uncounted launched served drained counted
    | ok census =>
      obtain ⟨h', wound, closed⟩ := Plant.conclude_closes launched served idle .drained
      simp only [Except.mapError, counted, bind, Except.bind, drained, Option.getD_some]
      exact .done launched served drained counted wound closed

theorem Replays.result (replays : Replays s xs skipped out) :
    (∃ f, Plant.launch s (Recorder.new []) .empty 0 = .error f ∧
      out = .error ⟨"Failed to start pipeline", [f.message]⟩) ∨
    ∃ (start p : Plant Recorder) (h : History) (census : List TierCensus),
      Plant.launch s (Recorder.new []) .empty 0 = .ok start ∧ p.Recorded s h ∧ h.inputs = xs ∧
      p.loop.exit = some .drained ∧ p.census = .ok census ∧
      out = .ok (.of xs.length skipped ⟨xs.length, xs.length, 0, 0, 0, 0⟩ census (h.attempts .store)) := by
  cases replays with
  | refused launched => exact .inl ⟨_, launched, rfl⟩
  | uncounted launched served drained counted =>
    cases (Plant.Leads.recorded launched served).1.run.staffed.census_eq.symm.trans counted
  | done launched served drained counted wound closed =>
    obtain ⟨recorded, inputs⟩ := Plant.Leads.recorded launched served
    have emptied := recorded.run.emptied_of_drained drained
    obtain ⟨sinks, ledger⟩ := Plant.Emptied.leads (p := Plant.report _ _) ⟨emptied.rests⟩ wound
    refine .inr ⟨_, _, _, _, launched, recorded, inputs, drained, counted, ?_⟩
    have tally := recorded.run.tally_of_drained recorded.calm drained
    rw [inputs] at tally
    rw [sinks, ledger, ← recorded.stored, ← tally]
    rfl

/-- There is but one result if series whose texts agree share their workers and all tiers are stored. -/
theorem Replays.unique (stores : ∀ t, s.stored.get t = true)
    (together : ∀ x, s.Together (fun y => decide (y.canonical = x.canonical)) x)
    (replays : Replays s xs skipped out) (replays' : Replays s xs skipped out') : out' = out := by
  rcases replays.result with ⟨f, refused, rfl⟩ |
      ⟨start, p, h, census, launched, recorded, inputs, drained, counted, rfl⟩ <;>
    rcases replays'.result with ⟨f', refused', rfl⟩ |
      ⟨start', p', h', census', launched', recorded', inputs', drained', counted', rfl⟩
  · cases refused.symm.trans refused'
    rfl
  · cases refused.symm.trans launched'
  · cases launched.symm.trans refused'
  · have same : h'.inputs = h.inputs := inputs'.trans inputs.symm
    have states := recorded.run.census_congr recorded.calm drained recorded'.run recorded'.calm drained' same
    have shown := recorded.run.shown_congr stores together recorded.calm drained recorded'.run recorded'.calm
      drained' same
    obtain rfl := Except.ok.inj (counted'.symm.trans (states.trans counted))
    rw [ReplayReport.of, ReplayReport.of, shown]

/-! ### The settings of a replay -/

namespace ReplayOptions

theorem stores (o : ReplayOptions) (t : Tier) : o.settings.stored.get t = true := by
  cases t <;> rfl

/-- At the two finest tiers the worker of a series depends on its text, and the other tiers have one worker. -/
theorem together (o : ReplayOptions) (x : Series) :
    o.settings.Together (fun y => decide (y.canonical = x.canonical)) x := by
  intro t y own
  have text : y.canonical = x.canonical := of_decide_eq_true own
  have byText : ∀ n : Nat, Routing.route ⟨n, .key⟩ y = Routing.route ⟨n, .key⟩ x := by
    intro n
    simp only [Routing.route, Grouping.text?, text]
  have alone : ∀ (g : Grouping) (z : Series), Routing.route ⟨1, g⟩ z = 0 := fun g z =>
    Nat.lt_one_iff.1 (Routing.route_lt ⟨1, g⟩ z Nat.one_pos)
  cases t with
  | raw => exact byText 8
  | minute => exact byText 8
  | _ => exact (alone .metric y).trans (alone .metric x).symm

end ReplayOptions

/-- **The result of a replay does not depend on the schedule.** Whatever the samples and the options: in
whatever order the loop, the workers and the shutdown take turns, what comes of a replay is what `replay`
gives, and that can come of it. So all counts are the same, and so is the list of aggregates, including the
order of those that are shown at one place, be they of one series or of several whose texts agree. -/
theorem replay_deterministic (o : ReplayOptions) (xs : List Sample) (skipped : Nat)
    (out : Except Complaint ReplayReport) :
    Replays o.settings xs skipped out ↔ out = replay o.settings xs skipped := by
  constructor
  · exact fun replays => (replays_replay ..).unique o.stores o.together replays
  · rintro rfl
    exact replays_replay ..

end Console

end TierCascade
