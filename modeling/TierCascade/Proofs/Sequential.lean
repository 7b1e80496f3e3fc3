import TierCascade.Proofs.Alone
import TierCascade.Proofs.Replay
/-!
# Concurrency makes no difference

Workers of all tiers run at the same time, and the samples of all series pass through the same queues.
`Run.sequential` says that none of this can be seen in what becomes of one series: if no collaborator
ever fails, a run that has drained leaves every series, at every tier, in the state in which a single
stage per tier would have left it, one after the other, and the collaborators were handed what that
stage made, in the same order.

The argument follows one lane. `Lane.Follows` compares it with a stage alone that has taken in the
samples the lane is done with; `Lane.Step.follows` is the step, and from lane to lane what one has
let through is what the next one gets.
-/

namespace TierCascade

def Deed.isFault : Deed → Bool
  | worked _ _ (.called _ _ tries result) .. => tries != 1 || !result.isOk
  | _ => false

namespace History

/-- No attempt to call a collaborator has failed. -/
def Faultless (h : History) : Prop := ∀ e ∈ h, e.isFault = false

instance (h : History) : Decidable h.Faultless :=
  inferInstanceAs (Decidable (∀ e ∈ h, e.isFault = false))

theorem faultless_append {h ds : History} : (h ++ ds).Faultless ↔ h.Faultless ∧ ds.Faultless :=
  List.forall_mem_append

def arrivals (h : History) (t : Tier) : List Sample :=
  h.filterMap fun
    | .queued d r => if r = t then some d.sample else none
    | _ => none

@[simp] theorem arrivals_append (h g : History) (t : Tier) :
    (h ++ g).arrivals t = h.arrivals t ++ g.arrivals t :=
  List.filterMap_append

variable {h : History} {t g r : Tier} {x : Series} {d : Delivery}

theorem arrivals_lane (reaches : r = t ∨ t.next = some r) :
    (h.lane t x).arrivals r = (h.arrivals r).filter fun y => y.series = x := by
  rw [arrivals, arrivals, lane, List.filterMap_filter, List.filter_filterMap]
  congr 1
  funext e
  cases e with
  | queued d g =>
    by_cases tier : g = r
    · subst tier
      by_cases series : d.sample.series = x <;> simp [Deed.concerns, reaches, series, Option.filter]
    · simp [tier]
  | worked => simp
  | _ => simp [Deed.concerns]

theorem arrivals_queued_self (d : Delivery) (t : Tier) : arrivals [.queued d t] t = [d.sample] := by
  simp [arrivals]

theorem arrivals_queued_of_ne (d : Delivery) (h : g ≠ t) : arrivals [.queued d g] t = [] := by
  simp [arrivals, h]

end History

theorem Deed.series_of_concerns {d : Delivery} {t r : Tier} {x : Series} {act : Act}
    {before after : Option SeriesState} (h : (worked d r act before after).concerns t x = true) :
    x = d.sample.series := by
  simp only [concerns, Bool.and_eq_true, decide_eq_true_iff] at h
  exact h.2.symm

/-! ### A lane follows a stage alone -/

/-- The aggregates that are due at a collaborator. -/
def Dispatch.dueAt (d : Dispatch) (sink : Sink) (as : List Aggregate) : List Aggregate :=
  as.filter fun a => d.due a sink

/-- How far a lane is ahead of a stage alone that has taken in all the samples before the one in hand:
the sample in hand, or none, the state, and what happened. -/
inductive Lane.Ahead (s : Settings) (t : Tier) (x : Series) (o : Solo) :
    Option (Delivery × Spot) → Option SeriesState → History → List Sample → Prop where
  | free {state : Option SeriesState} {h : History} (known : o.stage.inspect x = state)
      (calls : ∀ sink, h.attempts sink = s.dispatch.dueAt sink o.aggregates)
      (went : ∀ g, t.next = some g → h.arrivals g = o.onward) :
      Ahead s t x o none state h []
  | serving {h : History} {d : Delivery} {a : Aggregate} {new : SeriesState} {sink : Sink}
      (finite : d.sample.value.isFinite = true)
      (absorbed : s.absorb t (o.stage.inspect x) d.sample = (a, new))
      (calls : ∀ k, h.attempts k
        = s.dispatch.dueAt k (o.aggregates ++ if k ∈ sink.before then [a] else []))
      (went : ∀ g, t.next = some g → h.arrivals g = o.onward) :
      Ahead s t x o (some (d, .serving t a sink)) (some new) h [d.sample]
  | closing {h : History} {d : Delivery} {a : Aggregate} {new : SeriesState}
      (finite : d.sample.value.isFinite = true)
      (absorbed : s.absorb t (o.stage.inspect x) d.sample = (a, new))
      (calls : ∀ k, h.attempts k = s.dispatch.dueAt k (o.aggregates ++ [a]))
      (went : ∀ g, t.next = some g → h.arrivals g = o.onward) :
      Ahead s t x o (some (d, .closing t a)) (some new) h [d.sample]
  | moving {state : Option SeriesState} {h : History} {d : Delivery} {g : Tier}
      (next : t.next = some g) (known : o.stage.inspect x = state)
      (calls : ∀ sink, h.attempts sink = s.dispatch.dueAt sink o.aggregates)
      (went : h.arrivals g ++ [d.sample] = o.onward) :
      Ahead s t x o (some (d, .moving g)) state h []

/-- A lane is where a stage alone would be: the samples that came are those that the stage has taken
in, the one in hand, and those that wait. -/
def Lane.Follows (s : Settings) (t : Tier) (x : Series) (L : Lane) (h : History) : Prop :=
  ∃ done held, h.arrivals t = done ++ held ++ L.queue.map (·.sample) ∧
    Ahead s t x (.after t s.tuning done) L.hand L.state h held

namespace Lane

variable {s : Settings} {t : Tier} {x : Series} {o : Solo} {now : Option (Delivery × Spot)}
  {state : Option SeriesState} {h ds : History} {held : List Sample} {L L' : Lane}

/-- What neither calls a collaborator nor hands a sample on makes no difference. -/
theorem Ahead.quiet (ahead : Ahead s t x o now state h held) (silent : ∀ k, ds.attempts k = [])
    (stays : ∀ g, t.next = some g → ds.arrivals g = []) :
    Ahead s t x o now state (h ++ ds) held := by
  have calls : ∀ k, (h ++ ds).attempts k = h.attempts k := fun k => by
    rw [History.attempts_append, silent, List.append_nil]
  have went : ∀ g, t.next = some g → (h ++ ds).arrivals g = h.arrivals g := fun g next => by
    rw [History.arrivals_append, stays g next, List.append_nil]
  cases ahead with
  | free known made gave =>
    exact .free known (fun k => (calls k).trans (made k)) fun g next => (went g next).trans (gave g next)
  | serving finite absorbed made gave =>
    exact .serving finite absorbed (fun k => (calls k).trans (made k))
      fun g next => (went g next).trans (gave g next)
  | closing finite absorbed made gave =>
    exact .closing finite absorbed (fun k => (calls k).trans (made k))
      fun g next => (went g next).trans (gave g next)
  | moving next known made gave =>
    exact .moving next known (fun k => (calls k).trans (made k)) ((congrArg (· ++ _) (went _ next)).trans gave)

theorem Ahead.called {d : Delivery} {a : Aggregate} {sink : Sink}
    (ahead : Ahead s t x o (some (d, .serving t a sink)) state h held)
    (made : ∀ k, ds.attempts k = s.dispatch.dueAt k (if k = sink then [a] else []))
    (stays : ∀ g, t.next = some g → ds.arrivals g = []) :
    Ahead s t x o (some (d, .afterCall t a sink)) state (h ++ ds) held := by
  cases ahead with
  | serving finite absorbed calls went =>
    have gave : ∀ g, t.next = some g → (h ++ ds).arrivals g = o.onward := fun g next => by
      rw [History.arrivals_append, stays g next, List.append_nil, went g next]
    have due : ∀ k, (h ++ ds).attempts k = s.dispatch.dueAt k
        (o.aggregates ++ ((if k ∈ sink.before then [a] else []) ++ if k = sink then [a] else [])) := by
      intro k
      rw [History.attempts_append, calls, made, Dispatch.dueAt, Dispatch.dueAt, Dispatch.dueAt,
        ← List.filter_append, List.append_assoc]
    cases sink with
    | store =>
      refine .serving finite absorbed (fun k => (due k).trans ?_) gave
      cases k <;> rfl
    | notifier =>
      refine .closing finite absorbed (fun k => (due k).trans ?_) gave
      cases k <;> rfl

section Turns

variable {queue : List Delivery} {d : Delivery} {a : Aggregate} {sink : Sink} {old new : SeriesState}
  {v : Verdict} {g : Tier}

theorem Follows.arrive (follows : Follows s t x ⟨queue, now, state⟩ h) (d : Delivery) :
    Follows s t x ⟨queue ++ [d], now, state⟩ (h ++ [.queued d t]) := by
  obtain ⟨done, held, came, ahead⟩ := follows
  refine ⟨done, held, ?_, ahead.quiet (fun _ => rfl) fun g next => ?_⟩
  · rw [History.arrivals_append, came, History.arrivals_queued_self, List.map_append]
    exact List.append_assoc ..
  · exact History.arrivals_queued_of_ne d (ne_of_lt (Tier.lt_next next))

theorem Follows.reject (follows : Follows s t x ⟨d :: queue, none, state⟩ h) (f : Failure)
    (infinite : d.sample.value.isFinite = false) :
    Follows s t x ⟨queue, none, state⟩ (h ++ [.worked d t (.rejected f) state state]) := by
  obtain ⟨done, held, came, ahead⟩ := follows
  cases ahead with
  | free known calls went =>
    have same : Solo.after t s.tuning (done ++ [d.sample]) = .after t s.tuning done := by
      rw [Solo.after_concat, Solo.take_of_not_finite _ infinite]
    refine ⟨done ++ [d.sample], [], ?_, ?_⟩
    · rw [History.arrivals_append, came]
      simp [History.arrivals]
    · rw [same]
      exact Ahead.quiet (.free known calls went) (fun _ => rfl) fun _ _ => rfl

theorem Follows.fold (follows : Follows s t x ⟨d :: queue, none, state⟩ h)
    (finite : d.sample.value.isFinite = true) (absorbed : s.absorb t state d.sample = (a, new)) :
    Follows s t x ⟨queue, some (d, .serving t a .store), some new⟩
      (h ++ [.worked d t (.folded a) state (some new)]) := by
  obtain ⟨done, held, came, ahead⟩ := follows
  cases ahead with
  | free known calls went =>
    subst known
    refine ⟨done, [d.sample], ?_, ?_⟩
    · rw [History.arrivals_append, came]
      simp [History.arrivals]
    · refine Ahead.quiet (.serving finite absorbed (fun k => ?_) went) (fun _ => rfl) fun _ _ => rfl
      rw [calls, Sink.before, if_neg List.not_mem_nil, List.append_nil]

theorem Follows.called (follows : Follows s t x ⟨queue, some (d, .serving t a sink), state⟩ h)
    (made : ∀ k, ds.attempts k = s.dispatch.dueAt k (if k = sink then [a] else []))
    (arrivals : ∀ g, ds.arrivals g = []) :
    Follows s t x ⟨queue, some (d, .afterCall t a sink), state⟩ (h ++ ds) := by
  obtain ⟨done, held, came, ahead⟩ := follows
  refine ⟨done, held, ?_, ahead.called made fun g _ => arrivals g⟩
  rw [History.arrivals_append, came, arrivals, List.append_nil]

theorem Follows.call (follows : Follows s t x ⟨queue, some (d, .serving t a sink), state⟩ h)
    (due : s.dispatch.due a sink = true) :
    Follows s t x ⟨queue, some (d, .afterCall t a sink), state⟩
      (h ++ [.worked d t (.called sink a 1 (.ok ())) state state]) := by
  refine follows.called (fun k => ?_) fun _ => rfl
  by_cases own : k = sink
  · subst own
    simp [History.attempts, Dispatch.dueAt, due]
  · simp [History.attempts, Dispatch.dueAt, own, Ne.symm own]

theorem Follows.skip (follows : Follows s t x ⟨queue, some (d, .serving t a sink), state⟩ h)
    (due : s.dispatch.due a sink = false) :
    Follows s t x ⟨queue, some (d, .afterCall t a sink), state⟩ (h ++ []) := by
  refine follows.called (fun k => ?_) fun _ => rfl
  by_cases own : k = sink
  · subst own
    simp [History.attempts, Dispatch.dueAt, due]
  · simp [History.attempts, Dispatch.dueAt, own]

/-- A look at the window ends what the tier does with a sample. The stage alone comes to the same
verdict, so it is done with the sample too, and what the lane still has to give is what the stage has
let through. -/
theorem Follows.look (follows : Follows s t d.sample.series ⟨queue, some (d, .closing t a), some old⟩ h)
    (rule : Window t none a old v new) :
    ∃ done, h.arrivals t = done ++ queue.map (·.sample) ∧
      (Solo.after t s.tuning done).stage.inspect d.sample.series = some new ∧
      (∀ k, h.attempts k = s.dispatch.dueAt k (Solo.after t s.tuning done).aggregates) ∧
      ∀ g, t.next = some g → h.arrivals g ++ (if v = .kept then [] else [a.toSample])
        = (Solo.after t s.tuning done).onward := by
  obtain ⟨done, held, came, ahead⟩ := follows
  cases ahead with
  | closing finite absorbed calls went =>
    obtain ⟨known, made, onward⟩ := Solo.take_after finite absorbed rule
    refine ⟨done ++ [d.sample], came, known, fun k => ?_, fun g next => ?_⟩
    · rw [calls, made]
    · rw [went g next, onward]

theorem Follows.keep (follows : Follows s t d.sample.series ⟨queue, some (d, .closing t a), some old⟩ h)
    (rule : Window t none a old .kept new) :
    Follows s t d.sample.series ⟨queue, none, some new⟩
      (h ++ [.worked d t (.looked a .kept) (some old) (some new)]) := by
  obtain ⟨done, came, known, calls, went⟩ := follows.look rule
  refine ⟨done, [], ?_, ?_⟩
  · rw [History.arrivals_append, came]
    simp [History.arrivals]
  · refine Ahead.quiet (.free known calls fun g next => ?_) (fun _ => rfl) fun _ _ => rfl
    rw [← went g next, if_pos rfl, List.append_nil]

theorem Follows.move (follows : Follows s t d.sample.series ⟨queue, some (d, .closing t a), some old⟩ h)
    (rule : Window t none a old v new) (moves : v ≠ .kept) (next : t.next = some g) :
    Follows s t d.sample.series
      ⟨queue, some (⟨d.ticket, a.toSample, d.replay⟩, .moving g), some new⟩
      (h ++ [.worked d t (.looked a v) (some old) (some new)]) := by
  obtain ⟨done, came, known, calls, went⟩ := follows.look rule
  refine ⟨done, [], ?_, ?_⟩
  · rw [History.arrivals_append, came]
    simp [History.arrivals]
  · refine Ahead.quiet (.moving next known calls ?_) (fun _ => rfl) fun _ _ => rfl
    rw [← went g next, if_neg moves]

theorem Follows.hand (follows : Follows s t x ⟨queue, some (d, .moving g), state⟩ h)
    (next : t.next = some g) : Follows s t x ⟨queue, none, state⟩ (h ++ [.queued d g]) := by
  obtain ⟨done, held, came, ahead⟩ := follows
  cases ahead with
  | moving _ known calls gave =>
    refine ⟨done, [], ?_, .free known (fun k => ?_) fun g' next' => ?_⟩
    · rw [History.arrivals_append, came, History.arrivals_queued_of_ne d (ne_of_gt (Tier.lt_next next))]
      exact List.append_nil _
    · rw [History.attempts_append, calls]
      exact List.append_nil _
    · obtain rfl : g = g' := Option.some.inj (next.symm.trans next')
      rw [History.arrivals_append, History.arrivals_queued_self, gave]

end Turns

/-- **A lane goes on following the stage alone**, as long as no call fails and no delivery is there
to be forced through. -/
theorem Step.follows (step : L.Step s t ds L') (own : ∀ e ∈ ds, e.concerns t x = true)
    (calm : ds.Faultless)
    (fresh : ∀ {d r act before after}, .worked d r act before after ∈ ds → d.replay = none)
    (follows : L.Follows s t x h) : L'.Follows s t x (h ++ ds) := by
  cases step with
  | rest =>
    rw [List.append_nil]
    exact follows
  | arrive d => exact follows.arrive d
  | reject infinite => exact follows.reject _ infinite
  | fold finite absorbed => exact follows.fold finite absorbed
  | call tries due =>
    have fine := calm _ List.mem_cons_self
    simp only [Deed.isFault, Bool.or_eq_false_iff, bne_eq_false_iff_eq] at fine
    obtain rfl := fine.1
    exact follows.call due
  | skip due => exact follows.skip due
  | fault tries fault =>
    have wrong := calm _ List.mem_cons_self
    simp [Deed.isFault, Except.isOk, Except.toBool] at wrong
  | keep rule =>
    obtain rfl := Deed.series_of_concerns (own _ List.mem_cons_self)
    rw [fresh List.mem_cons_self] at rule
    exact follows.keep rule
  | move rule moves next =>
    obtain rfl := Deed.series_of_concerns (own _ List.mem_cons_self)
    rw [fresh List.mem_cons_self] at rule
    exact follows.move rule moves next
  | hand next => exact follows.hand next

end Lane

/-! ### Nothing is delivered twice -/

namespace Traffic.Sound

variable {s : Settings} {T : Traffic} {h : History}

theorem not_failed (sound : T.Sound s h) (calm : h.Faultless) {k : Ticket} {u : Nat} {g : Tier}
    {reason : String} : .sent k (.failed u g reason) ∉ h := by
  intro said
  obtain ⟨d, -, mark, h', -, ended, outcome, here⟩ := sound.ended_of_sent said
  cases mark with
  | none => cases outcome
  | some m =>
    cases ended with
    | @halt d' _ _ _ _ course halt =>
      cases halt with
      | @fault t a sink tries fault before after due lawful =>
        have inside : .worked d' t (.called sink a tries (.error fault)) before after ∈ h.of k := by
          rw [here]
          exact List.mem_append_left _ (List.mem_append_right _ List.mem_cons_self)
        have wrong := calm _ (History.mem_of.1 inside).1
        simp [Deed.isFault, Except.isOk, Except.toBool] at wrong

theorem replay_eq_none (sound : T.Sound s h) (calm : h.Faultless) {d : Delivery} {t : Tier} {act : Act}
    {before after : Option SeriesState} (mem : .worked d t act before after ∈ h) : d.replay = none := by
  obtain ⟨-, start, issued, like⟩ := Traffic.Stands.worked sound.stands mem
  rw [like.replay]
  cases needed : start.replay with
  | none => rfl
  | some target =>
    obtain ⟨e, -, -, -, reason, failed⟩ := (sound.accounts.warranted start issued).target needed
    exact absurd failed (sound.not_failed calm)

end Traffic.Sound

/-! ### What comes in -/

/-- What the loop takes in enters the queues of the finest tier in the same order. Only the last
sample may still wait for room, and none is delivered again. -/
structure Plant.Intake {σ : Type} (h : History) (p : Plant σ) : Prop where
  ready : p.loop.ready = []
  waiting : p.loop.waiting = []
  inputs : h.inputs = h.arrivals .raw ++ (p.loop.submitting.map (·.sample)).toList

theorem Tickets.inputs_farewells {ts : Tickets} {k : Ticket} : (ts.farewells k).inputs = [] := by
  rw [farewells]
  cases ts.farewell k <;> rfl

theorem Tickets.arrivals_farewells {ts : Tickets} {k : Ticket} {t : Tier} :
    (ts.farewells k).arrivals t = [] := by
  rw [farewells]
  cases ts.farewell k <;> rfl

theorem Ledger.settle_acked_issues (l : Ledger) (u : Nat) :
    (l.settle (.acked u)).2.waits = [] ∧ (l.settle (.acked u)).2.issues = [] := by
  unfold settle
  cases l.flight.get? (Outcome.acked u).unitId <;> exact ⟨rfl, rfl⟩

namespace Plant

variable {σ : Type} {s : Settings} {c : Collaborator σ} {h ds : History} {p q : Plant σ}

theorem callDeeds_inputs (t : Tier) (w : Worker) (d : Delivery) (a : Aggregate) (sink : Sink) :
    (p.callDeeds s c t w d a sink).inputs = [] ∧ (p.callDeeds s c t w d a sink).arrivals .raw = [] := by
  unfold callDeeds
  by_cases due : s.dispatch.due a sink = true
  · rw [if_pos due]
    simp only
    cases (s.calls.call sink.label (c sink a) p.sinks).2 with
    | ok => exact ⟨rfl, rfl⟩
    | error fault => exact ⟨Tickets.inputs_farewells, Tickets.arrivals_farewells⟩
  · rw [if_neg due]
    exact ⟨rfl, rfl⟩

theorem Intake.quiet (intake : p.Intake h) (loop : q.loop = p.loop) (inputs : ds.inputs = [])
    (arrivals : ds.arrivals .raw = []) : q.Intake (h ++ ds) := by
  refine ⟨loop ▸ intake.ready, loop ▸ intake.waiting, ?_⟩
  rw [History.inputs_append, History.arrivals_append, inputs, arrivals, List.append_nil, List.append_nil,
    loop, intake.inputs]

theorem Intake.turn (intake : p.Intake h) (o : p.Orderly s) (turn : Turn s c p ds q)
    (acked : ∀ {o ts}, p.tickets.read? = some (o, ts) → ∃ u, o = .acked u) : q.Intake (h ++ ds) := by
  cases turn with
  | begin =>
    rw [List.append_nil]
    exact ⟨intake.ready, intake.waiting, intake.inputs⟩
  | closeInput =>
    rw [List.append_nil]
    exact ⟨intake.ready, intake.waiting, intake.inputs⟩
  | finish =>
    rw [List.append_nil]
    exact ⟨intake.ready, intake.waiting, intake.inputs⟩
  | wake waits =>
    rw [intake.waiting] at waits
    cases waits
  | resubmit ready first =>
    rw [intake.ready] at first
    cases first
  | receive x ready =>
    refine ⟨intake.ready, intake.waiting, ?_⟩
    have before := intake.inputs
    rw [submitting_eq_none ready] at before
    rw [History.inputs_append, History.arrivals_append, before]
    simp [History.inputs, History.arrivals, receive, Ledger.emit, Delivery.isRedelivery]
  | settle ready settled =>
    obtain ⟨tickets, meter, journal, read, rfl, rfl⟩ := settle_eq_some settled
    obtain ⟨u, rfl⟩ := acked read
    obtain ⟨waits, issues⟩ := Ledger.settle_acked_issues p.ledger u
    rw [waits, issues]
    refine ⟨intake.ready, ?_, ?_⟩
    · exact (List.append_nil _).trans intake.waiting
    · rw [History.inputs_append, History.arrivals_append, intake.inputs]
      simp [History.inputs, History.arrivals]
  | enter waits found room =>
    refine ⟨intake.ready, intake.waiting, ?_⟩
    have before := intake.inputs
    rw [waits] at before
    rw [History.inputs_append, History.arrivals_append, before, History.arrivals_queued_self]
    simp [History.inputs, setWorker]
  | reject => exact intake.quiet (p.take_frame ..).loop Tickets.inputs_farewells Tickets.arrivals_farewells
  | fold => exact intake.quiet (p.take_frame ..).loop rfl rfl
  | call => exact intake.quiet rfl (callDeeds_inputs ..).1 (callDeeds_inputs ..).2
  | fault => exact intake.quiet rfl (callDeeds_inputs ..).1 (callDeeds_inputs ..).2
  | keep => exact intake.quiet (p.close_frame ..).loop Tickets.inputs_farewells Tickets.arrivals_farewells
  | move => exact intake.quiet (p.close_frame ..).loop rfl rfl
  | @hand t i w d onward g taker here hands found room =>
    have next := (o.fits here).next hands
    refine intake.quiet rfl rfl (History.arrivals_queued_of_ne onward ?_)
    exact ne_of_gt (lt_of_le_of_lt (Tier.raw_le t) (Tier.lt_next next))
  | part => exact intake.quiet rfl Tickets.inputs_farewells Tickets.arrivals_farewells

end Plant

section Along

variable {σ : Type} {s : Settings} {c : Collaborator σ} {h : History} {p : Plant σ}

/-- Every lane follows a stage alone all along a run in which no attempt fails. -/
theorem Run.follows (run : Run s c h p) (calm : h.Faultless) (t : Tier) (x : Series) :
    (p.lane s t x).Follows s t x (h.lane t x) := by
  refine Run.by_turns_of (P := fun h p => (p.lane s t x).Follows s t x (h.lane t x))
    (fun calm => (History.faultless_append.1 calm).1) ?_ ?_ run calm
  · intro sinks board now p start
    rw [Plant.lane_of_launch start]
    exact ⟨[], [], rfl, .free rfl (fun _ => rfl) fun _ _ => rfl⟩
  · intro h p ds q run calm turn follows
    have now := (run.sound.after turn).traffic
    rw [History.lane_append]
    refine (turn.lane run.sound.orderly t x).follows (fun e mem => (History.mem_lane.1 mem).2) ?_ ?_ follows
    · exact fun e mem => calm e (List.mem_append_right h (History.mem_lane.1 mem).1)
    · exact fun mem => now.replay_eq_none calm (List.mem_append_right h (History.mem_lane.1 mem).1)

theorem Run.acked_of_read (run : Run s c h p) (calm : h.Faultless) {o : Outcome} {ts : Tickets}
    (read : p.tickets.read? = some (o, ts)) : ∃ u, o = .acked u := by
  have sound := run.sound.traffic
  have waits : o ∈ h.outcomes := by
    rw [sound.accounts.channel]
    apply List.mem_append_right
    rw [show p.traffic.tickets = p.tickets from rfl, (Tickets.read?_eq_some read).1]
    exact List.mem_cons_self
  obtain ⟨⟨k, o⟩, said, rfl⟩ := List.mem_map.1 waits
  cases o with
  | acked u => exact ⟨u, rfl⟩
  | failed u g reason => exact absurd (History.mem_sent.1 said) (sound.not_failed calm)

/-- Nothing is delivered again along a run in which no attempt fails. -/
theorem Run.intake (run : Run s c h p) (calm : h.Faultless) : p.Intake h := by
  refine Run.by_turns_of (P := fun h p => p.Intake h) (fun calm => (History.faultless_append.1 calm).1) ?_ ?_
    run calm
  · intro sinks board now p start
    obtain ⟨-, j, rfl⟩ := Plant.launch_eq_ok start
    exact ⟨rfl, rfl, rfl⟩
  · intro h p ds q run calm turn intake
    have before := (History.faultless_append.1 calm).1
    exact intake.turn run.sound.orderly turn fun read => run.acked_of_read before read

theorem Activity.hand_of_heads {t : Tier} {act : Activity} (none : act.heads t = 0) :
    act.hand t = .none := by
  cases act with
  | idle => rfl
  | parting => rfl
  | stopped => rfl
  | storing => exact absurd none (Multiset.singleton_ne_zero _)
  | notifying => exact absurd none (Multiset.singleton_ne_zero _)
  | closing => exact absurd none (Multiset.singleton_ne_zero _)
  | forwarding => exact absurd none (Multiset.singleton_ne_zero _)

theorem Run.lane_of_drained (run : Run s c h p) (drained : p.loop.exit = some .drained) (t : Tier)
    (x : Series) : (p.lane s t x).queue = [] ∧ (p.lane s t x).hand = none := by
  obtain ⟨-, settled⟩ := run.settled_of_drained drained
  obtain ⟨w, found, -⟩ := run.sound.orderly.target_eq t x
  -- Nothing is on its way any more, so nothing is at this worker.
  obtain ⟨rest, total, -⟩ := p.exists_total_eq Worker.heads found
  have all : p.loop.heads + (w.queuing t + w.activity.heads t + rest) = 0 :=
    total ▸ (run.sound.traffic.at_rest settled).1
  have mine : w.queuing t + w.activity.heads t ≤ 0 :=
    all ▸ (Multiset.le_add_right ..).trans (Multiset.le_add_left ..)
  have queue : w.queuing t = 0 := Multiset.le_zero.1 ((Multiset.le_add_right ..).trans mine)
  have hand : w.activity.heads t = 0 := Multiset.le_zero.1 ((Multiset.le_add_left ..).trans mine)
  rw [Plant.lane_of_worker found]
  constructor
  · rw [Worker.lane, List.map_eq_nil_iff.1 (Multiset.coe_eq_zero _ |>.1 queue)]
    rfl
  · rw [Worker.lane, Activity.hand_of_heads hand]
    rfl

/-- The numbers of a series that came in. -/
def History.numbers (h : History) (x : Series) : List Sample :=
  h.inputs.filter fun y => y.series = x && y.value.isFinite

theorem Run.alone_of_drained (run : Run s c h p) (calm : h.Faultless)
    (drained : p.loop.exit = some .drained) (t : Tier) (x : Series) :
    let o := Solo.after t s.tuning ((h.arrivals t).filter fun y => y.series = x)
    p.stateAt s t x = o.stage.inspect x ∧
      (∀ sink, (h.lane t x).attempts sink = s.dispatch.dueAt sink o.aggregates) ∧
      ∀ g, t.next = some g → ((h.arrivals g).filter fun y => y.series = x) = o.onward := by
  obtain ⟨done, held, came, ahead⟩ := run.follows calm t x
  obtain ⟨queue, hand⟩ := run.lane_of_drained drained t x
  rw [queue] at came
  rw [hand] at ahead
  generalize state : (p.lane s t x).state = st at ahead
  cases ahead with
  | free known calls went =>
    rw [History.arrivals_lane (.inl rfl), List.map_nil, List.append_nil, List.append_nil] at came
    rw [came, Plant.stateAt, state]
    refine ⟨known.symm, calls, fun g next => ?_⟩
    rw [← went g next, History.arrivals_lane (.inr next)]

theorem Run.inputs_of_drained (run : Run s c h p) (calm : h.Faultless) (drained : p.loop.exit = some .drained) :
    h.inputs = h.arrivals .raw := by
  obtain ⟨-, settled⟩ := run.settled_of_drained drained
  have inputs := (run.intake calm).inputs
  rw [(run.sound.loop_at_rest settled).1] at inputs
  exact inputs.trans (List.append_nil _)

/-- What came to each tier is what the stages before would have let through. -/
theorem Run.after_arrivals (run : Run s c h p) (calm : h.Faultless)
    (drained : p.loop.exit = some .drained) (x : Series) (t : Tier) :
    Solo.after t s.tuning ((h.arrivals t).filter fun y => y.series = x)
      = s.tuning.alone (h.numbers x) t := by
  refine Tier.climb (P := fun t => Solo.after t s.tuning ((h.arrivals t).filter fun y => y.series = x)
    = s.tuning.alone (h.numbers x) t) ?_ ?_ t
  · rw [Tuning.alone_raw, ← Solo.after_filter, List.filter_filter, ← run.inputs_of_drained calm drained,
      History.numbers]
    congr 2
    funext y
    exact Bool.and_comm ..
  · intro t g next same
    obtain ⟨-, -, went⟩ := run.alone_of_drained calm drained t x
    rw [Tuning.alone_next _ _ next, ← same, went g next]

/-- Every lane of a run that has drained is where the stage alone is that ends the chain. -/
theorem Run.inspect_of_drained (run : Run s c h p) (calm : h.Faultless)
    (drained : p.loop.exit = some .drained) (t : Tier) (x : Series) :
    p.inspect s t x = .ok ((s.tuning.alone (h.numbers x) t).stage.inspect x) ∧
      ∀ sink, (h.lane t x).attempts sink
        = s.dispatch.dueAt sink (s.tuning.alone (h.numbers x) t).aggregates := by
  obtain ⟨state, calls, -⟩ := run.alone_of_drained calm drained t x
  rw [run.after_arrivals calm drained x t] at state calls
  exact ⟨(run.sound.orderly.inspect_eq t x).trans (congrArg _ state), calls⟩

/-- **Concurrency makes no difference.** Take a run in which no attempt to call a collaborator failed,
once it has drained. The state of every series at every tier is the one that a chain of single stages
leaves, each of which takes in all that the one before let through, starting with the numbers of the
series in the order in which they came; and the collaborators were handed just the aggregates that
this stage made and that were due, in the same order. So two such runs agree on every series of which
they got the same numbers, however many workers there are, however the series are grouped, however
much room the queues have and whatever else came in, if only they tune the tiers and store the
aggregates alike. -/
theorem Run.sequential (run : Run s c h p) (calm : h.Faultless)
    (drained : p.loop.exit = some .drained) (t : Tier) (x : Series) :
    (p.inspect s t x = .ok ((s.tuning.alone (h.numbers x) t).stage.inspect x) ∧
      ∀ sink, (h.lane t x).attempts sink
        = s.dispatch.dueAt sink (s.tuning.alone (h.numbers x) t).aggregates) ∧
    ∀ {σ' : Type} {s' : Settings} {c' : Collaborator σ'} {h' : History} {p' : Plant σ'},
      Run s' c' h' p' → h'.Faultless → p'.loop.exit = some .drained →
      s'.tuning = s.tuning → s'.stored = s.stored → h'.numbers x = h.numbers x →
      p'.inspect s' t x = p.inspect s t x ∧
        ∀ sink, (h'.lane t x).attempts sink = (h.lane t x).attempts sink := by
  obtain ⟨state, calls⟩ := run.inspect_of_drained calm drained t x
  refine ⟨⟨state, calls⟩, ?_⟩
  intro σ' s' c' h' p' run' calm' drained' tuning stored numbers
  obtain ⟨state', calls'⟩ := run'.inspect_of_drained calm' drained' t x
  rw [tuning, numbers] at state' calls'
  refine ⟨state'.trans state.symm, fun sink => ?_⟩
  rw [calls', calls]
  apply List.filter_congr
  intro a _
  cases sink with
  | store => exact congrArg (fun stored : PerTier Bool => stored.get a.tier) stored
  | notifier => rfl

end Along

/-! ### Two short runs -/

namespace Trial

def crowded : Settings :=
  { settings with workers := .all (some 2), grouping := .all none, capacity := 1 }

def alone : List Action := List.flatten
  [[.begin, .receive (sample 0), .enter], List.replicate 4 (.work .raw 0),
    [.receive (sample 1000), .enter], List.replicate 6 (.work .raw 0),
    List.replicate 4 (.work .minute 0), [.settle, .settle, .closeInput, .finish]]

/-- The same two samples, and between them one of another series and one that is no number. -/
def between : List Action := List.flatten
  [[.begin, .receive (sample 0), .enter, .receive { sample 0 with series := .plain "shop" "returns" },
      .enter, .work .raw 1, .work .raw 0, .receive { sample 500 with value := 0 / 0 }, .enter,
      .receive (sample 1000)],
    List.replicate 4 (.work .raw 1), [.enter], List.replicate 3 (.work .raw 0),
    List.replicate 6 (.work .raw 1), List.replicate 4 (.work .minute 1), List.replicate 4 .settle,
    [.closeInput, .finish]]

theorem alone_isSome : (reach settings [] alone).isSome = true := by
  decide +kernel

theorem between_isSome : (reach crowded [] between).isSome = true := by
  decide +kernel

/-- What happened when nothing else came, and the plant as it was left. -/
def quiet : History × Plant Recorder := (reach settings [] alone).get alone_isSome

/-- What happened when something else came in between, and the plant as it was left. -/
def busy : History × Plant Recorder := (reach crowded [] between).get between_isSome

end Trial

/-- Both runs leave the series in the same state at the second tier, and hand the store the same
aggregates of it. -/
theorem sequential_trial :
    Trial.quiet.1.inputs.length = 2 ∧ Trial.busy.1.inputs.length = 4 ∧
      Trial.busy.2.inspect Trial.crowded .minute (Trial.sample 0).series
        = Trial.quiet.2.inspect Trial.settings .minute (Trial.sample 0).series ∧
      (Trial.quiet.1.lane .minute (Trial.sample 0).series).attempts .store ≠ [] ∧
      (Trial.busy.1.lane .minute (Trial.sample 0).series).attempts .store
        = (Trial.quiet.1.lane .minute (Trial.sample 0).series).attempts .store := by
  have run : Run Trial.settings Recorder.collaborator Trial.quiet.1 Trial.quiet.2 :=
    Trial.run_of_reach (by decide +kernel) (by decide) Trial.alone_isSome
  have run' : Run Trial.crowded Recorder.collaborator Trial.busy.1 Trial.busy.2 :=
    Trial.run_of_reach (by decide +kernel) (by decide) Trial.between_isSome
  have calm : Trial.quiet.1.Faultless := by decide +kernel
  have calm' : Trial.busy.1.Faultless := by decide +kernel
  have same : Trial.busy.1.numbers (Trial.sample 0).series
      = Trial.quiet.1.numbers (Trial.sample 0).series := by decide +kernel
  obtain ⟨-, agree⟩ := Run.sequential run calm (by decide +kernel) .minute (Trial.sample 0).series
  obtain ⟨state, calls⟩ := agree run' calm' (by decide +kernel) rfl rfl same
  exact ⟨by decide +kernel, by decide +kernel, state, by decide +kernel, calls .store⟩

end TierCascade
