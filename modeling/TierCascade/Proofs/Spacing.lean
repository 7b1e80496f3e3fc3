import TierCascade.Proofs.Lanes
import TierCascade.Proofs.Replay
/-!
# How far apart samples move on

A tier lets a sample of a series through when a whole period has passed since the last one, or when a
redelivery has to get through. `Run.spacing` says what that comes to over a run: samples that move on
because the window has passed are a period apart; a redelivery moves on only where its unit did so
before, with the window already past its timestamp; and so no unit enters a coarser tier for the first
time before its turn.

The time that has passed is a difference of words, and one that is none wraps around. All this holds of
runs in which no window was closed by such a difference (`History.Fits`).
-/

namespace TierCascade

namespace History

/-- How far behind the start of their windows the samples are that moved on because these had passed. -/
def gaps (h : History) : List Int :=
  h.filterMap fun
    | .worked _ _ (.looked a .closed) (some st) _ => some (a.timestamp - st.anchor)
    | _ => none

/-- None of these differences is out of the range of words, so that none has wrapped around. -/
def Fits (h : History) : Prop := ∀ n ∈ h.gaps, IsWord n

instance (h : History) : Decidable h.Fits :=
  inferInstanceAs (Decidable (∀ n ∈ h.gaps, IsWord n))

variable {h ds : History}

theorem fits_append : (h ++ ds).Fits ↔ h.Fits ∧ ds.Fits := by
  rw [Fits, gaps, List.filterMap_append]
  exact List.forall_mem_append

theorem Fits.lane (fits : h.Fits) (t : Tier) (x : Series) : (h.lane t x).Fits :=
  fun n mem => fits n ((List.filter_sublist.filterMap _).subset mem)

theorem Fits.elapsed {d : Delivery} {t : Tier} {a : Aggregate} {st : SeriesState}
    {after : Option SeriesState} (fits : h.Fits)
    (mem : .worked d t (.looked a .closed) (some st) after ∈ h) :
    st.elapsed a.timestamp = a.timestamp - st.anchor :=
  SeriesState.elapsed_of_isWord (fits _ (List.mem_filterMap.2 ⟨_, mem, rfl⟩))

end History

/-- The window of a series is where the samples that moved on have left it, and they are a period
apart, the first from when the series was opened. -/
def Paced (t : Tier) (emissions : List Int) : Option SeriesState → Prop
  | none => emissions = []
  | some st => st.lastEmitted = emissions.getLast? ∧
      (st.openedAt :: emissions).Pairwise fun a b => a + t.period ≤ b

namespace Paced

variable {t : Tier} {emissions : List Int} {st : SeriesState}

theorem le_lastEmitted (paced : Paced t emissions (some st)) {e : Int} (mem : e ∈ emissions) :
    ∃ last, st.lastEmitted = some last ∧ e ≤ last := by
  obtain ⟨window, apart⟩ := paced
  have some : emissions ≠ [] := List.ne_nil_of_mem mem
  refine ⟨emissions.getLast some, by rw [window, List.getLast?_eq_getLast_of_ne_nil some], ?_⟩
  have split := List.dropLast_append_getLast some
  have spaced := (List.pairwise_cons.1 apart).2
  rw [← split] at mem spaced
  rcases List.mem_append.1 mem with before | last
  · have gap := (List.pairwise_append.1 spaced).2.2 e before _ List.mem_cons_self
    have positive := t.period_pos
    omega
  · exact le_of_eq (List.mem_singleton.1 last)

/-- So a sample that is a period ahead of the window is a period ahead of them all. -/
theorem add_period_le (paced : Paced t emissions (some st)) {ts : Int}
    (due : t.period ≤ ts - st.anchor) {e : Int} (mem : e ∈ st.openedAt :: emissions) :
    e + t.period ≤ ts := by
  have bound : e ≤ st.anchor := by
    rcases List.mem_cons.1 mem with rfl | emitted
    · obtain ⟨window, apart⟩ := paced
      cases last : emissions.getLast? with
      | none =>
        rw [SeriesState.anchor, window, last]
        exact le_refl _
      | some e =>
        have gap := (List.pairwise_cons.1 apart).1 e (List.mem_of_getLast? last)
        have positive := t.period_pos
        rw [SeriesState.anchor, window, last]
        show st.openedAt ≤ e
        omega
    · obtain ⟨last, window, le⟩ := paced.le_lastEmitted emitted
      rw [SeriesState.anchor, window]
      exact le
  omega

theorem pairwise_lt {state : Option SeriesState} (paced : Paced t emissions state) :
    emissions.Pairwise (· < ·) := by
  cases state with
  | none =>
    subst paced
    exact .nil
  | some st =>
    apply (List.pairwise_cons.1 paced.2).2.imp
    intro a b gap
    have positive := t.period_pos
    omega

/-- A step of a lane keeps the pace. -/
theorem step {s : Settings} {L L' : Lane} {ds : History} (paced : Paced t emissions L.state)
    (fits : ds.Fits) (step : L.Step s t ds L') : Paced t (emissions ++ ds.emissions) L'.state := by
  cases step with
  | rest => exact (List.append_nil emissions).symm ▸ paced
  | arrive => exact (List.append_nil emissions).symm ▸ paced
  | reject => exact (List.append_nil emissions).symm ▸ paced
  | call => exact (List.append_nil emissions).symm ▸ paced
  | skip => exact (List.append_nil emissions).symm ▸ paced
  | fault => exact (List.append_nil emissions).symm ▸ paced
  | hand => exact (List.append_nil emissions).symm ▸ paced
  | @fold queue state d a new finite absorbed =>
    -- Taking a sample in may open the series, but leaves the window where it is.
    obtain rfl : (s.absorb t state d.sample).2 = new := congrArg Prod.snd absorbed
    have quiet : emissions ++ History.emissions
        [.worked d t (.folded a) state (some (s.absorb t state d.sample).2)] = emissions :=
      List.append_nil _
    rw [quiet]
    cases state with
    | none =>
      subst paced
      exact ⟨rfl, List.pairwise_singleton ..⟩
    | some old => exact paced
  | keep rule => cases rule <;> exact (List.append_nil emissions).symm ▸ paced
  | move rule =>
    cases rule with
    | last => exact (List.append_nil emissions).symm ▸ paced
    | replayed => exact (List.append_nil emissions).symm ▸ paced
    | kept => exact (List.append_nil emissions).symm ▸ paced
    | closed next free due =>
      rw [fits.elapsed List.mem_cons_self] at due
      refine ⟨List.getLast?_concat.symm, ?_⟩
      rw [← List.cons_append]
      refine List.pairwise_append.2 ⟨paced.2, List.pairwise_singleton .., ?_⟩
      intro e mem ts now
      rw [List.mem_singleton.1 now]
      exact paced.add_period_le due mem

end Paced

/-! ### What a step tells -/

namespace Traffic.Step

variable {s : Settings} {T T' : Traffic} {ds : History}

theorem deliveries_of_worked (step : Step s T ds T') {e : Delivery} {t : Tier} {act : Act}
    {before after : Option SeriesState} (mem : .worked e t act before after ∈ ds) :
    ds.deliveries = [] := by
  cases step with
  | rest => rfl
  | emit x => cases List.mem_singleton.1 mem
  | @settle _ _ _ _ l o read =>
    rcases List.mem_cons.1 mem with first | later
    · cases first
    · cases settlement : (l.settle o).2 <;> rw [settlement] at later
      case redeliver => cases List.mem_singleton.1 later
      all_goals cases later
  | hop hop => cases hop <;> rfl
  | branch branch => cases branch; rfl
  | halt halt => cases halt <;> exact Tickets.deliveries_farewells
  | part k => exact Tickets.deliveries_farewells

theorem head_of_queued (step : Step s T ds T') {d : Delivery} {g : Tier} (mem : .queued d g ∈ ds)
    (coarser : g ≠ .raw) : ∃ rest, T.heads = {(d, .moving g)} + rest := by
  have silent : ∀ {ts : Tickets} {k : Ticket}, .queued d g ∉ ts.farewells k := fun said => by
    obtain ⟨o, -, shape⟩ := List.mem_map.1 said
    cases shape
  cases step with
  | rest => cases mem
  | emit x => cases List.mem_singleton.1 mem
  | @settle _ _ _ _ l o read =>
    rcases List.mem_cons.1 mem with first | later
    · cases first
    · cases settlement : (l.settle o).2 <;> rw [settlement] at later
      case redeliver => cases List.mem_singleton.1 later
      all_goals cases later
  | hop hop =>
    cases hop with
    | enter =>
      cases List.mem_singleton.1 mem
      exact absurd rfl coarser
    | hand =>
      cases List.mem_singleton.1 mem
      exact ⟨_, rfl⟩
    | fold => cases List.mem_singleton.1 mem
    | call => cases List.mem_singleton.1 mem
    | skip => cases mem
  | branch branch =>
    cases branch
    cases List.mem_singleton.1 mem
  | halt halt =>
    rcases List.mem_cons.1 mem with first | later
    · subst first
      cases halt
    · exact absurd later silent
  | part k => exact absurd mem silent

end Traffic.Step

/-- What was let through by a tier and failed entered the queue of the next tier. -/
theorem Ended.queued_of_looked {s : Settings} {start : Delivery} {m : Mark} {h : History}
    (ended : Ended s start (some m) h) {e : Delivery} {t g : Tier} {a : Aggregate} {v : Verdict}
    {before after : Option SeriesState} (mem : .worked e t (.looked a v) before after ∈ h)
    (next : t.next = some g) : ∃ d, .queued d g ∈ h := by
  -- The tier that failed has not looked at its window, and those beyond never got the sample.
  have far : t < m.tier := by
    cases ended with
    | halt course halt =>
      cases halt with
      | @fault t' _ _ _ _ _ _ _ _ =>
        rcases List.mem_append.1 mem with own | last
        · have here := History.mem_within.2 ⟨own, (rfl : Deed.tier? _ = some t)⟩
          rcases lt_trichotomy t t' with before | rfl | beyond
          · exact before
          · have none : ((History.within _ t).looks) = [] := course.sees.2
            have seen := History.mem_looks.2 ⟨_, _, _, _, here⟩
            rw [none] at seen
            cases seen
          · rw [course.ahead beyond] at here
            cases here
        · cases List.mem_singleton.1 last
  have queues : h.queues = m.tier.upTo := by
    have fate := ended.fate
    generalize outcome : start.ticket.outcome (some m) = o at fate
    cases fate with
    | refused => cases outcome
    | kept => cases outcome
    | broke _ _ queues =>
      cases outcome
      exact queues
  refine History.mem_queues.1 (queues ▸ Tier.mem_upTo.2 ?_)
  have step := Tier.index_next next
  have below : t.index < m.tier.index := far
  show g.index ≤ m.tier.index
  omega

/-! ### Along a run -/

section Along

variable {σ : Type} {s : Settings} {c : Collaborator σ} {h : History} {p q : Plant σ}

/-- Every lane is paced at every point of a run. -/
theorem Run.paced (run : Run s c h p) (fits : h.Fits) (t : Tier) (x : Series) :
    Paced t (h.lane t x).emissions (p.stateAt s t x) := by
  refine Run.by_turns_of (P := fun h p => Paced t (h.lane t x).emissions (p.stateAt s t x))
    (fun fits => (History.fits_append.1 fits).1) ?_ ?_ run fits
  · intro sinks board now p start
    rw [Plant.stateAt, Plant.lane_of_launch start]
    rfl
  · intro h p ds q run fits turn paced
    have now := (History.fits_append.1 fits).2.lane t x
    rw [History.lane_append, History.emissions_append]
    exact paced.step now (turn.lane run.sound.orderly t x)

/-- A sample that moves on because it has to: its unit moved on from there before, when the window had
passed, and the window starts no earlier than the sample by now. -/
def History.Forced (h : History) (d : Delivery) (t : Tier) (a : Aggregate)
    (before after : Option SeriesState) : Prop :=
  h.ClosedBefore d t ∧ a.timestamp = d.sample.timestamp ∧
    ∃ st last, before = some st ∧ after = some st ∧ st.lastEmitted = some last ∧ a.timestamp ≤ last ∧
      a.timestamp - st.anchor < t.period

theorem Run.forced_turn (run : Run s c h p) (fits : h.Fits) {ds : History} (turn : Turn s c p ds q) {d : Delivery}
    {t : Tier} {a : Aggregate} {before after : Option SeriesState}
    (mem : .worked d t (.looked a .replayed) before after ∈ ds) : h.Forced d t a before after := by
  have orderly := run.sound.orderly
  have now := (run.sound.after turn).traffic
  obtain ⟨⟨made, old, new, known, left, rule⟩, start, issued, like⟩ :=
    Traffic.Stands.worked now.stands (List.mem_append_right h mem)
  -- The delivery was handed out before this turn, so its warrant speaks of the history before it.
  have handed : start ∈ h.deliveries := by
    rw [History.deliveries_append, (turn.traffic orderly).deliveries_of_worked mem,
      List.append_nil] at issued
    exact issued
  have forced := rule.replays_of_replayed
  rw [like.replay] at forced
  obtain ⟨e, a', b, b', there, unit, earlier, series, timestamp⟩ :=
    (run.sound.traffic.accounts.warranted start handed).closed forced
  have closed : h.ClosedBefore d t := ⟨e, a', b, b', there, unit.trans (congrArg _ like.ticket.symm),
    like.ticket ▸ earlier, series.trans like.series.symm, timestamp.trans like.timestamp.symm⟩
  have state : before = p.stateAt s t d.sample.series :=
    (turn.lane orderly t d.sample.series).before_eq (History.mem_lane_worked.2 ⟨mem, rfl, rfl⟩)
  have paced := run.paced fits t d.sample.series
  rw [← state, known] at paced
  have emitted : a.timestamp ∈ (h.lane t d.sample.series).emissions := by
    have lane := History.mem_lane_worked.2 ⟨there, rfl, series.trans like.series.symm⟩
    refine List.mem_filterMap.2 ⟨_, lane, ?_⟩
    show some a'.timestamp = some a.timestamp
    rw [timestamp, made.2.2.1, like.timestamp]
  obtain ⟨last, window, le⟩ := paced.le_lastEmitted emitted
  have stays : new = old := by
    cases rule
    rfl
  refine ⟨closed, made.2.2.1, old, last, known, stays ▸ left, window, le, ?_⟩
  have positive := t.period_pos
  rw [SeriesState.anchor, window, Option.getD_some]
  omega

/-- Why a sample enters a coarser tier: the window of the tier before had passed for it. -/
def History.Due (h : History) (d : Delivery) (g : Tier) : Prop :=
  ∃ t e a st after, t.next = some g ∧ .worked e t (.looked a .closed) (some st) after ∈ h ∧
    e.ticket = d.ticket ∧ a.timestamp = d.sample.timestamp ∧ t.period ≤ a.timestamp - st.anchor

/-- Where an earlier delivery of a unit moved on, the unit has been in the next queue: the delivery
failed, and no tier before the next one can have failed it. -/
theorem Traffic.Sound.queued_before {T : Traffic} (sound : T.Sound s h) {d : Delivery}
    (issued : d ∈ h.deliveries) {t g : Tier} (next : t.next = some g) (closed : h.ClosedBefore d t) :
    ∃ e, .queued e g ∈ h ∧ e.ticket.unitId = d.ticket.unitId := by
  obtain ⟨e, a, before, after, there, unit, earlier, -, -⟩ := closed
  obtain ⟨-, start, handed, like⟩ := Traffic.Stands.worked sound.stands there
  have begun := (sound.accounts.warranted start handed).attempt
  rw [← like.ticket] at begun
  obtain ⟨f, -, ticket, -, r, reason, target, failed, -, -⟩ :=
    (sound.accounts.warranted d issued).earlier e.ticket.attempt begun earlier
  have same : f.ticket = e.ticket := by rw [ticket, ← unit]
  rw [same] at failed
  obtain ⟨d', -, mark, h', ticket', ended, outcome, here⟩ := sound.ended_of_sent failed
  cases mark with
  | none => cases outcome
  | some m =>
    have inside : .worked e t (.looked a .closed) before after ∈ h' := by
      have own := History.mem_of.2 ⟨there, (rfl : Deed.ticket? _ = some e.ticket)⟩
      rw [here] at own
      rcases List.mem_append.1 own with inner | last
      · exact inner
      · cases List.mem_singleton.1 last
    obtain ⟨o, queued⟩ := ended.queued_of_looked inside next
    have about : o.ticket = d'.ticket := Option.some.inj (ended.ticket_of_mem queued)
    refine ⟨o, (History.mem_of.1 (here ▸ List.mem_append_left _ queued)).1, ?_⟩
    rw [about, ticket', unit]

theorem Run.due_turn (run : Run s c h p) (fits : h.Fits) {ds : History} (turn : Turn s c p ds q) {d : Delivery}
    {g : Tier} (mem : .queued d g ∈ ds) (coarser : g ≠ .raw)
    (first : ∀ {e}, .queued e g ∈ h → e.ticket.unitId ≠ d.ticket.unitId) : h.Due d g := by
  have sound := run.sound.traffic
  obtain ⟨rest, heads⟩ := (turn.traffic run.sound.orderly).head_of_queued mem coarser
  have standing := sound.stands d.ticket
  rw [Traffic.Stands, heads, Traffic.headsOf_add_self rfl] at standing
  obtain ⟨-, -, start, course, ticket⟩ := standing.live_of_head
  -- What stands before the tier was let through by the tier before.
  obtain ⟨t, next⟩ := Tier.exists_next_eq coarser
  obtain ⟨-, a, v, looks, moves⟩ := course.passed (Tier.lt_next next)
  obtain ⟨e, r, before, after, there⟩ := History.mem_looks.1 (looks ▸ List.mem_singleton_self (a, v))
  obtain ⟨own, tier⟩ := History.mem_within.1 there
  cases tier
  have like := course.like_of_mem own
  obtain ⟨made, old, new, rfl, -, rule⟩ := course.lawful_of_mem own
  have mine := (History.mem_of.1 own).1
  cases v with
  | kept => exact absurd rfl moves
  | closed =>
    refine ⟨t, e, a, old, after, next, mine, like.ticket.trans ticket, ?_, ?_⟩
    · rw [made.2.2.1, like.timestamp, course.like.timestamp]
    · cases rule with
      | closed _ _ due =>
        rw [fits.elapsed mine] at due
        exact due
  | replayed =>
    have forced := rule.replays_of_replayed
    rw [like.replay] at forced
    have issued : start ∈ h.deliveries := by
      have inside : start ∈ (h.of d.ticket).deliveries := by
        rw [course.deliveries_eq]
        exact List.mem_cons_self
      exact (History.mem_deliveries_of.1 inside).1
    obtain ⟨o, past, unit⟩ :=
      sound.queued_before issued next ((sound.accounts.warranted start issued).closed forced)
    exact absurd (unit.trans (congrArg _ ticket)) (first past)

theorem History.Forced.append {d : Delivery} {t : Tier} {a : Aggregate}
    {before after : Option SeriesState} (forced : h.Forced d t a before after) (more : History) :
    (h ++ more).Forced d t a before after := by
  obtain ⟨⟨e, a', b, b', there, rest⟩, window⟩ := forced
  exact ⟨⟨e, a', b, b', List.mem_append_left more there, rest⟩, window⟩

theorem History.Due.append {d : Delivery} {g : Tier} (due : h.Due d g) (more : History) :
    (h ++ more).Due d g := by
  obtain ⟨t, e, a, st, after, next, there, rest⟩ := due
  exact ⟨t, e, a, st, after, next, List.mem_append_left more there, rest⟩

theorem Run.forced (run : Run s c h p) (fits : h.Fits) {h₁ h₂ : History} {d : Delivery} {t : Tier} {a : Aggregate}
    {before after : Option SeriesState}
    (split : h = h₁ ++ .worked d t (.looked a .replayed) before after :: h₂) :
    h₁.Forced d t a before after := by
  refine Run.by_turns_of (P := fun h _ => ∀ h₁ h₂,
    h = h₁ ++ .worked d t (.looked a .replayed) before after :: h₂ → h₁.Forced d t a before after)
    (fun fits => (History.fits_append.1 fits).1) ?_ ?_ run fits h₁ h₂ split
  · intro _ _ _ _ _ h₁ h₂ none
    exact absurd none.symm (List.append_ne_nil_of_right_ne_nil h₁ (List.cons_ne_nil _ h₂))
  · intro h p ds q run fits turn ih h₁ h₂ split
    rcases History.append_eq_cases split with ⟨rest, old⟩ | ⟨pre, rfl, now⟩
    · exact ih h₁ rest old
    · exact (run.forced_turn (History.fits_append.1 fits).1 turn now).append pre

theorem Run.due (run : Run s c h p) (fits : h.Fits) {h₁ h₂ : History} {d : Delivery} {g : Tier}
    (split : h = h₁ ++ .queued d g :: h₂) (coarser : g ≠ .raw)
    (first : ∀ e, .queued e g ∈ h₁ → e.ticket.unitId ≠ d.ticket.unitId) : h₁.Due d g := by
  refine Run.by_turns_of (P := fun h _ => ∀ h₁ h₂, h = h₁ ++ .queued d g :: h₂ →
    (∀ e, .queued e g ∈ h₁ → e.ticket.unitId ≠ d.ticket.unitId) → h₁.Due d g)
    (fun fits => (History.fits_append.1 fits).1) ?_ ?_ run fits h₁ h₂ split first
  · intro _ _ _ _ _ h₁ h₂ none
    exact absurd none.symm (List.append_ne_nil_of_right_ne_nil h₁ (List.cons_ne_nil _ h₂))
  · intro h p ds q run fits turn ih h₁ h₂ split first
    rcases History.append_eq_cases split with ⟨rest, old⟩ | ⟨pre, rfl, now⟩
    · exact ih h₁ rest old first
    · have due := run.due_turn (History.fits_append.1 fits).1 turn now coarser fun past =>
        first _ (List.mem_append_left pre past)
      exact due.append pre

/-- **Ordering and spacing.** Let no difference by which a window was closed have wrapped around. At
every point of a run and for every series and tier, the samples that moved on because the window had
passed came in strictly increasing order, each a period after the one before and the first a period
after the series was opened. A sample that moved on because it had to is one whose unit had moved on
from there before, with the window by then no earlier than the sample, so that no closing of a window
was due. And a unit enters a coarser tier for the first time only because the window of the tier before
had passed. -/
theorem Run.spacing (run : Run s c h p) (fits : h.Fits) :
    (∀ t x, p.inspect s t x = .ok (p.stateAt s t x) ∧
      Paced t (h.lane t x).emissions (p.stateAt s t x) ∧
      (h.lane t x).emissions.Pairwise (· < ·)) ∧
    (∀ (h₁ : History) d t a before after h₂,
      h = h₁ ++ .worked d t (.looked a .replayed) before after :: h₂ →
      h₁.Forced d t a before after) ∧
    (∀ (h₁ : History) d g h₂, h = h₁ ++ .queued d g :: h₂ → g ≠ .raw →
      (∀ e, .queued e g ∈ h₁ → e.ticket.unitId ≠ d.ticket.unitId) → h₁.Due d g) := by
  refine ⟨fun t x => ?_, fun h₁ d t a before after h₂ split => run.forced fits split,
    fun h₁ d g h₂ split coarser first => run.due fits split coarser first⟩
  have paced := run.paced fits t x
  exact ⟨run.sound.orderly.inspect_eq t x, paced, paced.pairwise_lt⟩

end Along

/-- In the short run the unit that is delivered again is let through twice at the finest tier: the
first time because the window has passed, the second time because it has to be. -/
theorem spacing_trial :
    Trial.history.Fits ∧ (Trial.history.lane .raw (Trial.sample 0).series).emissions = [1000] ∧
      Paced .raw (Trial.history.lane .raw (Trial.sample 0).series).emissions
        (Trial.final.stateAt Trial.settings .raw (Trial.sample 0).series) ∧
      ∃ (h₁ : History) (d : Delivery) (t : Tier) (a : Aggregate) (before after : Option SeriesState)
        (h₂ : History), Trial.history = h₁ ++ .worked d t (.looked a .replayed) before after :: h₂ ∧
          h₁.Forced d t a before after := by
  have fits : Trial.history.Fits := by decide +kernel
  obtain ⟨lanes, forced, -⟩ := Run.spacing Trial.run fits
  refine ⟨fits, by decide +kernel, (lanes .raw (Trial.sample 0).series).2.1, ?_⟩
  have replayed : ∃ look ∈ Trial.history.looks, look.2 = .replayed := by decide +kernel
  obtain ⟨⟨a, v⟩, seen, rfl⟩ := replayed
  obtain ⟨d, t, before, after, mem⟩ := History.mem_looks.1 seen
  obtain ⟨h₁, h₂, split⟩ := List.append_of_mem mem
  exact ⟨h₁, d, t, a, before, after, h₂, split, forced h₁ d t a before after h₂ split⟩

end TierCascade
