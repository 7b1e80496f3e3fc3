import TierCascade.Proofs.History
/-!
# The course of a delivery

At any time the samples made of one delivery are in one place (`Spot`): outside, in a queue, in the
hands of a worker, or between two tiers. `Course` is the grammar of what can have happened to the
delivery until then, and `Ended` that of a delivery that came to its end. The rest of the module
reads off what a course says about each tier: the tiers that were passed took the sample in once,
made every call that was due, and let it through; the tiers ahead have not seen it.
-/

namespace TierCascade

/-- Where a sample of a delivery stands. -/
inductive Spot where
  | outside
  | queued (t : Tier)
  | serving (t : Tier) (a : Aggregate) (sink : Sink)
  | closing (t : Tier) (a : Aggregate)
  | moving (g : Tier)

/-- The collaborators that are called before a collaborator. -/
def Sink.before : Sink → List Sink
  | store => []
  | notifier => [store]

def Sink.all : List Sink := [.store, .notifier]

/-- Where a sample stands after a call that went well or was not due. -/
def Spot.afterCall (t : Tier) (a : Aggregate) : Sink → Spot
  | .store => .serving t a .notifier
  | .notifier => .closing t a

def Spot.tier : Spot → Tier
  | outside => .raw
  | queued t | serving t .. | closing t _ => t
  | moving g => g

def Spot.taken : Spot → List Tier
  | outside => []
  | queued t | moving t => t.below
  | serving t .. | closing t _ => t.upTo

def Spot.entered : Spot → List Tier
  | outside => []
  | moving g => g.below
  | queued t | serving t .. | closing t _ => t.upTo

/-- The window of a series stays where it is, if it was opened before, and with it its anchor. -/
def Unmoved : Option SeriesState → Option SeriesState → Prop
  | some old, some new => new.openedAt = old.openedAt ∧ new.lastEmitted = old.lastEmitted
  | none, some new => new.lastEmitted = none
  | none, none => True
  | some _, none => False

theorem Unmoved.refl : (st : Option SeriesState) → Unmoved st st
  | some _ => ⟨rfl, rfl⟩
  | none => trivial

/-- What each deed of a worker means for the sample and for the state of its series. -/
def Deed.Lawful : Deed → Prop
  | worked d _ (.rejected f) before after =>
    d.sample.value.isFinite = false ∧ f.failsUnit = false ∧ after = before
  | worked d t (.folded a) before after =>
    d.sample.value.isFinite = true ∧ a.Of d.sample ∧ a.tier = t ∧ Unmoved before after ∧
      after.isSome = true
  | worked d _ (.called _ a _ _) before after =>
    a.Of d.sample ∧ after = before ∧ before.isSome = true
  | worked d t (.looked a v) before after =>
    a.Of d.sample ∧ ∃ old new, before = some old ∧ after = some new ∧ Window t d.replay a old v new
  | issued _ | queued .. | sent .. | settled .. => True

/-- What happens to a sample while it stays the same sample. -/
inductive Hop (s : Settings) (d : Delivery) : Spot → History → Spot → Prop where
  | enter : Hop s d .outside [.queued d .raw] (.queued .raw)
  | hand {g : Tier} : Hop s d (.moving g) [.queued d g] (.queued g)
  | fold {t : Tier} {a : Aggregate} {before after : Option SeriesState}
      (lawful : (Deed.worked d t (.folded a) before after).Lawful) :
      Hop s d (.queued t) [.worked d t (.folded a) before after] (.serving t a .store)
  | call {t : Tier} {a : Aggregate} {sink : Sink} {tries : Nat} {before after : Option SeriesState}
      (due : s.dispatch.due a sink = true)
      (lawful : (Deed.worked d t (.called sink a tries (.ok ())) before after).Lawful) :
      Hop s d (.serving t a sink) [.worked d t (.called sink a tries (.ok ())) before after]
        (.afterCall t a sink)
  | skip {t : Tier} {a : Aggregate} {sink : Sink} (due : s.dispatch.due a sink = false) :
      Hop s d (.serving t a sink) [] (.afterCall t a sink)

/-- A sample moves on: another sample of the delivery stands before the next tier. -/
inductive Branch (d : Delivery) : Spot → Deed → Delivery → Tier → Prop where
  | move {t g : Tier} {a : Aggregate} {v : Verdict} {before after : Option SeriesState}
      (lawful : (Deed.worked d t (.looked a v) before after).Lawful) (moves : v ≠ .kept)
      (next : t.next = some g) :
      Branch d (.closing t a) (.worked d t (.looked a v) before after)
        ⟨d.ticket, a.toSample, d.replay⟩ g

/-- A sample goes no farther; the mark says what went wrong. -/
inductive Halt (s : Settings) (d : Delivery) : Spot → Deed → Option Mark → Prop where
  | refuse {t : Tier} {f : Failure} {before after : Option SeriesState}
      (lawful : (Deed.worked d t (.rejected f) before after).Lawful) :
      Halt s d (.queued t) (.worked d t (.rejected f) before after) none
  | keep {t : Tier} {a : Aggregate} {before after : Option SeriesState}
      (lawful : (Deed.worked d t (.looked a .kept) before after).Lawful) :
      Halt s d (.closing t a) (.worked d t (.looked a .kept) before after) none
  | fault {t : Tier} {a : Aggregate} {sink : Sink} {tries : Nat} {fault : SinkFault}
      {before after : Option SeriesState} (due : s.dispatch.due a sink = true)
      (lawful : (Deed.worked d t (.called sink a tries (.error fault)) before after).Lawful) :
      Halt s d (.serving t a sink) (.worked d t (.called sink a tries (.error fault)) before after)
        (some ⟨t, fault.message⟩)

/-- What can have happened to a delivery, from when it was handed out until a sample of it stands at
a spot. -/
inductive Course (s : Settings) (start : Delivery) : Delivery → Spot → History → Prop where
  | issued : Course s start start .outside [.issued start]
  | hop {d : Delivery} {spot spot' : Spot} {h ds : History} (course : Course s start d spot h)
      (hop : Hop s d spot ds spot') : Course s start d spot' (h ++ ds)
  | branch {d onward : Delivery} {spot : Spot} {g : Tier} {h : History} {e : Deed}
      (course : Course s start d spot h) (branch : Branch d spot e onward g) :
      Course s start onward (.moving g) (h ++ [e])

/-- What can have happened to a delivery that came to its end. -/
inductive Ended (s : Settings) (start : Delivery) : Option Mark → History → Prop where
  | halt {d : Delivery} {spot : Spot} {h : History} {e : Deed} {mark : Option Mark}
      (course : Course s start d spot h) (halt : Halt s d spot e mark) :
      Ended s start mark (h ++ [e])

/-! ### What a tier did -/

/-- The calls that are due for an aggregate, all of which went well. -/
def Dispatch.goodCalls (d : Dispatch) (a : Aggregate) (sinks : List Sink) :
    List (Sink × Except SinkFault Unit) :=
  (sinks.filter (d.due a)).map fun sink => (sink, .ok ())

/-- A tier took a sample in once and made an aggregate of it, and has called some collaborators
since. -/
structure History.Serving (s : Settings) (a : Aggregate) (sinks : List Sink) (h : History) : Prop where
  aggregates : h.aggregates = [a]
  calls : h.calls = s.dispatch.goodCalls a sinks

/-- A tier took in the sample of a delivery once, and every call that was due for the aggregate was
made and went well. -/
def History.Served (s : Settings) (start : Delivery) (h : History) (t : Tier) : Prop :=
  ∃ a, a.Of start.sample ∧ a.tier = t ∧ (h.within t).Serving s a Sink.all

/-- A tier that was served let the sample through. -/
def History.Passed (s : Settings) (start : Delivery) (h : History) (t : Tier) : Prop :=
  h.Served s start t ∧ ∃ a v, (h.within t).looks = [(a, v)] ∧ v ≠ .kept

/-- A tier took in the sample of a delivery once, a call that was due failed, and the calls before it
went well. -/
def History.Broken (s : Settings) (start : Delivery) (h : History) (m : Mark) : Prop :=
  (h.within m.tier).looks = [] ∧ ∃ a sink fault, a.Of start.sample ∧ a.tier = m.tier ∧
    s.dispatch.due a sink = true ∧ fault.message = m.reason ∧ (h.within m.tier).aggregates = [a] ∧
    (h.within m.tier).calls = s.dispatch.goodCalls a sink.before ++ [(sink, .error fault)]

/-- A delivery is like another one but for the label of its sample. -/
structure Delivery.Like (d start : Delivery) : Prop where
  ticket : d.ticket = start.ticket
  replay : d.replay = start.replay
  series : d.sample.series = start.sample.series
  kind : d.sample.kind = start.sample.kind
  timestamp : d.sample.timestamp = start.sample.timestamp
  value : d.sample.value = start.sample.value

/-! ### Reading a course -/

namespace History

variable (d : Delivery) (t g : Tier) (act : Act) (before after : Option SeriesState)

@[simp] theorem within_worked_self :
    within [.worked d t act before after] t = [.worked d t act before after] := by
  simp [within, Deed.tier?]

variable {t g} in
theorem within_worked_of_ne (h : t ≠ g) : within [.worked d t act before after] g = [] := by
  simp [within, Deed.tier?, h]

@[simp] theorem within_queued : within [.queued d t] g = [] := rfl

end History

namespace Dispatch

variable (d : Dispatch) {a : Aggregate} {sink : Sink}

theorem goodCalls_due (h : d.due a sink = true) :
    d.goodCalls a (sink.before ++ [sink]) = d.goodCalls a sink.before ++ [(sink, .ok ())] := by
  simp [goodCalls, h]

theorem goodCalls_not_due (h : d.due a sink = false) :
    d.goodCalls a (sink.before ++ [sink]) = d.goodCalls a sink.before := by
  simp [goodCalls, h]

end Dispatch

/-- What the tier at which a sample stands has done with it. -/
def Spot.Sees (s : Settings) : Spot → History → Prop
  | outside, h | queued _, h | moving _, h => h = []
  | serving _ a sink, h => h.Serving s a sink.before ∧ h.looks = []
  | closing _ a, h => h.Serving s a Sink.all ∧ h.looks = []

def Spot.made? : Spot → Option Aggregate
  | serving _ a _ | closing _ a => some a
  | outside | queued _ | moving _ => none

@[simp] theorem Spot.tier_afterCall (t : Tier) (a : Aggregate) (sink : Sink) :
    (Spot.afterCall t a sink).tier = t := by
  cases sink <;> rfl

@[simp] theorem Spot.taken_afterCall (t : Tier) (a : Aggregate) (sink : Sink) :
    (Spot.afterCall t a sink).taken = t.upTo := by
  cases sink <;> rfl

@[simp] theorem Spot.entered_afterCall (t : Tier) (a : Aggregate) (sink : Sink) :
    (Spot.afterCall t a sink).entered = t.upTo := by
  cases sink <;> rfl

@[simp] theorem Spot.made?_afterCall (t : Tier) (a : Aggregate) (sink : Sink) :
    (Spot.afterCall t a sink).made? = some a := by
  cases sink <;> rfl

theorem Spot.sees_afterCall {s : Settings} {t : Tier} {a : Aggregate} {sink : Sink} {h : History}
    (served : h.Serving s a (sink.before ++ [sink])) (looks : h.looks = []) :
    (Spot.afterCall t a sink).Sees s h := by
  cases sink <;> exact ⟨served, looks⟩

theorem Aggregate.Of.like {a : Aggregate} {d start : Delivery} (made : a.Of d.sample)
    (like : d.Like start) : Delivery.Like ⟨d.ticket, a.toSample, d.replay⟩ start where
  ticket := like.ticket
  replay := like.replay
  series := made.1.trans like.series
  kind := made.2.1.trans like.kind
  timestamp := made.2.2.1.trans like.timestamp
  value := made.2.2.2.trans like.value

theorem Aggregate.Of.of_like {a : Aggregate} {d start : Delivery} (made : a.Of d.sample)
    (like : d.Like start) : a.Of start.sample :=
  ⟨made.1.trans like.series, made.2.1.trans like.kind, made.2.2.1.trans like.timestamp,
    made.2.2.2.trans like.value⟩

/-! ### One hop -/

namespace Hop

variable {s : Settings} {d : Delivery} {spot spot' : Spot} {ds : History}

theorem tier_eq (hop : Hop s d spot ds spot') : spot'.tier = spot.tier := by
  cases hop with
  | call => exact Spot.tier_afterCall ..
  | skip => exact Spot.tier_afterCall ..
  | _ => rfl

theorem ticket_of_mem (hop : Hop s d spot ds spot') {e : Deed} (mem : e ∈ ds) :
    e.ticket? = some d.ticket := by
  cases hop with
  | skip => cases mem
  | _ => rw [List.mem_singleton.1 mem]; rfl

theorem lawful_of_mem (hop : Hop s d spot ds spot') {e : Deed} (mem : e ∈ ds) : e.Lawful := by
  cases hop with
  | skip => cases mem
  | enter => rw [List.mem_singleton.1 mem]; trivial
  | hand => rw [List.mem_singleton.1 mem]; trivial
  | fold lawful => rw [List.mem_singleton.1 mem]; exact lawful
  | call due lawful => rw [List.mem_singleton.1 mem]; exact lawful

theorem within_eq_nil (hop : Hop s d spot ds spot') {g : Tier} (other : spot.tier ≠ g) :
    ds.within g = [] := by
  cases hop with
  | fold => exact History.within_worked_of_ne _ _ _ _ other
  | call => exact History.within_worked_of_ne _ _ _ _ other
  | _ => rfl

theorem sees (hop : Hop s d spot ds spot') {h : History} (before : spot.Sees s h) :
    spot'.Sees s (h ++ ds.within spot.tier) := by
  cases hop with
  | enter =>
    simp only [Spot.Sees] at before ⊢
    simp [before]
  | hand =>
    simp only [Spot.Sees] at before ⊢
    simp [before]
  | @fold t a _ _ lawful =>
    simp only [Spot.Sees] at before
    subst before
    simp only [Spot.tier, List.nil_append, History.within_worked_self]
    exact ⟨⟨rfl, rfl⟩, rfl⟩
  | @call t a sink _ _ _ due _ =>
    obtain ⟨⟨aggregates, calls⟩, looks⟩ := before
    simp only [Spot.tier, History.within_worked_self]
    refine Spot.sees_afterCall ⟨?_, ?_⟩ ?_
    · rw [History.aggregates_append, aggregates]
      rfl
    · rw [Dispatch.goodCalls_due _ due, History.calls_append, calls]
      rfl
    · rw [History.looks_append, looks]
      rfl
  | @skip t a sink due =>
    obtain ⟨⟨aggregates, calls⟩, looks⟩ := before
    simp only [History.within, List.filter_nil, List.append_nil]
    refine Spot.sees_afterCall ⟨aggregates, ?_⟩ looks
    rw [Dispatch.goodCalls_not_due _ due, calls]

theorem made_of (hop : Hop s d spot ds spot')
    (before : ∀ {a}, spot.made? = some a → a.Of d.sample ∧ a.tier = spot.tier) {a : Aggregate}
    (made : spot'.made? = some a) : a.Of d.sample ∧ a.tier = spot'.tier := by
  cases hop with
  | enter => cases made
  | hand => cases made
  | fold lawful =>
    cases made
    exact ⟨lawful.2.1, lawful.2.2.1⟩
  | call =>
    rw [Spot.made?_afterCall] at made
    rw [Spot.tier_afterCall]
    exact before made
  | skip =>
    rw [Spot.made?_afterCall] at made
    rw [Spot.tier_afterCall]
    exact before made

theorem taken_eq (hop : Hop s d spot ds spot') : spot'.taken = spot.taken ++ ds.tiers := by
  cases hop with
  | enter => rfl
  | hand => exact (List.append_nil _).symm
  | fold => exact Tier.upTo_eq _
  | call => rw [Spot.taken_afterCall]; exact (List.append_nil _).symm
  | skip => rw [Spot.taken_afterCall]; exact (List.append_nil _).symm

theorem entered_eq (hop : Hop s d spot ds spot') : spot'.entered = spot.entered ++ ds.queues := by
  cases hop with
  | enter => rfl
  | hand => exact Tier.upTo_eq _
  | fold => exact (List.append_nil _).symm
  | call => rw [Spot.entered_afterCall]; exact (List.append_nil _).symm
  | skip => rw [Spot.entered_afterCall]; exact (List.append_nil _).symm

end Hop

/-! ### A whole course -/

namespace Course

variable {s : Settings} {start d : Delivery} {spot : Spot} {h : History}

theorem made_of (course : Course s start d spot h) {a : Aggregate} (made : spot.made? = some a) :
    a.Of d.sample ∧ a.tier = spot.tier := by
  induction course generalizing a with
  | issued => cases made
  | hop _ hop ih => exact hop.made_of ih made
  | branch => cases made

/-- What a course leads to is a sample like the one it started from. -/
theorem like (course : Course s start d spot h) : d.Like start := by
  induction course with
  | issued => exact ⟨rfl, rfl, rfl, rfl, rfl, rfl⟩
  | hop _ _ ih => exact ih
  | branch course branch ih =>
    cases branch
    exact (course.made_of rfl).1.like ih

theorem ticket_of_mem (course : Course s start d spot h) {e : Deed} (mem : e ∈ h) :
    e.ticket? = some start.ticket := by
  induction course with
  | issued =>
    rw [List.mem_singleton.1 mem]
    rfl
  | hop course hop ih =>
    rcases List.mem_append.1 mem with old | new
    · exact ih old
    · rw [hop.ticket_of_mem new, course.like.ticket]
  | branch course branch ih =>
    rcases List.mem_append.1 mem with old | new
    · exact ih old
    · cases branch
      rw [List.mem_singleton.1 new]
      exact congrArg some course.like.ticket

theorem lawful_of_mem (course : Course s start d spot h) {e : Deed} (mem : e ∈ h) : e.Lawful := by
  induction course with
  | issued =>
    rw [List.mem_singleton.1 mem]
    trivial
  | hop _ hop ih =>
    rcases List.mem_append.1 mem with old | new
    · exact ih old
    · exact hop.lawful_of_mem new
  | branch _ branch ih =>
    rcases List.mem_append.1 mem with old | new
    · exact ih old
    · cases branch with
      | move lawful =>
        rw [List.mem_singleton.1 new]
        exact lawful

theorem like_of_mem (course : Course s start d spot h) {e : Delivery} {t : Tier} {act : Act}
    {before after : Option SeriesState} (mem : .worked e t act before after ∈ h) : e.Like start := by
  induction course with
  | issued => cases List.mem_singleton.1 mem
  | hop course hop ih =>
    rcases List.mem_append.1 mem with old | new
    · exact ih old
    · cases hop with
      | skip => cases new
      | _ => cases List.mem_singleton.1 new <;> exact course.like
  | branch course branch ih =>
    rcases List.mem_append.1 mem with old | new
    · exact ih old
    · cases branch
      cases List.mem_singleton.1 new
      exact course.like

theorem outcomes_eq_nil (course : Course s start d spot h) : h.outcomes = [] := by
  induction course with
  | issued => rfl
  | hop _ hop ih =>
    rw [History.outcomes_append, ih]
    cases hop <;> rfl
  | branch _ branch ih =>
    rw [History.outcomes_append, ih]
    cases branch
    rfl

theorem deliveries_eq (course : Course s start d spot h) : h.deliveries = [start] := by
  induction course with
  | issued => rfl
  | hop _ hop ih =>
    rw [History.deliveries_append, ih]
    cases hop <;> rfl
  | branch _ branch ih =>
    rw [History.deliveries_append, ih]
    cases branch
    rfl

theorem tiers_eq (course : Course s start d spot h) : h.tiers = spot.taken := by
  induction course with
  | issued => rfl
  | hop _ hop ih => rw [History.tiers_append, ih, hop.taken_eq]
  | branch _ branch ih =>
    cases branch with
    | move _ _ next =>
      rw [History.tiers_append, ih]
      exact (List.append_nil _).trans (Tier.below_next next).symm

/-- The tiers whose queues were entered, each once and in order. -/
theorem queues_eq (course : Course s start d spot h) : h.queues = spot.entered := by
  induction course with
  | issued => rfl
  | hop _ hop ih => rw [History.queues_append, ih, hop.entered_eq]
  | branch _ branch ih =>
    cases branch with
    | move _ _ next =>
      rw [History.queues_append, ih]
      exact (List.append_nil _).trans (Tier.below_next next).symm

theorem ahead (course : Course s start d spot h) {g : Tier} (beyond : spot.tier < g) :
    h.within g = [] := by
  induction course with
  | issued => rfl
  | hop _ hop ih =>
    rw [hop.tier_eq] at beyond
    rw [History.within_append, ih beyond, hop.within_eq_nil (ne_of_lt beyond), List.append_nil]
  | branch _ branch ih =>
    cases branch with
    | move _ _ next =>
      have farther := lt_trans (Tier.lt_next next) beyond
      rw [History.within_append, ih farther, List.nil_append]
      exact History.within_worked_of_ne _ _ _ _ (ne_of_lt farther)

theorem sees (course : Course s start d spot h) : spot.Sees s (h.within spot.tier) := by
  induction course with
  | issued => rfl
  | hop _ hop ih =>
    rw [hop.tier_eq, History.within_append]
    exact hop.sees ih
  | @branch _ _ _ g _ _ course branch ih =>
    cases branch with
    | move _ _ next =>
      have farther := Tier.lt_next next
      show History.within _ g = []
      rw [History.within_append, course.ahead farther, List.nil_append]
      exact History.within_worked_of_ne _ _ _ _ (ne_of_lt farther)

/-- The tiers behind have let the sample through. -/
theorem passed (course : Course s start d spot h) {g : Tier} (behind : g < spot.tier) :
    h.Passed s start g := by
  induction course with
  | issued => exact absurd behind (not_lt.2 (Tier.raw_le g))
  | hop _ hop ih =>
    rw [hop.tier_eq] at behind
    rw [History.Passed, History.Served, History.within_append, hop.within_eq_nil (ne_of_gt behind),
      List.append_nil]
    exact ih behind
  | @branch d onward spot r h e course branch ih =>
    cases branch with
    | @move t r a v before after lawful moves next =>
      rw [History.Passed, History.Served, History.within_append]
      -- Either the tier lies farther behind, or it is the one that lets the sample through now.
      rcases lt_or_eq_of_le (Tier.le_of_lt_next next behind) with earlier | rfl
      · rw [History.within_worked_of_ne _ _ _ _ (ne_of_gt earlier), List.append_nil]
        exact ih earlier
      · have seen : (h.within g).Serving s a Sink.all ∧ (h.within g).looks = [] := course.sees
        obtain ⟨⟨aggregates, calls⟩, looks⟩ := seen
        obtain ⟨made, tier⟩ := course.made_of rfl
        rw [History.within_worked_self]
        refine ⟨⟨a, made.of_like course.like, tier, ?_, ?_⟩, a, v, ?_, moves⟩
        · rw [History.aggregates_append, aggregates]
          rfl
        · rw [History.calls_append, calls]
          exact List.append_nil _
        · rw [History.looks_append, looks]
          rfl

theorem finite_of_taken (course : Course s start d spot h) (taken : spot.taken ≠ []) :
    start.sample.value.isFinite = true := by
  induction course with
  | issued => exact absurd rfl taken
  | hop course hop ih =>
    cases hop with
    | enter => exact absurd rfl taken
    | hand => exact ih taken
    | fold lawful =>
      rw [← course.like.value]
      exact lawful.1
    | call => exact ih (by rwa [Spot.taken_afterCall] at taken)
    | skip => exact ih (by rwa [Spot.taken_afterCall] at taken)
  | branch _ branch ih =>
    cases branch with
    | move _ _ next =>
      refine ih fun none => taken ?_
      exact (Tier.below_next next).trans none

theorem unmoved_of_mem (course : Course s start d spot h) {t : Tier}
    (still : (h.within t).looks = []) {e : Delivery} {act : Act} {before after : Option SeriesState}
    (mem : .worked e t act before after ∈ h) : Unmoved before after := by
  have lawful := course.lawful_of_mem mem
  cases act with
  | rejected f =>
    rw [lawful.2.2]
    exact .refl _
  | folded a => exact lawful.2.2.2.1
  | called sink a tries result =>
    rw [lawful.2.1]
    exact .refl _
  | looked a v =>
    -- Only a look at the window can move it, and there was none.
    have here : Deed.worked e t (.looked a v) before after ∈ h.within t :=
      List.mem_filter.2 ⟨mem, by simp [Deed.tier?]⟩
    have seen : (a, v) ∈ (h.within t).looks := List.mem_filterMap.2 ⟨_, here, rfl⟩
    rw [still] at seen
    cases seen

end Course

/-! ### The end of a delivery -/

def Ticket.outcome (k : Ticket) : Option Mark → Outcome
  | some m => .failed k.unitId m.tier m.reason
  | none => .acked k.unitId

theorem Ticket.unitId_outcome (k : Ticket) (mark : Option Mark) : (k.outcome mark).unitId = k.unitId := by
  cases mark <;> rfl

/-- What the outcome of a delivery says about it: whether its sample is a number, which tiers took it
in, that they made all calls that were due, and what stopped it. -/
inductive Fate (s : Settings) (start : Delivery) (h : History) : Outcome → Prop where
  | refused (infinite : start.sample.value.isFinite = false) (tiers : h.tiers = []) :
      Fate s start h (.acked start.ticket.unitId)
  | kept {t : Tier} {a : Aggregate} (finite : start.sample.value.isFinite = true)
      (tiers : h.tiers = t.upTo) (queues : h.queues = t.upTo)
      (passed : ∀ g < t, h.Passed s start g) (served : h.Served s start t)
      (stays : (h.within t).looks = [(a, .kept)]) : Fate s start h (.acked start.ticket.unitId)
  | broke {t : Tier} {reason : String} (finite : start.sample.value.isFinite = true)
      (tiers : h.tiers = t.upTo) (queues : h.queues = t.upTo)
      (passed : ∀ g < t, h.Passed s start g) (broken : h.Broken s start ⟨t, reason⟩)
      (unmoved : ∀ {d act before after}, .worked d t act before after ∈ h → Unmoved before after) :
      Fate s start h (.failed start.ticket.unitId t reason)

namespace Ended

variable {s : Settings} {start : Delivery} {mark : Option Mark} {h : History}

theorem ticket_of_mem (ended : Ended s start mark h) {e : Deed} (mem : e ∈ h) :
    e.ticket? = some start.ticket := by
  cases ended with
  | halt course halt =>
    rcases List.mem_append.1 mem with old | new
    · exact course.ticket_of_mem old
    · rw [List.mem_singleton.1 new, ← course.like.ticket]
      cases halt <;> rfl

theorem lawful_of_mem (ended : Ended s start mark h) {e : Deed} (mem : e ∈ h) : e.Lawful := by
  cases ended with
  | halt course halt =>
    rcases List.mem_append.1 mem with old | new
    · exact course.lawful_of_mem old
    · rw [List.mem_singleton.1 new]
      cases halt with
      | refuse lawful => exact lawful
      | keep lawful => exact lawful
      | fault due lawful => exact lawful

theorem like_of_mem (ended : Ended s start mark h) {e : Delivery} {t : Tier} {act : Act}
    {before after : Option SeriesState} (mem : .worked e t act before after ∈ h) : e.Like start := by
  cases ended with
  | halt course halt =>
    rcases List.mem_append.1 mem with old | new
    · exact course.like_of_mem old
    · cases halt <;> cases List.mem_singleton.1 new <;> exact course.like

theorem outcomes_eq_nil (ended : Ended s start mark h) : h.outcomes = [] := by
  cases ended with
  | halt course halt =>
    rw [History.outcomes_append, course.outcomes_eq_nil]
    cases halt <;> rfl

theorem deliveries_eq (ended : Ended s start mark h) : h.deliveries = [start] := by
  cases ended with
  | halt course halt =>
    rw [History.deliveries_append, course.deliveries_eq]
    cases halt <;> rfl

theorem fate_of_refuse {d : Delivery} {t : Tier} {f : Failure} {before after : Option SeriesState}
    (course : Course s start d (.queued t) h)
    (lawful : (Deed.worked d t (.rejected f) before after).Lawful) :
    Fate s start (h ++ [.worked d t (.rejected f) before after]) (.acked start.ticket.unitId) := by
  have infinite : start.sample.value.isFinite = false := by
    rw [← course.like.value]
    exact lawful.1
  -- Had any tier before taken it in, it would be a number.
  have untaken : (Spot.queued t).taken = [] := by
    by_contra taken
    rw [course.finite_of_taken taken] at infinite
    cases infinite
  apply Fate.refused infinite
  rw [History.tiers_append, course.tiers_eq, untaken]
  rfl

theorem passed_concat {d : Delivery} {spot : Spot} (course : Course s start d spot h) (act : Act)
    (before after : Option SeriesState) {g : Tier} (finer : g < spot.tier) :
    History.Passed s start (h ++ [.worked d spot.tier act before after]) g := by
  rw [History.Passed, History.Served, History.within_append,
    History.within_worked_of_ne _ _ _ _ (ne_of_gt finer), List.append_nil]
  exact course.passed finer

theorem fate_of_keep {d : Delivery} {t : Tier} {a : Aggregate} (before after : Option SeriesState)
    (course : Course s start d (.closing t a) h) :
    Fate s start (h ++ [.worked d t (.looked a .kept) before after]) (.acked start.ticket.unitId) := by
  have seen : (h.within t).Serving s a Sink.all ∧ (h.within t).looks = [] := course.sees
  obtain ⟨⟨aggregates, calls⟩, looks⟩ := seen
  obtain ⟨made, tier⟩ := course.made_of rfl
  have taken : t.upTo ≠ [] := List.ne_nil_of_mem (Tier.mem_upTo.2 (le_refl t))
  refine .kept (t := t) (a := a) (course.finite_of_taken taken) ?_ ?_
    (fun g finer => passed_concat course _ before after finer)
    ⟨a, made.of_like course.like, tier, ?_, ?_⟩ ?_
  · rw [History.tiers_append, course.tiers_eq]
    exact List.append_nil _
  · rw [History.queues_append, course.queues_eq]
    exact List.append_nil _
  · rw [History.within_append, History.aggregates_append, aggregates, History.within_worked_self]
    rfl
  · rw [History.within_append, History.calls_append, calls, History.within_worked_self]
    exact List.append_nil _
  · rw [History.within_append, History.looks_append, looks, History.within_worked_self]
    rfl

theorem fate_of_fault {d : Delivery} {t : Tier} {a : Aggregate} {sink : Sink} {tries : Nat}
    {fault : SinkFault} {before after : Option SeriesState}
    (course : Course s start d (.serving t a sink) h) (due : s.dispatch.due a sink = true)
    (lawful : (Deed.worked d t (.called sink a tries (.error fault)) before after).Lawful) :
    Fate s start (h ++ [.worked d t (.called sink a tries (.error fault)) before after])
      (.failed start.ticket.unitId t fault.message) := by
  have seen : (h.within t).Serving s a sink.before ∧ (h.within t).looks = [] := course.sees
  obtain ⟨⟨aggregates, calls⟩, looks⟩ := seen
  obtain ⟨made, tier⟩ := course.made_of rfl
  have taken : t.upTo ≠ [] := List.ne_nil_of_mem (Tier.mem_upTo.2 (le_refl t))
  refine .broke (t := t) (course.finite_of_taken taken) ?_ ?_
    (fun g finer => passed_concat course _ before after finer)
    ⟨?_, a, sink, fault, made.of_like course.like, tier, due, rfl, ?_, ?_⟩ ?_
  · rw [History.tiers_append, course.tiers_eq]
    exact List.append_nil _
  · rw [History.queues_append, course.queues_eq]
    exact List.append_nil _
  · rw [History.within_append, History.looks_append, looks, History.within_worked_self]
    rfl
  · rw [History.within_append, History.aggregates_append, aggregates, History.within_worked_self]
    rfl
  · rw [History.within_append, History.calls_append, calls, History.within_worked_self]
    rfl
  · intro other act old new mem
    rcases List.mem_append.1 mem with before | now
    · exact course.unmoved_of_mem looks before
    · cases List.mem_singleton.1 now
      rw [lawful.2.1]
      exact .refl _

/-- A delivery comes to one of three ends. -/
theorem fate (ended : Ended s start mark h) : Fate s start h (start.ticket.outcome mark) := by
  cases ended with
  | halt course halt =>
    cases halt with
    | refuse lawful => exact fate_of_refuse course lawful
    | keep => exact fate_of_keep _ _ course
    | fault due lawful => exact fate_of_fault course due lawful

end Ended

end TierCascade
