import TierCascade.Proofs.Backpressure
import TierCascade.Proofs.Reports
/-!
# What a round reports

A worker that took a sample in goes on a round: it calls the store and then the notifier where they are due, and
reports how that went. It reports once, at the end, so of a round in which the notifier fails only that is
reported, even if the store had been called and worked (`Round.told`). Every step of a plant begins a round, takes
one further, ends one and reports it, or has nothing to do with rounds (`Plant.attends_of_step`).
-/

namespace TierCascade

/-- The calls that a worker makes for one sample, in order, and how they ended. -/
abbrev Round := List (Sink × Except SinkFault Unit)

namespace Round

def failed (call : Sink × Except SinkFault Unit) : Bool :=
  match call.2 with
  | .ok () => false
  | .error _ => true

/-- The calls that are reported: those that failed, and only if there are none, all of them. -/
def told (r : Round) : Round := if r.any failed then r.filter failed else r

def went (sink : Sink) (made : Bool) : Round := if made then [(sink, .ok ())] else []

def outcomes (sink : Sink) (calls : List (Sink × Except SinkFault Unit)) : List (Option SinkFault) :=
  calls.filterMap fun
    | (called, .ok ()) => if called = sink then some none else none
    | (called, .error fault) => if called = sink then some (some fault) else none

def LastFailed (sink : Sink) (calls : List (Sink × Except SinkFault Unit)) : Prop :=
  ∃ fault, (outcomes sink calls).getLast? = some (some fault)

/-- The rounds that can end: all is well, or the call made last has failed. -/
inductive Ended : Round → Prop where
  | well (stored notified : Bool) : Ended (went .store stored ++ went .notifier notified)
  | unstored (fault : SinkFault) : Ended [(.store, .error fault)]
  | unnotified (stored : Bool) (fault : SinkFault) : Ended (went .store stored ++ [(.notifier, .error fault)])

@[simp] theorem outcomes_append (sink : Sink) (calls calls' : List (Sink × Except SinkFault Unit)) :
    outcomes sink (calls ++ calls') = outcomes sink calls ++ outcomes sink calls' :=
  List.filterMap_append

theorem failed_went {sink : Sink} {made : Bool} {call : Sink × Except SinkFault Unit}
    (mem : call ∈ went sink made) : failed call = false := by
  cases made with
  | false => cases mem
  | true =>
    rw [List.mem_singleton.1 mem]
    rfl

theorem told_of_fault {r : Round} (well : ∀ call ∈ r, failed call = false) (sink : Sink) (fault : SinkFault) :
    (r ++ [(sink, .error fault)] : Round).told = [(sink, .error fault)] := by
  have none : List.filter failed r = [] :=
    List.filter_eq_nil_iff.2 fun call mem => Bool.eq_false_iff.1 (well call mem)
  rw [told, if_pos, List.filter_append, none]
  · rfl
  · exact List.any_eq_true.2 ⟨_, List.mem_append_right _ List.mem_cons_self, rfl⟩

theorem Ended.notifier {r : Round} (ended : r.Ended) : outcomes .notifier r.told = outcomes .notifier r := by
  cases ended with
  | well stored notified => cases stored <;> cases notified <;> rfl
  | unstored fault => rfl
  | unnotified stored fault => cases stored <;> rfl

/-- And those of the store, unless the notifier fails in the round. -/
theorem Ended.store {r : Round} (ended : r.Ended)
    (told : ∀ fault, r ≠ [(.store, .ok ()), (.notifier, .error fault)]) :
    outcomes .store r.told = outcomes .store r := by
  cases ended with
  | well stored notified => cases stored <;> cases notified <;> rfl
  | unstored fault => rfl
  | unnotified stored fault =>
    cases stored with
    | false => rfl
    | true => exact absurd rfl (told fault)

def calls (sink : Sink) (r : Round) : Bool := !(outcomes sink r).isEmpty

section

variable {rounds : List Round} (ended : ∀ r ∈ rounds, r.Ended)

include ended

theorem outcomes_notifier : outcomes .notifier (rounds.flatMap told) = outcomes .notifier rounds.flatten := by
  induction rounds with
  | nil => rfl
  | cons r rounds ih =>
    rw [List.flatMap_cons, List.flatten_cons, outcomes_append, outcomes_append,
      (ended r List.mem_cons_self).notifier, ih fun r mem => ended r (List.mem_cons_of_mem _ mem)]

theorem lastFailed_store (last : ∀ fault, (rounds.filter (calls .store)).getLast? ≠
    some [(.store, .ok ()), (.notifier, .error fault)]) :
    LastFailed .store (rounds.flatMap told) ↔ LastFailed .store rounds.flatten := by
  induction rounds using List.reverseRecOn with
  | nil => exact Iff.rfl
  | append_singleton rounds r ih =>
    have called : r.calls .store = true → ∀ fault, r ≠ [(.store, .ok ()), (.notifier, .error fault)] := by
      intro called fault
      rw [List.filter_append, List.filter_singleton, called] at last
      exact fun same => last fault (by simp [same])
    have whole : outcomes .store r.told = outcomes .store r := by
      refine (ended r (List.mem_append_right _ List.mem_cons_self)).store fun fault same => ?_
      exact called (by rw [same]; rfl) fault same
    rw [LastFailed, LastFailed, List.flatMap_append, List.flatten_append, List.flatMap_singleton,
      List.flatten_singleton, outcomes_append, outcomes_append, whole]
    cases calls : r.calls .store with
    | true =>
      have some : outcomes .store r ≠ [] := by
        intro none
        rw [Round.calls, none] at calls
        cases calls
      rw [List.getLast?_append_of_ne_nil _ some, List.getLast?_append_of_ne_nil _ some]
    | false =>
      have none : outcomes .store r = [] := by
        rw [Round.calls, Bool.not_eq_false'] at calls
        exact List.isEmpty_iff.1 calls
      rw [none, List.append_nil, List.append_nil]
      refine ih (fun r mem => ended r (List.mem_append_left _ mem)) fun fault => ?_
      have before := last fault
      rwa [List.filter_append, List.filter_singleton, calls, Bool.cond_false, List.append_nil] at before

end

end Round

namespace History

/-- Where rounds begin (`none`), and the calls made in them. -/
def marks (h : History) : List (Option (Sink × Except SinkFault Unit)) :=
  h.filterMap fun
    | .worked _ _ (.folded _) _ _ => some none
    | .worked _ _ (.called sink _ _ result) _ _ => some (some (sink, result))
    | _ => none

end History

/-- What a mark adds to some rounds: a round begins, or another call is made in the last one. -/
def Round.add (rounds : List Round) : Option (Sink × Except SinkFault Unit) → List Round
  | none => rounds ++ [[]]
  | some call => rounds.dropLast ++ [rounds.getLast?.getD [] ++ [call]]

theorem Round.flatten_add (rounds : List Round) (mark : Option (Sink × Except SinkFault Unit)) :
    (add rounds mark).flatten = rounds.flatten ++ mark.toList := by
  cases mark with
  | none => simp [add]
  | some call =>
    cases rounds using List.reverseRecOn with
    | nil => rfl
    | append_singleton rounds round => simp [add]

namespace History

/-- The rounds of a history in which they follow one another. -/
def rounds (h : History) : List Round := h.marks.foldl Round.add []

variable (h ds : History)

@[simp] theorem marks_append : (h ++ ds).marks = h.marks ++ ds.marks := List.filterMap_append

theorem rounds_append : (h ++ ds).rounds = ds.marks.foldl Round.add h.rounds := by
  rw [rounds, marks_append, List.foldl_append, ← rounds]

theorem calls_eq_marks : h.calls = h.marks.filterMap id := by
  rw [calls, marks, List.filterMap_filterMap]
  refine List.filterMap_congr fun e _ => ?_
  cases e with
  | worked d t act before after => cases act <;> rfl
  | _ => rfl

/-- The rounds leave no call out. -/
theorem flatten_rounds : h.rounds.flatten = h.calls := by
  rw [calls_eq_marks, rounds]
  induction h.marks using List.reverseRecOn with
  | nil => rfl
  | append_singleton marks mark ih =>
    rw [List.foldl_append, List.foldl_cons, List.foldl_nil, Round.flatten_add, ih, List.filterMap_append]
    cases mark <;> rfl

end History

/-- Collaborators whose faults say whose they are. -/
def Collaborator.Honest {σ : Type} (c : Collaborator σ) : Prop :=
  ∀ sink a sinks fault, ((c sink a).start sinks).2.result = .error fault → fault.sink = sink

namespace CallBudget

variable {σ : Type} {b : CallBudget} {sink : Sink} {callee : Callee σ} {sinks sinks' : σ} {fault : SinkFault}

theorem sink_of_attempt (own : ∀ sinks fault, (callee.start sinks).2.result = .error fault → fault.sink = sink)
    (failed : b.attempt sink.label callee sinks = (sinks', .error fault)) : fault.sink = sink := by
  cases planned : callee.start sinks with
  | mk reached plan =>
    have judged : b.judge sink.label plan = .error fault := by
      simp only [attempt, planned] at failed
      cases judged : b.judge sink.label plan with
      | ok => simp [judged] at failed
      | error fault' =>
        simp only [judged, Prod.mk.injEq, Except.error.injEq] at failed
        rw [failed.2]
    rw [judge] at judged
    split at judged
    · exact own sinks fault (planned ▸ judged)
    · cases judged
      cases sink <;> rfl

theorem sink_of_attempts (own : ∀ sinks fault, (callee.start sinks).2.result = .error fault → fault.sink = sink)
    {left : Nat} (failed : b.attempts sink.label callee left sinks = (sinks', .error fault)) :
    fault.sink = sink := by
  induction left generalizing sinks with
  | zero => exact sink_of_attempt own failed
  | succ left ih =>
    rw [attempts] at failed
    cases first : b.attempt sink.label callee sinks with
    | mk reached result =>
      rw [first] at failed
      cases result with
      | ok => cases failed
      | error => exact ih failed

end CallBudget

def Receipt.round (r : Receipt) : Round := Round.went .store r.stored ++ Round.went .notifier r.notified

/-- What is reported of a round in which all went well. -/
def Receipt.reports (now : Int) (r : Receipt) : List (Int × Report) :=
  (if r.stored then [(now, .succeeded .store)] else []) ++ if r.notified then [(now, .succeeded .notifier)] else []

theorem Receipt.calls_reports (r : Receipt) (now : Int) (sink : Sink) :
    (Report.calls sink (r.reports now)).map (·.2) = Round.outcomes sink r.round.told := by
  obtain ⟨stored, notified⟩ := r
  cases stored <;> cases notified <;> cases sink <;> rfl

/-! ### What a step does to the rounds -/

/-- The round that a worker is on, with the calls it has made so far. -/
def Activity.rounds : Activity → Multiset Round
  | storing .. => {[]}
  | notifying _ _ stored => {Round.went .store stored}
  | closing _ _ receipt => {receipt.round}
  | idle | forwarding .. | parting _ | stopped => 0

/-- A worker that is about to make a call is on a round, and the call is the next one of it. -/
theorem Activity.rounds_of_calls? {act : Activity} {sink : Sink} {d : Delivery} {a : Aggregate}
    (calls : act.calls? = some (sink, d, a)) : ∃ round, act.rounds = {round} ∧
      (∀ made, (act.afterCall made).rounds = {round ++ Round.went sink made}) ∧
      (∀ call ∈ round, Round.failed call = false) ∧ ∀ fault, Round.Ended (round ++ [(sink, .error fault)]) := by
  cases act with
  | storing =>
    cases calls
    exact ⟨[], rfl, fun _ => rfl, nofun, fun fault => .unstored fault⟩
  | notifying d a stored =>
    cases calls
    exact ⟨_, rfl, fun _ => rfl, fun _ => Round.failed_went, fun fault => .unnotified stored fault⟩
  | _ => cases calls

namespace Plant

variable {σ : Type} {s : Settings} {c : Collaborator σ} {p q : Plant σ} {t : Tier} {i : Nat} {w : Worker}

def underway (p : Plant σ) : Multiset Round := p.total fun _ w => w.activity.rounds

/-- What a step does to the rounds, given the marks it leaves and what is reported. -/
inductive Tends (p q : Plant σ) : List (Option (Sink × Except SinkFault Unit)) → List (Int × Report) → Prop where
  | aside {rs : List (Int × Report)} (same : q.underway = p.underway)
      (silent : ∀ r ∈ rs, ∀ sink, r.2.call? sink = none) : Tends p q [] rs
  | begin (more : q.underway = {[]} + p.underway) : Tends p q [none] []
  | call {round : Round} {rest : Multiset Round} {sink : Sink} {made : Bool}
      (before : p.underway = {round} + rest) (after : q.underway = {round ++ Round.went sink made} + rest) :
      Tends p q ((Round.went sink made).map some) []
  | fail {round : Round} {rest : Multiset Round} {sink : Sink} {fault : SinkFault}
      (before : p.underway = {round} + rest) (after : q.underway = rest)
      (well : ∀ call ∈ round, Round.failed call = false) (ended : Round.Ended (round ++ [(sink, .error fault)]))
      (own : fault.sink = sink) :
      Tends p q [some (sink, .error fault)] [(p.now, .failed fault)]
  | close {receipt : Receipt} {rest : Multiset Round}
      (before : p.underway = {receipt.round} + rest) (after : q.underway = rest) :
      Tends p q [] (receipt.reports p.now)

theorem underway_swap (here : p.worker? t i = some w) {w' : Worker} (pools : q.pools = (p.setWorker t i w').pools) :
    ∃ rest, p.underway = w.activity.rounds + rest ∧ q.underway = w'.activity.rounds + rest := by
  obtain ⟨rest, before, after⟩ := p.exists_total_eq (fun _ w => w.activity.rounds) here
  refine ⟨rest, before, ?_⟩
  rw [← after w', underway, total, pools, total]

theorem underway_of_pools (pools : q.pools = p.pools) : q.underway = p.underway := by
  rw [underway, total, pools, underway, total]

theorem underway_of_swap (here : p.worker? t i = some w) {w' : Worker}
    (pools : q.pools = (p.setWorker t i w').pools) (same : w'.activity.rounds = w.activity.rounds) :
    q.underway = p.underway := by
  obtain ⟨rest, before, after⟩ := underway_swap here pools
  rw [after, before, same]

/-- What a step comes to for the rounds and for the desk. -/
def Attends (p : Plant σ) (ds : History) (q : Plant σ) : Prop :=
  ∃ rs, p.Tends q ds.marks rs ∧ q.desk = p.desk.hearAll rs

theorem attends_of_same {ds : History} (same : q.underway = p.underway) (none : ds.marks = [])
    (desk : q.desk = p.desk) : p.Attends ds q :=
  ⟨[], none ▸ .aside same nofun, desk⟩

theorem marks_farewells (ts : Tickets) (k : Ticket) : (ts.farewells k).marks = [] := by
  rw [Tickets.farewells]
  cases ts.farewell k <;> rfl

theorem marks_farewellsAll (ts : Tickets) (ds : List Delivery) : (ts.farewellsAll ds).marks = [] := by
  induction ds generalizing ts with
  | nil => rfl
  | cons d ds ih =>
    rw [Tickets.farewellsAll, History.marks_append, marks_farewells, ih]
    rfl

/-! #### Loop and shutdown -/

theorem attends_of_loop {a : Action} (loop : a.concernsWorkers = false) (move : p.step s c a = some q) :
    p.Attends (p.deeds s c a) q := by
  have step := loopStep_of_step loop move
  refine attends_of_same (underway_of_pools (loop_frame loop move).pools) ?_ ?_
  · generalize p.deeds s c a = ds at step
    cases step with
    | @settle _ _ st => cases st <;> rfl
    | drop => exact marks_farewells ..
    | interrupt => exact marks_farewellsAll ..
    | finish => exact marks_farewellsAll ..
    | _ => rfl
  · generalize p.deeds s c a = ds at step
    cases step with
    | settle _ settled =>
      obtain ⟨tickets, meter, journal, -, -, rfl⟩ := settle_eq_some settled
      rfl
    | _ => rfl

theorem attends_of_enter (wired : p.Wired s) (move : p.enter s = some q) : p.Attends (p.deeds s c .enter) q := by
  unfold enter at move
  cases waits : p.loop.submitting with
  | none => simp [waits] at move
  | some d =>
    simp only [waits, Option.bind_eq_bind, Option.bind_some, wired.target_eq, Option.pure_def] at move
    simp only [deeds, waits, wired.target_eq]
    cases found : p.behind (s.gateOf .raw) d.sample.series with
    | ok reached =>
      obtain ⟨j, taker⟩ := reached
      obtain ⟨there, -⟩ := worker?_of_behind found
      simp only [found] at move
      split at move <;> cases move
      exact attends_of_same (underway_of_swap there rfl rfl) rfl rfl
    | error f =>
      simp only [found, Option.some.injEq] at move
      subst move
      exact attends_of_same (underway_of_pools rfl) (marks_farewells ..) rfl

theorem attends_of_shutdown (move : p.shutdown s = some q) : p.Attends [] q := by
  cases shutdownStep_of_shutdown move with
  | tell stage here works room => exact attends_of_same (underway_of_swap here rfl rfl) rfl rfl
  | _ => exact attends_of_same (underway_of_pools rfl) rfl rfl

/-! #### Workers -/

section Work

variable {d : Delivery} {a : Aggregate} {sink : Sink} {sinks : σ}

theorem marks_callDeeds_of_ok {made : Bool} (issued : s.dispatch.issue c sink a p.sinks = (sinks, .ok made)) :
    (p.callDeeds s c t w d a sink).marks = (Round.went sink made).map some := by
  unfold Dispatch.issue at issued
  unfold callDeeds
  by_cases due : s.dispatch.due a sink = true
  · rw [if_pos due] at issued ⊢
    simp only [Settings.dispatch] at issued
    cases ended : (s.calls.call sink.label (c sink a) p.sinks).2 with
    | error fault =>
      rw [ended] at issued
      cases congrArg Prod.snd issued
    | ok =>
      rw [ended] at issued
      cases congrArg Prod.snd issued
      rfl
  · rw [if_neg due] at issued ⊢
    cases issued
    rfl

theorem marks_callDeeds_of_error (honest : c.Honest) {fault : SinkFault}
    (issued : s.dispatch.issue c sink a p.sinks = (sinks, .error fault)) :
    (p.callDeeds s c t w d a sink).marks = [some (sink, .error fault)] ∧ fault.sink = sink := by
  unfold Dispatch.issue at issued
  unfold callDeeds
  by_cases due : s.dispatch.due a sink = true
  · rw [if_pos due] at issued ⊢
    simp only [Settings.dispatch] at issued
    cases called : s.calls.call sink.label (c sink a) p.sinks with
    | mk reached result =>
      rw [called] at issued
      cases result with
      | ok => cases congrArg Prod.snd issued
      | error fault' =>
        obtain rfl : fault' = fault := Except.error.inj (congrArg Prod.snd issued)
        refine ⟨?_, CallBudget.sink_of_attempts (honest sink a) called⟩
        exact congrArg (some (sink, .error fault') :: ·) (marks_farewells ..)
  · rw [if_neg due] at issued
    cases congrArg Prod.snd issued

theorem attends_of_take {rest : List Command} (here : p.worker? t i = some w) (free : w.activity = .idle) :
    p.Attends (p.takeDeeds t w d) (p.take t i { w with queue := rest } d) := by
  unfold takeDeeds
  cases result : w.stage.process d.sample with
  | error f =>
    obtain ⟨m, j, taken⟩ := p.take_eq_of_error t i { w with queue := rest } d result
    rw [taken]
    exact attends_of_same (underway_of_swap here rfl rfl) (marks_farewells ..) rfl
  | ok made =>
    obtain ⟨a, stage⟩ := made
    obtain ⟨m, taken⟩ := p.take_eq_of_ok t i { w with queue := rest } d result
    have pools : (p.take t i { w with queue := rest } d).pools =
        (p.setWorker t i ⟨stage, rest, .storing d a, w.ahead⟩).pools := by rw [taken]
    obtain ⟨others, before, after⟩ := underway_swap here pools
    rw [free] at before
    refine ⟨[], .begin ?_, by rw [taken]; rfl⟩
    exact after.trans (congrArg ({[]} + ·) (before.trans (zero_add _)).symm)

theorem attends_of_call (here : p.worker? t i = some w) (calls : w.activity.calls? = some (sink, d, a)) {made : Bool}
    (issued : s.dispatch.issue c sink a p.sinks = (sinks, .ok made)) :
    p.Attends (p.callDeeds s c t w d a sink)
      ({ p with sinks }.setWorker t i { w with activity := w.activity.afterCall made }) := by
  obtain ⟨round, is, goes, -, -⟩ := Activity.rounds_of_calls? calls
  obtain ⟨rest, before, after⟩ := underway_swap here
    (q := { p with sinks }.setWorker t i { w with activity := w.activity.afterCall made }) rfl
  rw [is] at before
  rw [goes made] at after
  exact ⟨[], marks_callDeeds_of_ok issued ▸ .call before after, rfl⟩

theorem attends_of_fault (honest : c.Honest) (here : p.worker? t i = some w)
    (calls : w.activity.calls? = some (sink, d, a)) {fault : SinkFault}
    (issued : s.dispatch.issue c sink a p.sinks = (sinks, .error fault)) :
    p.Attends (p.callDeeds s c t w d a sink) ({ p with sinks }.fail t i w d a fault) := by
  obtain ⟨round, is, -, well, ends⟩ := Activity.rounds_of_calls? calls
  have pools : ({ p with sinks }.fail t i w d a fault).pools =
      (p.setWorker t i { w with activity := .idle }).pools := rfl
  obtain ⟨rest, before, after⟩ := underway_swap here pools
  obtain ⟨marks, own⟩ := marks_callDeeds_of_error (t := t) (w := w) (d := d) honest issued
  rw [is] at before
  exact ⟨[(p.now, .failed fault)], marks ▸ .fail before (after.trans (zero_add _)) well (ends fault) own, rfl⟩

theorem attends_of_close (here : p.worker? t i = some w) {receipt : Receipt}
    (looks : w.activity = .closing d a receipt) : p.Attends (p.closeDeeds t w d a) (p.close t i w d a receipt) := by
  have marks : (p.closeDeeds t w d a).marks = [] := by
    unfold closeDeeds
    simp only
    split
    · rfl
    · exact marks_farewells ..
  have desk : (p.close t i w d a receipt).desk = p.desk.hearAll (receipt.reports p.now) := by
    have heard : (p.reportSuccess receipt).desk = p.desk.hearAll (receipt.reports p.now) := by
      obtain ⟨stored, notified⟩ := receipt
      cases stored <;> cases notified <;> rfl
    rw [← heard]
    unfold close
    simp only
    split <;> rfl
  -- Whether the sample moves on or not, the round is over.
  have leaves : ∃ w', (p.close t i w d a receipt).pools = (p.setWorker t i w').pools ∧
      w'.activity.rounds = 0 := by
    unfold close
    simp only
    split <;> exact ⟨_, rfl, rfl⟩
  obtain ⟨w', pools, none⟩ := leaves
  obtain ⟨rest, before, after⟩ := underway_swap here pools
  rw [looks] at before
  rw [none, zero_add] at after
  exact ⟨_, marks ▸ .close before after, desk⟩

theorem attends_of_forward (wired : p.Wired s) {onward : Delivery} {gate : Gate} (here : p.worker? t i = some w)
    (hands : w.activity = .forwarding d onward gate) (move : p.forward s t i w d onward gate = some q) :
    p.Attends (p.forwardDeeds s w d onward gate) q := by
  unfold forward at move
  unfold forwardDeeds
  cases found : p.behind gate onward.sample.series with
  | ok reached =>
    obtain ⟨j, taker⟩ := reached
    obtain ⟨there, -⟩ := worker?_of_behind found
    simp only [found] at move
    split at move <;> cases move
    rename_i room
    obtain ⟨g, next, rfl⟩ := Option.map_eq_some_iff.1 ((wired.wired here).onward hands)
    have still : (p.setWorker g j (taker.push (.process onward))).worker? t i = some w := by
      rw [worker?_setWorker_of_ne p _ (.inl (ne_of_lt (Tier.lt_next next))), here]
    have given : (p.setWorker g j (taker.push (.process onward))).underway = p.underway :=
      underway_of_swap there rfl rfl
    simp only [if_pos room]
    refine attends_of_same ((underway_of_swap still rfl ?_).trans given) rfl rfl
    rw [hands]
    rfl
  | error f =>
    simp only [found] at move
    split at move <;> cases move
    · -- The worker breaks down. That is reported, but it is about no collaborator.
      refine ⟨[(p.now, .stopped t i _)], ?_, rfl⟩
      simp only [marks_farewellsAll]
      refine .aside (underway_of_swap here rfl (by rw [hands]; rfl)) fun r mem about => ?_
      rw [List.mem_singleton.1 mem]
      rfl
    · refine attends_of_same (underway_of_swap here rfl (by rw [hands]; rfl)) ?_ rfl
      simp only
      exact marks_farewellsAll ..

theorem attends_of_work (honest : c.Honest) (wired : p.Wired s) (move : p.work s c t i = some q) :
    p.Attends (p.workDeeds s c t i) q := by
  unfold Plant.work at move
  cases here : p.worker? t i with
  | none => simp [here] at move
  | some w =>
    simp only [here, Option.bind_eq_bind, Option.bind_some] at move
    simp only [workDeeds, here]
    obtain ⟨stage, queue, act, ahead⟩ := w
    cases act with
    | stopped => cases move
    | idle =>
      cases queue with
      | nil => cases move
      | cons cmd rest =>
        cases cmd with
        | process d =>
          cases move
          exact attends_of_take here rfl
        | halt =>
          cases move
          exact attends_of_same (underway_of_swap here rfl rfl) (marks_farewellsAll ..) rfl
    | storing d a =>
      cases issued : s.dispatch.issue c .store a p.sinks with
      | mk sinks result =>
        simp only [issued] at move
        cases result with
        | ok stored =>
          cases move
          exact attends_of_call here rfl issued
        | error fault =>
          cases move
          exact attends_of_fault honest here rfl issued
    | notifying d a stored =>
      cases issued : s.dispatch.issue c .notifier a p.sinks with
      | mk sinks result =>
        simp only [issued] at move
        cases result with
        | ok notified =>
          cases move
          exact attends_of_call here rfl issued
        | error fault =>
          cases move
          exact attends_of_fault honest here rfl issued
    | closing d a receipt =>
      cases move
      exact attends_of_close here rfl
    | forwarding d onward gate => exact attends_of_forward wired here rfl move
    | parting d =>
      cases move
      exact attends_of_same (underway_of_swap here rfl rfl) (marks_farewells ..) rfl

end Work

/-- **What every step comes to**, whether something disturbs the plant or not. -/
theorem attends_of_step (honest : c.Honest) (wired : p.Wired s) {a : Action} (move : p.step s c a = some q) :
    p.Attends (p.deeds s c a) q := by
  cases workers : a.concernsWorkers with
  | false => exact attends_of_loop workers move
  | true =>
    cases a with
    | work t i => exact attends_of_work honest wired move
    | enter => exact attends_of_enter wired move
    | shutdown =>
      rw [Plant.step] at move
      split at move
      · cases move
      · exact attends_of_shutdown move
    | _ => cases workers

end Plant

end TierCascade
