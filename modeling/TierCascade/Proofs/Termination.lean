import TierCascade.Proofs.Progress
import TierCascade.Proofs.DeliveryCost
/-!
# Runs come to their end

Failed units are put back, so a run may go on long after its input is closed, but not forever. `Plant.toil`
adds up the attempts that are left, what waits in the loop, what the workers have before them, the tickets
that are held and the outcomes that nobody has read; every step lowers it unless a sample comes in or a
run begins (`Afloat.toil_lt`). And as long as a run with a closed input is not over, somebody can do
something (`Afloat.exists_step`). So a run that nobody interrupts drains.
-/

namespace TierCascade

theorem Settings.attempts_pos_of_check {s : Settings} (usable : s.check = .ok ()) :
    0 < s.redelivery.attempts := by
  refine Nat.pos_of_ne_zero fun none => ?_
  unfold check at usable
  cases tuned : s.tuning.check with
  | error fault => simp [tuned, bind, Except.bind] at usable
  | ok _ =>
    cases idle : s.idleTier? with
    | some t => simp [tuned, idle, bind, Except.bind, throw, throwThe, MonadExceptOf.throw] at usable
    | none =>
      simp only [tuned, idle, none, bind, Except.bind, throw, throwThe, MonadExceptOf.throw, if_true]
        at usable
      split at usable
      · cases usable
      · split at usable <;> cases usable

/-! ### Tickets and outcomes -/

namespace Tickets

variable (ts : Tickets) {ts' : Tickets}

/-- The tickets that are held and the outcomes that nobody has read. -/
def weight : Nat := ts.held.length + ts.outcomes.length

theorem weight_of_length (held : ts'.held.length = ts.held.length)
    (outcomes : ts'.outcomes = ts.outcomes) : ts'.weight = ts.weight := by
  rw [weight, held, outcomes, weight]

theorem weight_change (k : Ticket) (f : Held → Held) : (ts.change k f).weight = ts.weight :=
  ts.weight_of_length (by rw [change, List.length_map]) rfl

theorem weight_marked (k : Ticket) (mark : Option Mark) : (ts.marked k mark).weight = ts.weight := by
  cases mark with
  | none => rfl
  | some m => exact ts.weight_change k _

theorem weight_issue (k : Ticket) : (ts.issue k).weight = ts.weight + 1 := by
  rw [weight, weight, issue, List.length_cons]
  exact Nat.add_right_comm ..

theorem weight_release_le (k : Ticket) : (ts.release k).weight ≤ ts.weight := by
  unfold release
  cases found : ts.find? k with
  | none => exact le_refl _
  | some r =>
    by_cases last : r.holders ≤ 1
    · simp only [Held.release, if_pos last]
      have there : r ∈ ts.held := List.mem_of_find?_eq_some found
      have fewer : (ts.held.filter fun h => h.ticket != k).length < ts.held.length :=
        List.length_filter_lt_length_iff_exists.2 ⟨r, there, by simp [ticket_of_find? found]⟩
      simp only [weight, List.length_append, List.length_singleton]
      omega
    · simp only [Held.release, if_neg last]
      exact le_of_eq (ts.weight_change k _)

theorem weight_releaseAll_le (ds : List Delivery) : (ts.releaseAll ds).weight ≤ ts.weight := by
  induction ds generalizing ts with
  | nil => exact le_refl _
  | cons d ds ih => exact (ih (ts.release d.ticket)).trans (ts.weight_release_le d.ticket)

theorem weight_read {o : Outcome} (read : ts.read? = some (o, ts')) : ts.weight = ts'.weight + 1 := by
  have held : ts'.held = ts.held := by
    unfold read? at read
    split at read <;> cases read
    rfl
  rw [weight, weight, held, (read?_eq_some read).1, List.length_cons]
  rfl

end Tickets

theorem Traffic.Step.weight_le {s : Settings} {T T' : Traffic} {ds : History} (step : Step s T ds T')
    (silent : ds.dealings = []) : T'.tickets.weight ≤ T.tickets.weight := by
  cases step with
  | rest => exact le_refl _
  | emit x => cases silent
  | settle => cases silent
  | hop => exact le_refl _
  | branch => exact le_of_eq (Tickets.weight_change ..)
  | halt => exact (Tickets.weight_release_le ..).trans (le_of_eq (Tickets.weight_marked ..))
  | part k => exact Tickets.weight_release_le ..

/-! ### The measure -/

/-- The attempts that have not been made of the units that came in. -/
def Ledger.spare (l : Ledger) : Nat := l.emitted * max 1 l.budget.attempts - (l.emitted + l.redelivered)

/-- What the loop has before it. -/
def Loop.toil (l : Loop) : Nat :=
  39 * l.waiting.length + 38 * l.ready.length + 37 * l.submitting.toList.length + l.running.toNat
    + l.inputOpen.toNat

namespace Plant

variable {σ : Type} {s : Settings} {c : Collaborator σ} {h : History} {xs : List Sample} {p q : Plant σ}
  {a : Action}

/-- A bound on the steps that can still be taken until a sample comes in or a run begins. A delivery that
enters the cascade takes its workers no more than 36 steps; until then it waits, gets ready and is
submitted, each a step. -/
def toil (p : Plant σ) : Nat :=
  40 * p.ledger.spare + p.loop.toil + p.effort + p.tickets.weight

theorem effort_of_pools (pools : q.pools = p.pools) : q.effort = p.effort := by
  rw [effort, effort, total, total, pools]

theorem Afloat.attempts_le (afloat : p.Afloat s h xs) :
    p.ledger.emitted + p.ledger.redelivered ≤ p.ledger.emitted * max 1 p.ledger.budget.attempts := by
  obtain ⟨rs, -, ledger⟩ := afloat.traced.asked
  have books := Office.books s.redelivery .zero rs
  have length := Office.length_deliveries s.redelivery .zero rs
  have few := Office.deliveries_le s.redelivery .zero rs
  rw [length, ← books.emitted] at few
  have budget := books.budget
  rw [show (Office.after s.redelivery .zero rs).ledger = p.ledger from ledger] at few budget
  rw [budget]
  exact few

/-- Settling an outcome: what waits then stands for an attempt that was left. -/
theorem settle_toil {o : Outcome} {st : Settlement} (settled : p.settle = some (q, o, st))
    (bound : q.ledger.emitted + q.ledger.redelivered ≤ q.ledger.emitted * max 1 q.ledger.budget.attempts) :
    q.toil < p.toil := by
  obtain ⟨tickets, meter, journal, read, rfl, rfl⟩ := settle_eq_some settled
  have weight := p.tickets.weight_read read
  have settles := p.ledger.settles o
  simp only [toil, Loop.toil, effort, total, List.length_append, List.length_map] at bound ⊢
  generalize (p.ledger.settle o).1 = l at settles bound ⊢
  generalize (p.ledger.settle o).2 = st at settles ⊢
  cases settles with
  | again tracked left =>
    simp only [Ledger.spare, Settlement.waits, Settlement.reissue, Tickets.weight_issue,
      List.length_singleton] at bound ⊢
    omega
  | _ =>
    simp only [Ledger.spare, Settlement.waits, Settlement.reissue, List.length_nil] at bound ⊢
    omega

theorem leave_toil (p : Plant σ) (exit : Exit) (running : p.loop.running = true) :
    (p.leave exit).toil < p.toil := by
  have weight := p.tickets.weight_releaseAll_le p.loop.ready
  have effort : (p.leave exit).effort = p.effort := effort_of_pools rfl
  simp only [toil, effort]
  simp only [leave, Loop.toil, running, List.length_nil, Bool.toNat_false, Bool.toNat_true]
  omega

theorem enter_toil (o : p.Orderly s) (move : p.enter s = some q) : q.toil < p.toil := by
  unfold enter at move
  cases waits : p.loop.submitting with
  | none => simp [waits] at move
  | some d =>
    obtain ⟨taker, found, reached⟩ := o.target_eq .raw d.sample.series
    simp only [waits, reached, Option.bind_eq_bind, Option.bind_some, Option.pure_def] at move
    split at move <;> cases move
    obtain ⟨rest, before, after⟩ := p.exists_total_eq Worker.effort found
    have more := after (taker.push (.process d))
    rw [Worker.effort_push] at more
    have raw : Command.effort .raw (.process d) = 36 := rfl
    simp only [toil, Loop.toil, effort, waits, Option.toList_some, List.length_singleton, before]
    change _ + _ + (p.setWorker .raw (s.place .raw d.sample.series) (taker.push (.process d))).total
      Worker.effort + _ < _
    rw [more, raw]
    simp only [setWorker, Option.toList_none, List.length_nil]
    omega

/-- What a worker does is work that it had before it. -/
theorem work_toil (o : p.Orderly s) {t : Tier} {i : Nat} (move : p.work s c t i = some q) :
    q.toil < p.toil := by
  have frame := work_frame move
  have less := o.linked.effort_work move
  have weight := ((turn_of_work o move).traffic o).weight_le (p.dealings_workDeeds s c t i)
  change q.tickets.weight ≤ p.tickets.weight at weight
  rw [toil, toil, frame.loop, frame.ledger]
  omega

/-- **Every step brings a run closer to its end**, unless a sample comes in or a run begins. -/
theorem Afloat.toil_lt (afloat : p.Afloat s h xs) (stays : a.closes = false) (begun : a ≠ .begin)
    (none : a.received = none) (move : p.step s c a = some q) : q.toil < p.toil := by
  have bound := (afloat.step stays move).attempts_le
  rcases cases_of_step stays move with step | ⟨t, i, rfl, work⟩ | ⟨rfl, enter⟩
  · generalize p.deeds s c a = ds at step
    cases step with
    | begin => exact absurd rfl begun
    | receive x => cases none
    | settle _ settled => exact settle_toil settled bound
    | closeInput _ opened =>
      simp only [toil, Loop.toil, opened, effort, total, Bool.toNat_true, Bool.toNat_false]
      omega
    | wake waits =>
      have inside := (List.getElem?_eq_some_iff.1 waits).1
      have fewer := List.length_eraseIdx_of_lt inside
      simp only [toil, Loop.toil, fewer, List.length_append, List.length_singleton, effort, total]
      omega
    | @drop i run d waits =>
      have inside := (List.getElem?_eq_some_iff.1 waits).1
      have fewer := List.length_eraseIdx_of_lt inside
      -- Its ticket may become an outcome, which weighs no more than the ticket did.
      have weight := p.tickets.weight_release_le d.ticket
      simp only [toil, Loop.toil, fewer, effort, total]
      omega
    | resubmit ready first =>
      simp only [toil, Loop.toil, submitting_eq_none ready, first, effort, total, List.length_cons,
        Option.toList_some, Option.toList_none, List.length_nil]
      omega
    | interrupt ready | finish ready => exact leave_toil p _ (running_of_idle ready)
  · exact work_toil afloat.orderly work
  · exact enter_toil afloat.orderly enter

/-! ### Somebody can do something -/

theorem heads_of_rest {t : Tier} {w : Worker} (rests : w.activity = .idle ∧ w.queue = []) :
    w.heads t = 0 ∧ w.tails = 0 := by
  rw [Worker.heads, Worker.queuing, Worker.tails, rests.1, rests.2]
  exact ⟨rfl, rfl⟩

/-- If all workers are done and the loop holds nothing and has read everything, nothing is in flight. -/
theorem Afloat.pending_eq_zero (afloat : p.Afloat s h xs)
    (rests : ∀ {t i w}, p.worker? t i = some w → w.activity = .idle ∧ w.queue = [])
    (loop : p.loop.heads = 0) (read : p.tickets.outcomes = []) : p.ledger.pending = 0 := by
  have heads : p.traffic.heads = 0 := by
    change p.loop.heads + p.total Worker.heads = 0
    rw [loop, total_eq_zero fun here => (heads_of_rest (rests here)).1]
    rfl
  have tails : p.traffic.tails = 0 :=
    total_eq_zero fun {t i w} here => (heads_of_rest (t := t) (rests here)).2
  by_contra busy
  -- What the ledger tracks would be held by somebody, and there is nobody.
  obtain ⟨e, there⟩ := List.exists_mem_of_length_pos (Nat.pos_of_ne_zero busy)
  have known : e.1 ∈ p.ledger.flight.keys := List.mem_map_of_mem there
  obtain ⟨u, tracked⟩ := Option.isSome_iff_exists.1 (OrderedMap.mem_keys.1 known)
  rcases afloat.traced.awaited tracked with ⟨k, held, -⟩ | ⟨o, waits, -⟩
  · obtain ⟨r, found⟩ := Option.isSome_iff_exists.1 (Tickets.find?_isSome_iff.2 held)
    have fares := afloat.traced.fares k
    rw [Traffic.Fares, found, heads, tails] at fares
    have none := fares.holders_eq
    have some := fares.holders_pos
    simp only [Traffic.headsOf, Multiset.filter_zero, Multiset.card_zero, Multiset.count_zero,
      Option.map_some, Option.getD_some] at none
    omega
  · change o ∈ p.tickets.outcomes at waits
    rw [read] at waits
    cases waits

/-- **As long as a run whose input is closed is not over, it can go on.** -/
theorem Afloat.exists_step (afloat : p.Afloat s h xs) (roomy : 0 < s.capacity)
    (running : p.loop.running = true) (closed : p.loop.inputOpen = false) :
    ∃ a q, a.disturbs = false ∧ a ≠ .begin ∧ p.step s c a = some q := by
  have can : ∀ a : Action, a.disturbs = false → a ≠ .begin → (p.step s c a).isSome = true →
      ∃ a q, a.disturbs = false ∧ a ≠ .begin ∧ p.step s c a = some q := by
    intro a calm begun able
    obtain ⟨q, move⟩ := Option.isSome_iff_exists.1 able
    exact ⟨a, q, calm, begun, move⟩
  by_cases still : p.Still s c
  · have rests : ∀ {t i w}, p.worker? t i = some w → w.activity = .idle ∧ w.queue = [] := fun here =>
      (afloat.orderly.linked.rests_of_still roomy still here).resolve_right (afloat.orderly.fits here).works
    cases waits : p.loop.submitting with
    | some d =>
      obtain ⟨taker, found, reached⟩ := afloat.orderly.target_eq .raw d.sample.series
      exact can .enter rfl (by rintro ⟨⟩)
        (by simp [Plant.step, enter, waits, reached, (rests found).2, roomy])
    | none =>
      have idle : p.loopIdle = true := by simp [loopIdle, running, waits]
      cases ready : p.loop.ready with
      | cons d rest => exact can .resubmit rfl (by rintro ⟨⟩) (by simp [Plant.step, ready, idle])
      | nil =>
        cases waiting : p.loop.waiting with
        | cons e rest =>
          refine can (.wake 0) rfl (by rintro ⟨⟩) ?_
          simp only [Plant.step, wake, waiting, List.getElem?_cons_zero, Option.bind_eq_bind,
            Option.bind_some]
          split <;> rfl
        | nil =>
          cases outcomes : p.tickets.outcomes with
          | cons o rest =>
            exact can .settle rfl (by rintro ⟨⟩)
              (by simp [Plant.step, idle, settle, Tickets.read?, outcomes])
          | nil =>
            have loop : p.loop.heads = 0 := by
              rw [Loop.heads, waits, ready, waiting]
              rfl
            have settled := afloat.pending_eq_zero rests loop outcomes
            exact can .finish rfl (by rintro ⟨⟩) (by simp [Plant.step, idle, closed, settled])
  · obtain ⟨t, able⟩ := not_forall.1 still
    obtain ⟨i, able⟩ := not_forall.1 able
    exact can (.work t i) rfl (by rintro ⟨⟩) (Option.isSome_iff_ne_none.2 able)

/-! ### The end of a run -/

theorem loop_of_step (stays : a.closes = false) (begun : a ≠ .begin) (move : p.step s c a = some q) :
    (p.loop.inputOpen = false → q.loop.inputOpen = false) ∧
      (q.loop.running = p.loop.running ∧ q.loop.exit = p.loop.exit ∨ a = .interrupt ∨
        q.loop.exit = some .drained) := by
  rcases cases_of_step stays move with step | ⟨t, i, rfl, work⟩ | ⟨rfl, enter⟩
  · generalize p.deeds s c a = ds at step
    cases step with
    | begin => exact absurd rfl begun
    | settle _ settled =>
      obtain ⟨tickets, meter, journal, -, -, rfl⟩ := settle_eq_some settled
      exact ⟨id, .inl ⟨rfl, rfl⟩⟩
    | closeInput => exact ⟨fun _ => rfl, .inl ⟨rfl, rfl⟩⟩
    | interrupt => exact ⟨fun _ => rfl, .inr (.inl rfl)⟩
    | finish => exact ⟨fun _ => rfl, .inr (.inr rfl)⟩
    | _ => exact ⟨id, .inl ⟨rfl, rfl⟩⟩
  · rw [(work_frame work).loop]
    exact ⟨id, .inl ⟨rfl, rfl⟩⟩
  · rw [(enter_frame enter).1]
    exact ⟨id, .inl ⟨rfl, rfl⟩⟩

theorem received_eq_none (closed : p.loop.inputOpen = false) (move : p.step s c a = some q) :
    a.received = none := by
  cases a with
  | receive x => simp [Plant.step, closed] at move
  | _ => rfl

/-- Once the input is closed, a run has no more steps than its toil. -/
theorem Afloat.toil_follow {bs : List Action} (afloat : p.Afloat s h xs)
    (closed : p.loop.inputOpen = false) (goes : ∀ b ∈ bs, b.closes = false ∧ b ≠ .begin) {h' : History}
    (moves : Plant.follow s c bs (h, p) = some (h', q)) :
    q.Afloat s h' xs ∧ q.loop.inputOpen = false ∧ bs.length + q.toil ≤ p.toil ∧
      (p.loop.running = true ∨ p.loop.exit = some .drained → .interrupt ∉ bs →
        q.loop.running = true ∨ q.loop.exit = some .drained) := by
  induction bs generalizing h p with
  | nil =>
    cases moves
    exact ⟨afloat, closed, le_of_eq (Nat.zero_add _), fun going _ => going⟩
  | cons b bs ih =>
    obtain ⟨⟨stays, begun⟩, rest⟩ := List.forall_mem_cons.1 goes
    rw [follow] at moves
    cases move : p.step s c b with
    | none =>
      rw [move] at moves
      cases moves
    | some mid =>
      rw [move] at moves
      have none := received_eq_none closed move
      have next := afloat.step stays move
      rw [none, Option.toList_none, List.append_nil] at next
      have less := afloat.toil_lt stays begun none move
      obtain ⟨shut, turns⟩ := loop_of_step stays begun move
      obtain ⟨final, closes, bound, ends⟩ := ih next (shut closed) rest moves
      refine ⟨final, closes, ?_, fun going calm => ?_⟩
      · rw [List.length_cons]
        omega
      · rw [List.mem_cons, not_or] at calm
        refine ends ?_ calm.2
        rcases turns with ⟨running, exit⟩ | interrupted | drained
        · rw [running, exit]
          exact going
        · exact absurd interrupted.symm calm.1
        · exact .inr drained

/-- **A run does a bounded amount of work and comes to its end**, whatever the collaborators do and in
whatever order workers and loop take turns, and also if runs before it were interrupted. There are no
more deliveries than the samples have attempts. Every delivery has a ticket of its own, is taken in at
most once at each tier, and costs the tier two full budgets of attempts at most for it. Every step
lowers the toil unless a sample comes in or a run begins. So once the input is closed, a run has no more
steps than its toil; as long as it is not over it can go on, and if nobody interrupts it, it is over when
it has drained. -/
theorem work_bounded {sinks : σ} {board : Board} {now : Int} {start : Plant σ} {as : List Action}
    (launched : Plant.launch s sinks board now = .ok start) (stays : ∀ a ∈ as, a.closes = false)
    (moves : Plant.follow s c as ([], start) = some (h, p)) :
    h.deliveries.length ≤ (as.filterMap Action.received).length * s.redelivery.attempts ∧
      (∀ d ∈ h.deliveries, (h.of d.ticket).deliveries = [d] ∧ ∀ t,
        let own := (h.of d.ticket).within t
        own.aggregates.length ≤ 1 ∧ (own.attempts .store).length + (own.attempts .notifier).length
          ≤ 2 * (s.calls.retries + 1) * own.aggregates.length) ∧
      (∀ a q, a.closes = false → a ≠ .begin → a.received = none → p.step s c a = some q →
        q.toil < p.toil) ∧
      (p.loop.running = true → p.loop.inputOpen = false → ∀ bs h' q,
        (∀ b ∈ bs, b.closes = false ∧ b ≠ .begin) → Plant.follow s c bs (h, p) = some (h', q) →
        bs.length + q.toil ≤ p.toil ∧
          (q.loop.running = true →
            ∃ a q', a.disturbs = false ∧ a ≠ .begin ∧ q.step s c a = some q') ∧
          (q.loop.running = false → .interrupt ∉ bs → q.loop.exit = some .drained)) := by
  have afloat := afloat_of_follow launched stays moves
  have usable := (launch_eq_ok launched).1
  refine ⟨?_, fun d issued => ?_, fun a q stays begun none move => afloat.toil_lt stays begun none move,
    fun running closed bs h' q goes on => ?_⟩
  · obtain ⟨rs, history, -⟩ := afloat.traced.asked
    have few := Office.deliveries_le s.redelivery .zero rs
    have inputs : Ledger.Request.samples rs = as.filterMap Action.received := by
      rw [← afloat.inputs, ← History.inputs_dealings, ← history, History.inputs_eq,
        (Office.books s.redelivery .zero rs).firsts, samples_numbered]
    rw [history, History.deliveries_dealings, inputs,
      Nat.max_eq_right (Settings.attempts_pos_of_check usable)] at few
    exact few
  · have fares := afloat.traced.fares d.ticket
    have own : d ∈ (h.of d.ticket).deliveries := History.mem_deliveries_of.2 ⟨issued, rfl⟩
    refine ⟨?_, fun t => ?_⟩
    · rcases fares.deliveries_cases with none | ⟨start, deliveries, -⟩
      · rw [none] at own
        cases own
      · rw [deliveries] at own ⊢
        rw [List.mem_singleton.1 own]
    · have thrifty : ((h.of d.ticket).within t).Thrifty := Fares.thrifty fares t
      have all : ((h.of d.ticket).within t).Within s.calls := (within_of_follow moves).of_subset
        fun e mem => (History.mem_of.1 (History.mem_within.1 mem).1).1
      exact ⟨thrifty.folds, thrifty.length_attempts_le all⟩
  · obtain ⟨final, closes, bound, ends⟩ := afloat.toil_follow closed goes on
    refine ⟨bound, fun going => ?_, fun ended calm => ?_⟩
    · exact final.exists_step (Settings.capacity_pos_of_check usable) going closes
    · refine (ends (.inl running) calm).resolve_left ?_
      rw [ended]
      nofun

end Plant

namespace Trial

/-- The only sample fails, and its outcome is not settled yet when the input is closed. -/
def ending : List Action :=
  [.begin, .receive (sample 0), .enter, .work .raw 0, .work .raw 0, .closeInput]

theorem ending_isSome : (reach settings refusals ending).isSome = true := by
  decide +kernel

def closed : History × Plant Recorder := (reach settings refusals ending).get ending_isSome

def draining : List Action := List.flatten
  [[.settle, .wake 0, .resubmit, .enter], List.replicate 4 (.work .raw 0), [.settle, .finish]]

theorem draining_isSome :
    (Plant.follow settings Recorder.collaborator draining closed).isSome = true := by
  decide +kernel

def drained : Plant Recorder :=
  ((Plant.follow settings Recorder.collaborator draining closed).get draining_isSome).2

end Trial

/-- In a short run one delivery fails before the input is closed. From then on the run has 82 steps at most
before it, and it drains after ten. -/
theorem work_bounded_trial :
    Trial.closed.1.deliveries.length ≤ 1 * 3 ∧ Trial.closed.2.toil = 82 ∧
      Trial.draining.length + Trial.drained.toil ≤ Trial.closed.2.toil ∧
      Trial.drained.loop.exit = some .drained := by
  obtain ⟨few, -, -, ends⟩ := Plant.work_bounded (Trial.launch_eq (by decide +kernel) Trial.refusals)
    (by decide) (Trial.follow_of_reach Trial.ending_isSome)
  have goes : ∀ b ∈ Trial.draining, b.closes = false ∧ b ≠ .begin := by
    simp [Trial.draining, Action.closes]
  obtain ⟨bound, -, drains⟩ := ends (by decide +kernel) (by decide +kernel) Trial.draining _ Trial.drained
    goes (Option.some_get Trial.draining_isSome).symm
  exact ⟨few, by decide +kernel, bound, drains (by decide +kernel) (by simp [Trial.draining])⟩

end TierCascade
