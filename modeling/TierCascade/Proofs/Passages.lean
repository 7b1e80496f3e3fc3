import TierCascade.Proofs.Attempts
import TierCascade.Proofs.Open
import TierCascade.Proofs.Outcomes
/-!
# Traffic when runs are interrupted

A run may be interrupted, and another one begun. The workers go on as before, but what the loop held
ready is thrown away, and so is what wakes up when its run is over: the sample is gone, and its ticket
is let go without anybody having said that the delivery failed.

`Passage` says what an action does to the traffic then, and `Fares` how a ticket can stand. `Traced` is
what holds of the traffic all the same: it rests on the ledger's own books (`Office.issues`), which do
not depend on what becomes of a sample, and not on the accounts of an undisturbed run.
-/

namespace TierCascade

/-! ### What one action does -/

/-- What an action does to the traffic: it is a step, or the loop throws away deliveries that were to be
made again. -/
inductive Traffic.Passage (s : Settings) : Traffic → History → Traffic → Prop where
  | step {T T' : Traffic} {ds : History} (step : Step s T ds T') : Passage s T ds T'
  | discard {heads : Multiset (Delivery × Spot)} {tails : Multiset Ticket} {ts : Tickets} {l : Ledger}
      {d : Delivery} (again : d.isRedelivery = true) :
      Passage s ⟨{(d, .outside)} + heads, tails, ts, l⟩ (ts.farewells d.ticket)
        ⟨heads, tails, ts.release d.ticket, l⟩
  | trans {T T' T'' : Traffic} {ds ds' : History} (first : Passage s T ds T')
      (next : Passage s T' ds' T'') : Passage s T (ds ++ ds') T''

def Loop.Again (l : Loop) : Prop :=
  ∀ d, d ∈ l.ready ∨ (∃ run, (run, d) ∈ l.waiting) → d.isRedelivery = true

theorem Traffic.Passage.discardAll {s : Settings} {ds : List Delivery}
    (again : ∀ d ∈ ds, d.isRedelivery = true) (heads : Multiset (Delivery × Spot))
    (tails : Multiset Ticket) (ts : Tickets) (l : Ledger) :
    Passage s ⟨((ds.map fun d => (d, Spot.outside) : List (Delivery × Spot)) : Multiset _) + heads, tails,
        ts, l⟩
      (ts.farewellsAll ds) ⟨heads, tails, ts.releaseAll ds, l⟩ := by
  induction ds generalizing ts with
  | nil =>
    rw [List.map_nil, Multiset.coe_nil, zero_add]
    exact .step .rest
  | cons d ds ih =>
    rw [List.map_cons, ← Multiset.cons_coe, ← Multiset.singleton_add, add_assoc]
    refine .trans (.discard (again d List.mem_cons_self)) ?_
    exact ih (fun e mem => again e (List.mem_cons_of_mem d mem)) (ts.release d.ticket)

namespace Plant

variable {σ : Type} {s : Settings} {c : Collaborator σ} {p q : Plant σ}

theorem passage_leave (again : p.loop.Again) (exit : Exit) :
    Traffic.Passage s p.traffic (p.tickets.farewellsAll p.loop.ready) (p.leave exit).traffic := by
  have old : p.loop.heads
      = (p.loop.ready.map fun d => (d, Spot.outside) : List (Delivery × Spot))
        + (p.leave exit).loop.heads := by
    simp only [leave, Loop.heads, List.append_nil, Multiset.coe_add]
    refine Multiset.coe_eq_coe.2 ?_
    rw [← List.map_append, List.append_assoc, ← List.append_assoc p.loop.ready]
    refine List.Perm.map _ ?_
    rw [← List.append_assoc]
    exact List.Perm.append_right _ List.perm_append_comm
  obtain ⟨before, after⟩ := traffic_eq_of_loop (p := p) (q := p.leave exit) rfl old (zero_add _).symm
  rw [before, after, zero_add]
  exact .discardAll (fun d mem => again d (.inl mem)) _ _ _ _

theorem passage_drop (again : p.loop.Again) {i run : Nat} {d : Delivery}
    (waits : p.loop.waiting[i]? = some (run, d)) :
    Traffic.Passage s p.traffic (p.tickets.farewells d.ticket)
      { p with
        loop := { p.loop with waiting := p.loop.waiting.eraseIdx i }
        tickets := p.tickets.release d.ticket }.traffic := by
  have old : p.loop.heads = {(d, .outside)}
      + Loop.heads { p.loop with waiting := p.loop.waiting.eraseIdx i } := by
    rw [← heads_wake waits]
    simp only [Loop.heads]
    rw [← Multiset.coe_singleton, Multiset.coe_add]
    refine Multiset.coe_eq_coe.2 ?_
    rw [← List.map_singleton (f := fun d => (d, Spot.outside)), ← List.map_append]
    refine List.Perm.map _ ?_
    simp only [List.append_assoc, List.singleton_append]
    rw [← List.append_assoc, ← List.append_assoc]
    exact List.perm_middle
  obtain ⟨before, after⟩ := traffic_eq_of_loop (p := p)
    (q := { p with
      loop := { p.loop with waiting := p.loop.waiting.eraseIdx i }
      tickets := p.tickets.release d.ticket }) rfl old (zero_add _).symm
  rw [before, after, zero_add]
  exact .discard (again d (.inr ⟨run, List.mem_of_getElem? waits⟩))

/-- **Every action that does not shut the plant down is a passage of its traffic.** -/
theorem passage_of_step (o : p.Orderly s) (again : p.loop.Again) {a : Action} (stays : a.closes = false)
    (move : p.step s c a = some q) : Traffic.Passage s p.traffic (p.deeds s c a) q.traffic := by
  cases workers : a.concernsWorkers with
  | true => exact .step ((o.turn workers stays move).traffic o)
  | false =>
    have step := loopStep_of_step workers move
    generalize p.deeds s c a = ds at step
    cases step with
    | begin => exact .step .rest
    | receive x ready => exact .step (traffic_receive x ready)
    | closeInput => exact .step .rest
    | settle _ settled => exact .step (traffic_settle settled)
    | wake waits => exact .step (traffic_of_loop rfl (heads_wake waits) rfl rfl)
    | drop waits => exact passage_drop again waits
    | resubmit ready first => exact .step ((Turn.resubmit (c := c) ready first).traffic o)
    | interrupt => exact passage_leave again .interrupted
    | finish => exact passage_leave again .drained

end Plant

/-! ### How a ticket fares -/

/-- How a ticket can stand if the loop may throw samples away: as in a run that nothing disturbs, or its
sample was thrown away before it went anywhere, and the delivery counts as acknowledged. -/
inductive Fares (s : Settings) (k : Ticket) :
    History → Multiset (Delivery × Spot) → Nat → Option Held → Prop where
  | tended {h : History} {heads : Multiset (Delivery × Spot)} {n : Nat} {record : Option Held}
      (st : Standing s k h heads n record) : Fares s k h heads n record
  | abandoned {start : Delivery} (ticket : start.ticket = k) (again : start.isRedelivery = true) :
      Fares s k [.issued start, .sent k (.acked k.unitId)] 0 0 none

/-- How a ticket fares in some traffic. -/
def Traffic.Fares (s : Settings) (h : History) (T : Traffic) (k : Ticket) : Prop :=
  TierCascade.Fares s k (h.of k) (headsOf T.heads k) (T.tails.count k) (T.tickets.find? k)

theorem Course.eq_of_outside {s : Settings} {start d : Delivery} {h : History}
    (course : Course s start d .outside h) : d = start ∧ h = [.issued start] := by
  generalize at_ : Spot.outside = spot at course
  cases course with
  | issued => exact ⟨rfl, rfl⟩
  | branch => cases at_
  | @hop _ spot _ _ _ _ hop =>
    cases hop with
    | @call _ _ sink => cases sink <;> cases at_
    | @skip _ _ sink => cases sink <;> cases at_
    | _ => cases at_

namespace Fares

variable {s : Settings} {k : Ticket} {h : History} {heads : Multiset (Delivery × Spot)} {n : Nat}
  {record : Option Held}

theorem deliveries_cases (fares : Fares s k h heads n record) :
    h = [] ∨ ∃ start, h.deliveries = [start] ∧ start.ticket = k := by
  cases fares with
  | tended st => exact st.deliveries_cases
  | abandoned ticket => exact .inr ⟨_, rfl, ticket⟩

theorem holders_eq (fares : Fares s k h heads n record) :
    heads.card + n = (record.map Held.holders).getD 0 := by
  cases fares with
  | tended st => exact st.holders_eq
  | abandoned => rfl

theorem holders_pos {r : Held} (fares : Fares s k h heads n (some r)) : 0 < r.holders := by
  cases fares with
  | tended st => exact st.holders_pos

/-- A sample that is outside is the only holder but for those who stayed behind, and nothing has happened
to it. -/
theorem eq_of_outside {d : Delivery} {rest : Multiset (Delivery × Spot)}
    (fares : Fares s k h ({(d, .outside)} + rest) n record) :
    rest = 0 ∧ record = some ⟨k, n + 1, none⟩ ∧ h = [.issued d] ∧ d.ticket = k := by
  generalize found : {(d, Spot.outside)} + rest = heads at fares
  cases fares with
  | abandoned =>
    rw [Multiset.singleton_add] at found
    exact absurd found Multiset.cons_ne_zero
  | tended st =>
    subst found
    obtain ⟨alone, held, start, course, ticket⟩ := st.live_of_head
    obtain ⟨rfl, own⟩ := course.eq_of_outside
    exact ⟨alone, held, own, ticket⟩

theorem discard {d : Delivery} {rest : Multiset (Delivery × Spot)} {ts : Tickets}
    (again : d.isRedelivery = true)
    (fares : Fares s k h ({(d, .outside)} + rest) 0 (ts.find? k)) :
    Fares s k (h ++ ts.farewells k) rest 0 ((ts.release k).find? k) := by
  obtain ⟨rfl, held, rfl, ticket⟩ := fares.eq_of_outside
  rcases Tickets.release_cases held with ⟨-, gone, said⟩ | ⟨none, -, -⟩
  · rw [gone, said]
    exact .abandoned ticket again
  · cases none

end Fares

namespace Traffic

variable {s : Settings} {h ds : History} {T T' : Traffic} {k : Ticket}

/-- A step does nothing to a ticket that nobody holds, unless it hands it out. -/
theorem Step.absent (step : Step s T ds T') (new : ∀ d ∈ ds.deliveries, d.ticket ≠ k)
    (heads : headsOf T.heads k = 0) (tails : T.tails.count k = 0) (record : T.tickets.find? k = none) :
    ds.of k = [] ∧ headsOf T'.heads k = 0 ∧ T'.tails.count k = 0 ∧ T'.tickets.find? k = none := by
  have before : T.Stands s [] k := by
    rw [Stands, heads, tails, record]
    exact .absent
  have after : T'.Stands s ([] ++ ds) k := step.stands (fun _ _ => rfl) before
  rw [List.nil_append] at after
  have silent : ds.of k = [] := Stands.of_eq_nil after new
  rw [Stands, silent] at after
  exact ⟨silent, after.absent_of_nil⟩

theorem Step.fares (step : Step s T ds T') (new : ∀ d ∈ ds.deliveries, h.of d.ticket = [])
    (fares : T.Fares s h k) : T'.Fares s (h ++ ds) k := by
  unfold Traffic.Fares at fares
  generalize own : h.of k = g at fares
  generalize heads : headsOf T.heads k = hs at fares
  generalize tails : T.tails.count k = n at fares
  generalize record : T.tickets.find? k = r at fares
  cases fares with
  | tended st =>
    subst own heads tails record
    exact .tended (step.stands new st)
  | abandoned ticket again =>
    have others : ∀ d ∈ ds.deliveries, d.ticket ≠ k := by
      rintro d mem rfl
      cases own.symm.trans (new d mem)
    obtain ⟨silent, none, nobody, gone⟩ := step.absent others heads tails record
    rw [Traffic.Fares, History.of_append, own, silent, none, nobody, gone]
    exact .abandoned ticket again

theorem Fares.of_eq_nil (fares : T.Fares s h k) (unheard : ∀ d ∈ h.deliveries, d.ticket ≠ k) :
    h.of k = [] := by
  rcases fares.deliveries_cases with none | ⟨start, deliveries, ticket⟩
  · exact none
  · have there : start ∈ (h.of k).deliveries := deliveries ▸ List.mem_singleton_self start
    exact absurd ticket (unheard start (History.mem_deliveries_of.1 there).1)

end Traffic

/-! ### What the ledger waits for -/

namespace Tickets

variable {ts ts' : Tickets} {i : Nat} {k : Ticket}

/-- Somebody holds a ticket of a unit, or an outcome of the unit waits to be read. -/
def Remembers (ts : Tickets) (i : Nat) : Prop :=
  (∃ k ∈ ts.current, k.unitId = i) ∨ ∃ o ∈ ts.outcomes, o.unitId = i

theorem unitId_of_farewell {o : Outcome} (said : ts.farewell k = some o) : o.unitId = k.unitId := by
  unfold farewell at said
  obtain ⟨r, found, last⟩ := Option.bind_eq_some_iff.1 said
  split at last
  · cases last
    rw [← ticket_of_find? found, Held.outcome]
    split <;> rfl
  · cases last

@[simp] theorem outcomes_farewells : (ts.farewells k).outcomes = (ts.farewell k).toList := by
  rw [History.outcomes, sent_farewells, List.map_map]
  exact List.map_id _

@[simp] theorem settlements_farewells : (ts.farewells k).settlements = [] := by
  rw [farewells]
  cases ts.farewell k <;> rfl

theorem Remembers.of_eq (remembers : ts.Remembers i) (current : ts'.current = ts.current)
    (outcomes : ts'.outcomes = ts.outcomes) : ts'.Remembers i := by
  rw [Remembers, current, outcomes]
  exact remembers

theorem Remembers.release (remembers : ts.Remembers i) (j : Ticket) : (ts.release j).Remembers i := by
  rw [Remembers, outcomes_release]
  rcases remembers with ⟨k, held, unit⟩ | ⟨o, waits, unit⟩
  · rcases held_or_farewell (find?_isSome_iff.2 held) j with still | ⟨o, rfl, said⟩
    · exact .inl ⟨k, find?_isSome_iff.1 still, unit⟩
    · refine .inr ⟨o, List.mem_append_right _ ?_, (unitId_of_farewell said).trans unit⟩
      rw [said]
      exact List.mem_cons_self
  · exact .inr ⟨o, List.mem_append_left _ waits, unit⟩

theorem Remembers.issue (remembers : ts.Remembers i) (k : Ticket) : (ts.issue k).Remembers i :=
  remembers.imp_left fun ⟨j, held, unit⟩ => ⟨j, List.mem_cons_of_mem _ held, unit⟩

theorem remembers_issue (ts : Tickets) (k : Ticket) : (ts.issue k).Remembers k.unitId :=
  .inl ⟨k, List.mem_cons_self, rfl⟩

theorem Remembers.read {o : Outcome} (remembers : ts.Remembers i) (read : ts.read? = some (o, ts'))
    (other : i ≠ o.unitId) : ts'.Remembers i := by
  rw [Remembers, current_read? read]
  refine remembers.imp_right fun ⟨o', waits, unit⟩ => ⟨o', ?_, unit⟩
  rw [(read?_eq_some read).1] at waits
  refine (List.mem_cons.1 waits).resolve_left ?_
  rintro rfl
  exact other unit.symm

end Tickets

/-! ### What is in order -/

/-- All that is in order in the traffic of a plant that is not shut down. Workers that hold a ticket have
done something under it, every outcome that is reported is settled or waits, what the ledger tracks is
remembered, and the ledger was asked some things one after the other. -/
structure Traffic.Traced (s : Settings) (h : History) (T : Traffic) : Prop where
  fares : ∀ k, T.Fares s h k
  handled : ∀ k ∈ T.tails, ∃ e ∈ h.of k, e.tier?.isSome = true
  channel : h.outcomes = h.settlements ++ T.tickets.outcomes
  awaited : ∀ {i u}, T.ledger.flight.get? i = some u → T.tickets.Remembers i
  asked : ∃ rs, (Office.after s.redelivery .zero rs).history = h.dealings ∧
    (Office.after s.redelivery .zero rs).ledger = T.ledger

namespace Traffic

variable {s : Settings} {h ds : History} {T T' : Traffic} {k : Ticket}

/-! #### One step -/

theorem Step.asked (step : Step s T ds T')
    (asked : ∃ rs, (Office.after s.redelivery .zero rs).history = h.dealings ∧
      (Office.after s.redelivery .zero rs).ledger = T.ledger) :
    ∃ rs, (Office.after s.redelivery .zero rs).history = (h ++ ds).dealings ∧
      (Office.after s.redelivery .zero rs).ledger = T'.ledger := by
  obtain ⟨rs, history, ledger⟩ := asked
  rw [History.dealings_append]
  rcases step.asks with ⟨none, same⟩ | ⟨r, deeds, after⟩
  · refine ⟨rs, ?_, ledger.trans same.symm⟩
    rw [none, List.append_nil, history]
  · refine ⟨rs ++ [r], ?_, ?_⟩
    · rw [Office.after_concat, deeds, ← history]
      exact congrArg (fun l : Ledger => _ ++ l.deeds r) ledger
    · rw [Office.after_concat]
      exact (congrArg (fun l : Ledger => l.after r) ledger).trans after.symm

theorem Step.new_of_traced (step : Step s T ds T') (traced : T.Traced s h) :
    ∀ d ∈ ds.deliveries, h.of d.ticket = [] := by
  obtain ⟨rs, history, -⟩ := step.asked traced.asked
  have distinct := (Office.issues s.redelivery .zero rs).distinct
  rw [history, History.deliveries_dealings, History.deliveries_append, List.map_append] at distinct
  intro d mem
  refine (traced.fares d.ticket).of_eq_nil fun e there same => ?_
  exact List.disjoint_of_nodup_append distinct (List.mem_map_of_mem there)
    (same ▸ List.mem_map_of_mem mem)

theorem mem_of_append {e : Deed} (mem : e ∈ h.of k) : e ∈ (h ++ ds).of k := by
  rw [History.of_append]
  exact List.mem_append_left _ mem

theorem Step.handled (step : Step s T ds T')
    (handled : ∀ k ∈ T.tails, ∃ e ∈ h.of k, e.tier?.isSome = true) :
    ∀ k ∈ T'.tails, ∃ e ∈ (h ++ ds).of k, e.tier?.isSome = true := by
  intro k mem
  have before : k ∈ T.tails → ∃ e ∈ (h ++ ds).of k, e.tier?.isSome = true := fun old =>
    (handled k old).imp fun e there => ⟨mem_of_append there.1, there.2⟩
  cases step with
  | branch branch =>
    rcases Multiset.mem_add.1 mem with new | old
    · rw [Multiset.mem_singleton.1 new, History.of_append]
      cases branch
      exact ⟨_, List.mem_append_right _ (History.mem_of.2 ⟨List.mem_cons_self, rfl⟩), rfl⟩
    · exact before old
  | part j => exact before (Multiset.mem_add.2 (.inr mem))
  | _ => exact before mem

theorem channel_append {old new : List Outcome} (channel : h.outcomes = h.settlements ++ old)
    (settlements : ds.settlements = []) (reported : new = old ++ ds.outcomes) :
    (h ++ ds).outcomes = (h ++ ds).settlements ++ new := by
  rw [History.outcomes_append, History.settlements_append, settlements, List.append_nil, reported, channel,
    List.append_assoc]

theorem Step.channel (step : Step s T ds T')
    (channel : h.outcomes = h.settlements ++ T.tickets.outcomes) :
    (h ++ ds).outcomes = (h ++ ds).settlements ++ T'.tickets.outcomes := by
  cases step with
  | rest => exact channel_append channel rfl (List.append_nil _).symm
  | emit x => exact channel_append channel rfl (List.append_nil _).symm
  | hop hop =>
    refine channel_append channel ?_ ?_
    · cases hop <;> rfl
    · cases hop <;> exact (List.append_nil _).symm
  | branch branch =>
    cases branch
    exact channel_append channel rfl (List.append_nil _).symm
  | @halt _ _ ts _ d _ e mark halt =>
    refine channel_append channel ?_ ?_
    · have silent : History.settlements [e] = [] := by
        cases halt <;> rfl
      rw [← List.singleton_append, History.settlements_append, silent, Tickets.settlements_farewells]
      rfl
    · have silent : History.outcomes [e] = [] := by
        cases halt <;> rfl
      rw [← List.singleton_append, History.outcomes_append, silent, Tickets.outcomes_farewells,
        Tickets.outcomes_release, Tickets.outcomes_marked]
      rfl
  | part j =>
    refine channel_append channel Tickets.settlements_farewells ?_
    rw [Tickets.outcomes_farewells, Tickets.outcomes_release]
  | @settle _ _ ts ts' l o read =>
    have issues : ∀ st : Settlement, (st.reissue ts').outcomes = ts'.outcomes ∧
        st.issues.outcomes = [] ∧ st.issues.settlements = [] := by
      intro st
      cases st <;> exact ⟨rfl, rfl, rfl⟩
    obtain ⟨same, silent, none⟩ := issues (l.settle o).2
    rw [(Tickets.read?_eq_some read).1] at channel
    rw [List.append_cons, History.outcomes_append, History.settlements_append, silent, none, same,
      History.outcomes_append, History.settlements_append, channel]
    simp [History.outcomes, History.sent, History.settlements]

theorem Step.awaited (step : Step s T ds T')
    (awaited : ∀ {i u}, T.ledger.flight.get? i = some u → T.tickets.Remembers i) {i : Nat} {u : OpenUnit}
    (tracked : T'.ledger.flight.get? i = some u) : T'.tickets.Remembers i := by
  cases step with
  | rest => exact awaited tracked
  | hop => exact awaited tracked
  | branch => exact (awaited tracked).of_eq Tickets.current_share rfl
  | halt => exact ((awaited tracked).of_eq (Tickets.current_marked _) (Tickets.outcomes_marked _)).release _
  | part j => exact (awaited tracked).release j
  | @emit _ _ ts l x =>
    by_cases new : i = l.nextUnit
    · subst new
      exact ts.remembers_issue _
    · exact (awaited ((OrderedMap.get?_insert_of_ne _ _ new).symm.trans tracked)).issue _
  | @settle _ _ ts ts' l o read =>
    have settles := l.settles o
    generalize (l.settle o).1 = l' at settles tracked
    generalize (l.settle o).2 = st at settles ⊢
    cases settles with
    | unknown gone =>
      refine (awaited tracked).read read ?_
      rintro rfl
      cases gone.symm.trans tracked
    | acked =>
      refine (awaited (OrderedMap.get?_of_get?_erase tracked)).read read ?_
      rintro rfl
      cases (OrderedMap.get?_erase_self ..).symm.trans tracked
    | spent =>
      refine (awaited (OrderedMap.get?_of_get?_erase tracked)).read read ?_
      rintro rfl
      cases (OrderedMap.get?_erase_self ..).symm.trans tracked
    | @again j v t reason =>
      by_cases same : i = j
      · subst same
        exact ts'.remembers_issue _
      · have before := (OrderedMap.get?_insert_of_ne _ _ same).symm.trans tracked
        exact ((awaited before).read read same).issue _

theorem Step.traced (step : Step s T ds T') (traced : T.Traced s h) : T'.Traced s (h ++ ds) where
  fares k := step.fares (step.new_of_traced traced) (traced.fares k)
  handled := step.handled traced.handled
  channel := step.channel traced.channel
  awaited := step.awaited traced.awaited
  asked := step.asked traced.asked

/-! #### Samples that are thrown away -/

/-- A sample that is outside is the only holder of its ticket. -/
theorem Traced.count_eq_zero {heads : Multiset (Delivery × Spot)} {tails : Multiset Ticket} {ts : Tickets}
    {l : Ledger} {d : Delivery}
    (traced : Traced s h ⟨{(d, .outside)} + heads, tails, ts, l⟩) : tails.count d.ticket = 0 := by
  rw [Multiset.count_eq_zero]
  intro holds
  obtain ⟨e, there, works⟩ := traced.handled d.ticket holds
  have fares := traced.fares d.ticket
  rw [Traffic.Fares, headsOf_add_self rfl] at fares
  rw [fares.eq_of_outside.2.2.1] at there
  rw [List.mem_singleton.1 there] at works
  cases works

theorem Traced.discard {heads : Multiset (Delivery × Spot)} {tails : Multiset Ticket} {ts : Tickets}
    {l : Ledger} {d : Delivery} (again : d.isRedelivery = true)
    (traced : Traced s h ⟨{(d, .outside)} + heads, tails, ts, l⟩) :
    Traced s (h ++ ts.farewells d.ticket) ⟨heads, tails, ts.release d.ticket, l⟩ where
  fares k := by
    have about : ∀ e ∈ ts.farewells d.ticket, e.ticket? = some d.ticket := fun e mem =>
      Tickets.ticket_of_mem_farewells mem
    have fares := traced.fares k
    by_cases same : d.ticket = k
    · subst same
      rw [Traffic.Fares, headsOf_add_self rfl, traced.count_eq_zero] at fares
      rw [Traffic.Fares, History.of_append, History.of_eq_self about, traced.count_eq_zero]
      exact fares.discard again
    · rw [Traffic.Fares, headsOf_add_of_ne same] at fares
      rw [Traffic.Fares, History.of_append, History.of_eq_nil_of_ne about (Ne.symm same), List.append_nil,
        Tickets.find?_release_of_ne ts (Ne.symm same)]
      exact fares
  handled k mem := (traced.handled k mem).imp fun e there => ⟨mem_of_append there.1, there.2⟩
  channel := by
    refine channel_append traced.channel Tickets.settlements_farewells ?_
    rw [Tickets.outcomes_farewells, Tickets.outcomes_release]
  awaited tracked := (traced.awaited tracked).release _
  asked := by
    rw [History.dealings_append, Tickets.dealings_farewells, List.append_nil]
    exact traced.asked

/-- **Whatever an action does, everything stays in order.** -/
theorem Passage.traced (passage : Passage s T ds T') (traced : T.Traced s h) : T'.Traced s (h ++ ds) := by
  induction passage generalizing h with
  | step step => exact step.traced traced
  | discard again => exact traced.discard again
  | trans _ _ first next =>
    rw [← List.append_assoc]
    exact next (first traced)

end Traffic

end TierCascade
