import Mathlib.Algebra.Order.BigOperators.Group.List
import Mathlib.Algebra.Order.Ring.Nat
import TierCascade.Proofs.Office
/-!
# The accounts balance

The ledger keeps five counts, the number of units in flight follows from what it tracks, and the meter
counts once more for those who look from outside. `Office.accounts_balance` says that none of these ever
disagree, whatever is asked: every unit that came in is acknowledged, given up or in flight; every
failure led to another delivery or to giving up; and the number of further deliveries is what the
attempts of all units add up to.
-/

namespace TierCascade

/-- The number of the last attempt to deliver a unit. -/
def History.lastAttempt (h : History) (i : Nat) : Nat :=
  ((h.deliveries.filter fun d => d.ticket.unitId = i).map (·.ticket.attempt)).getLast?.getD 0

/-- The count that a counter shows. -/
def Tally.shown (t : Tally) : Counter → Nat
  | .acked => t.acked
  | .failed => t.failed
  | .redelivered => t.redelivered
  | .deadLettered => t.deadLettered
  | _ => 0

/-! ### Meters -/

namespace Meter

theorem read_countAll (m : Meter) (cs : List Counter) (c : Counter) :
    (m.countAll cs).read c = m.read c + cs.count c := by
  induction cs generalizing m with
  | nil => exact (add_zero _).symm
  | cons d cs ih =>
    have rest : (m.countAll (d :: cs)).read c = (m.count d).read c + cs.count c := ih (m.count d)
    rw [rest, List.count_cons]
    by_cases same : d = c
    · subst same
      rw [read_count_self]
      simp
      omega
    · rw [read_count_of_ne m (Ne.symm same)]
      simp [same]

theorem read_gauge_of_ne (m : Meter) (l : Ledger) {c : Counter} (other : c ≠ .inFlight) :
    (m.gauge l).read c = m.read c :=
  read_set_of_ne _ _ other

theorem read_gauge (m : Meter) (l : Ledger) : (m.gauge l).read .inFlight = l.tally.inFlight :=
  read_set_self ..

end Meter

/-! ### Attempts -/

namespace History

variable (h : History) (i : Nat)

theorem lastAttempt_append_issued (d : Delivery) : (h ++ [Deed.issued d]).lastAttempt i
    = if d.ticket.unitId = i then d.ticket.attempt else h.lastAttempt i := by
  have one : History.deliveries [Deed.issued d] = [d] := rfl
  rw [lastAttempt, deliveries_append, one, List.filter_append, List.map_append]
  by_cases same : d.ticket.unitId = i
  · simp [same]
  · simp [same, lastAttempt]

theorem lastAttempt_append_settled (o : Outcome) (st : Settlement) :
    (h ++ [Deed.settled o st]).lastAttempt i = h.lastAttempt i := by
  have none : History.deliveries [Deed.settled o st] = [] := rfl
  rw [lastAttempt, deliveries_append, none, List.append_nil]
  rfl

end History

theorem sum_map_succ {is : List Nat} {i : Nat} {f g : Nat → Nat} (distinct : is.Nodup) (mem : i ∈ is)
    (own : g i = f i + 1) (others : ∀ j ∈ is, j ≠ i → g j = f j) :
    (is.map g).sum = (is.map f).sum + 1 := by
  have rest : (is.erase i).map g = (is.erase i).map f :=
    List.map_congr_left fun j there =>
      others j (List.mem_of_mem_erase there) (distinct.mem_erase_iff.1 there).1
  rw [← List.sum_map_erase g mem, ← List.sum_map_erase f mem, rest, own, Nat.add_right_comm]

/-! ### What is shown outside -/

theorem Ledger.Settles.shown {l l' : Ledger} {o : Outcome} {st : Settlement} (settles : l.Settles o l' st)
    (c : Counter) : l'.tally.shown c = l.tally.shown c + st.counters.count c := by
  cases settles <;> cases c <;> rfl

theorem Ledger.shown_after (l : Ledger) (r : Ledger.Request) (c : Counter) :
    (l.after r).tally.shown c = l.tally.shown c + (l.counters r).count c := by
  cases r with
  | emit x => cases c <;> rfl
  | settle o => exact (l.settles o).shown c

namespace Office

theorem read_meter (b : RedeliveryBudget) (m : Meter) (rs : List Ledger.Request) {c : Counter}
    (other : c ≠ .inFlight) :
    (after b m rs).meter.read c = m.read c + (after b m rs).ledger.tally.shown c := by
  induction rs using List.reverseRecOn with
  | nil =>
    have none : (Ledger.new b).tally.shown c = 0 := by cases c <;> rfl
    exact none.symm ▸ (add_zero _).symm
  | append_singleton rs r ih =>
    rw [after_concat]
    change Meter.read (Meter.gauge _ _) c = _ + (((after b m rs).ledger.after r).tally.shown c : ℤ)
    rw [Meter.read_gauge_of_ne _ _ other, Meter.read_countAll, ih, Ledger.shown_after, Int.natCast_add,
      Int.add_assoc]

/-- The gauge follows the ledger from the first request on. -/
theorem read_inFlight (b : RedeliveryBudget) (m : Meter) {rs : List Ledger.Request} (some : rs ≠ []) :
    (after b m rs).meter.read .inFlight = (after b m rs).ledger.tally.inFlight := by
  rw [← List.dropLast_append_getLast some, after_concat]
  exact Meter.read_gauge ..

end Office

/-! ### Attempts add up -/

/-- The attempts that were made fit what the ledger tracks and counts. -/
structure Office.Counted (b : RedeliveryBudget) (f : Office) : Prop where
  current : ∀ {i u}, f.ledger.flight.get? i = some u → f.history.lastAttempt i = u.attempt
  within : ∀ i ∈ f.history.units,
    1 ≤ f.history.lastAttempt i ∧ f.history.lastAttempt i ≤ max 1 b.attempts
  total : f.ledger.redelivered = (f.history.units.map fun i => f.history.lastAttempt i - 1).sum

namespace Office.Counted

variable {b : RedeliveryBudget} {xs : List Sample} {f : Office}

theorem emit (counted : f.Counted b) (books : f.Books b xs) (x : Sample) :
    (f.ask (.emit x)).Counted b := by
  have history : (f.ask (.emit x)).history
      = f.history ++ [Deed.issued ⟨⟨f.ledger.nextUnit, 1⟩, x, none⟩] := rfl
  have units : (f.ask (.emit x)).history.units = f.history.units ++ [f.ledger.nextUnit] :=
    History.units_append ..
  have own : (f.ask (.emit x)).history.lastAttempt f.ledger.nextUnit = 1 := by
    rw [history, History.lastAttempt_append_issued, if_pos rfl]
  have others : ∀ {i}, i ≠ f.ledger.nextUnit →
      (f.ask (.emit x)).history.lastAttempt i = f.history.lastAttempt i := fun other => by
    rw [history, History.lastAttempt_append_issued, if_neg (Ne.symm other)]
  have known : ∀ i ∈ f.history.units, i ≠ f.ledger.nextUnit := by
    rintro i mem rfl
    exact books.nextUnit_notMem mem
  constructor
  case current =>
    intro i u found
    by_cases new : i = f.ledger.nextUnit
    · subst new
      cases (OrderedMap.get?_insert_self ..).symm.trans found
      exact own
    · rw [others new]
      exact counted.current ((OrderedMap.get?_insert_of_ne _ _ new).symm.trans found)
  case within =>
    intro i mem
    rw [units] at mem
    rcases List.mem_append.1 mem with old | new
    · rw [others (known i old)]
      exact counted.within i old
    · rw [List.mem_singleton.1 new, own]
      exact ⟨le_refl 1, le_max_left ..⟩
  case total =>
    have before : (f.history.units.map fun i => (f.ask (.emit x)).history.lastAttempt i - 1)
        = f.history.units.map fun i => f.history.lastAttempt i - 1 :=
      List.map_congr_left fun i mem => by rw [others (known i mem)]
    rw [units, List.map_append, List.sum_append, before, ← counted.total, List.map_singleton, own]
    rfl

private theorem quiet (counted : f.Counted b) {l : Ledger} {m : Meter} (o : Outcome) (st : Settlement)
    (tracked : ∀ {i u}, l.flight.get? i = some u → f.ledger.flight.get? i = some u)
    (redelivered : l.redelivered = f.ledger.redelivered) :
    Office.Counted b ⟨f.history ++ [.settled o st], l, m⟩ := by
  have units : History.units (f.history ++ [.settled o st]) = f.history.units :=
    (History.units_append ..).trans (List.append_nil _)
  have same : History.lastAttempt (f.history ++ [.settled o st]) = f.history.lastAttempt :=
    funext fun i => History.lastAttempt_append_settled ..
  constructor
  case current => exact fun found => same ▸ counted.current (tracked found)
  case within =>
    intro i mem
    rw [units] at mem
    rw [same]
    exact counted.within i mem
  case total =>
    rw [units, same]
    exact redelivered.trans counted.total

private theorem again (counted : f.Counted b) (books : f.Books b xs) {l : Ledger} {m : Meter}
    {h : History} {i : Nat} {u : OpenUnit} {t : Tier} {o : Outcome} {st : Settlement}
    (tracked : f.ledger.flight.get? i = some u) (left : u.attempt < b.attempts)
    (flight : l.flight = f.ledger.flight.insert i (u.again t))
    (redelivered : l.redelivered = f.ledger.redelivered + 1)
    (history : h = f.history ++ [.settled o st] ++ [.issued ((u.again t).delivery i)]) :
    Office.Counted b ⟨h, l, m⟩ := by
  obtain ⟨unit, begun⟩ := books.tracked tracked
  have units : h.units = f.history.units := by
    rw [history, History.units_append, History.units_append]
    simp [History.units, OpenUnit.firsts_again begun, History.firsts_settled]
  have own : h.lastAttempt i = f.history.lastAttempt i + 1 := by
    rw [history, History.lastAttempt_append_issued, counted.current tracked]
    exact if_pos rfl
  have others : ∀ {j}, j ≠ i → h.lastAttempt j = f.history.lastAttempt j := by
    intro j other
    rw [history, History.lastAttempt_append_issued, History.lastAttempt_append_settled]
    exact if_neg (Ne.symm other)
  constructor
  case current =>
    intro j v found
    rw [flight] at found
    by_cases same : j = i
    · subst same
      cases (OrderedMap.get?_insert_self ..).symm.trans found
      exact own.trans (congrArg (· + 1) (counted.current tracked))
    · rw [OrderedMap.get?_insert_of_ne _ _ same] at found
      exact (others same).trans (counted.current found)
  case within =>
    intro j mem
    rw [units] at mem
    by_cases same : j = i
    · subst same
      rw [own, counted.current tracked]
      exact ⟨Nat.le_add_left .., le_trans left (le_max_right ..)⟩
    · rw [others same]
      exact counted.within j mem
  case total =>
    -- One term of the sum grows by one, and the others stay.
    have distinct : f.history.units.Nodup := by
      rw [books.units_eq]
      exact List.nodup_range'
    have more : h.lastAttempt i - 1 = f.history.lastAttempt i - 1 + 1 := by
      have first := (counted.within i unit).1
      omega
    rw [units, sum_map_succ distinct unit more fun j _ other => by rw [others other]]
    exact redelivered.trans (congrArg (· + 1) counted.total)

theorem settle (counted : f.Counted b) (books : f.Books b xs) (o : Outcome) :
    (f.ask (.settle o)).Counted b := by
  refine of_settles (P := Office.Counted b) fun settles => ?_
  cases settles with
  | unknown => exact counted.quiet o _ id rfl
  | acked => exact counted.quiet _ _ OrderedMap.get?_of_get?_erase rfl
  | spent => exact counted.quiet _ _ OrderedMap.get?_of_get?_erase rfl
  | again tracked left =>
    rw [books.budget] at left
    exact counted.again books tracked left rfl rfl (List.append_cons ..)

end Office.Counted

namespace Office

theorem counted (b : RedeliveryBudget) (m : Meter) (rs : List Ledger.Request) :
    (after b m rs).Counted b := by
  induction rs using List.reverseRecOn with
  | nil => exact ⟨nofun, fun i mem => absurd mem List.not_mem_nil, rfl⟩
  | append_singleton rs r ih =>
    rw [after_concat]
    cases r with
    | emit x => exact ih.emit (books b m rs) x
    | settle o => exact ih.settle (books b m rs) o

/-- **The accounts balance.** Whatever the ledger was asked: every unit that was counted as emitted came
in, and it is counted as acknowledged, as given up or as in flight; every failure is counted as another
delivery or as giving up. The further deliveries are what the last attempts of all units add up to
beyond the first, and no unit has more of them than its budget allows. What the meter shows has risen
by the counts, and from the first request on its gauge shows the number of units in flight. -/
theorem accounts_balance (b : RedeliveryBudget) (m : Meter) (rs : List Ledger.Request) :
    let f := after b m rs
    let t := f.ledger.tally
    t.emitted = f.history.units.length ∧ t.emitted = t.acked + t.deadLettered + t.inFlight ∧
      t.failed = t.redelivered + t.deadLettered ∧
      t.redelivered = (f.history.units.map fun i => f.history.lastAttempt i - 1).sum ∧
      (∀ i ∈ f.history.units,
        1 ≤ f.history.lastAttempt i ∧ f.history.lastAttempt i ≤ max 1 b.attempts) ∧
      t.redelivered ≤ t.emitted * (max 1 b.attempts - 1) ∧
      (∀ c, c ≠ .inFlight → f.meter.read c = m.read c + t.shown c) ∧
      (rs ≠ [] → f.meter.read .inFlight = t.inFlight) := by
  intro f t
  have books : f.Books b (Ledger.Request.samples rs) := books b m rs
  have counted : f.Counted b := counted b m rs
  have emitted : t.emitted = f.history.units.length := by
    rw [books.units_eq, List.length_range']
    exact books.emitted
  refine ⟨emitted, books.balance, books.failures, counted.total, counted.within, ?_,
    fun c other => read_meter b m rs other, fun some => read_inFlight b m some⟩
  have each : ∀ n ∈ f.history.units.map (fun i => f.history.lastAttempt i - 1),
      n ≤ max 1 b.attempts - 1 := by
    intro n mem
    obtain ⟨i, unit, rfl⟩ := List.mem_map.1 mem
    exact Nat.sub_le_sub_right (counted.within i unit).2 1
  have bound := List.sum_le_card_nsmul _ _ each
  rw [List.length_map, Nat.nsmul_eq_mul, ← emitted] at bound
  exact counted.total.trans_le bound

end Office

end TierCascade
