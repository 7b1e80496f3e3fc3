import Mathlib.Data.List.Induction
import Mathlib.Data.List.Nodup
import TierCascade.Proofs.Maps
import TierCascade.Proofs.Settling
/-!
# The ledger under any requests

The ledger is asked two things: to make a sample a unit of work, and to settle an outcome. Here it is
asked them in any order, and outcomes may be made up, be late or come twice. An `Office` is a ledger
with the meter on which it counts and the history of its answers.

`Office.books` is what holds whatever was asked: units are numbered in the order in which they came in,
each is closed at most once, and none gets out of the count.
-/

namespace TierCascade

/-! ### Requests -/

inductive Ledger.Request where
  | emit (x : Sample)
  | settle (o : Outcome)

def Ledger.Request.samples (rs : List Ledger.Request) : List Sample :=
  rs.filterMap fun
    | .emit x => some x
    | .settle _ => none

namespace Ledger

def after (l : Ledger) : Request → Ledger
  | .emit x => (l.emit x).1
  | .settle o => (l.settle o).1

def deeds (l : Ledger) : Request → History
  | .emit x => [.issued (l.emit x).2]
  | .settle o => .settled o (l.settle o).2 :: (l.settle o).2.issues

def counters (l : Ledger) : Request → List Counter
  | .emit _ => []
  | .settle o => (l.settle o).2.counters

end Ledger

/-- A ledger with the meter on which it counts and the history of its answers. -/
structure Office where
  history : History
  ledger : Ledger
  meter : Meter

namespace Office

def new (b : RedeliveryBudget) (m : Meter) : Office := ⟨[], .new b, m⟩

def ask (f : Office) (r : Ledger.Request) : Office where
  history := f.history ++ f.ledger.deeds r
  ledger := f.ledger.after r
  meter := (f.meter.countAll (f.ledger.counters r)).gauge (f.ledger.after r)

def after (b : RedeliveryBudget) (m : Meter) (rs : List Ledger.Request) : Office :=
  rs.foldl ask (new b m)

theorem after_concat (b : RedeliveryBudget) (m : Meter) (rs : List Ledger.Request)
    (r : Ledger.Request) : after b m (rs ++ [r]) = (after b m rs).ask r := by
  rw [after, List.foldl_append]
  rfl

theorem of_settles {P : Office → Prop} {f : Office} {o : Outcome}
    (all : ∀ {l st}, f.ledger.Settles o l st →
      P ⟨f.history ++ (Deed.settled o st :: st.issues), l, (f.meter.countAll st.counters).gauge l⟩) :
    P (f.ask (.settle o)) :=
  all (f.ledger.settles o)

end Office

/-! ### The office of a plant -/

namespace Plant

variable {σ : Type} {p q : Plant σ}

/-- The ledger and the meter of a plant, with what happened so far. -/
def office (h : History) (p : Plant σ) : Office := ⟨h, p.ledger, p.meter⟩

/-- A plant that reads an outcome asks its ledger to settle it. -/
theorem office_settle (h : History) {o : Outcome} {st : Settlement}
    (settled : p.settle = some (q, o, st)) :
    q.office (h ++ (.settled o st :: st.issues)) = (p.office h).ask (.settle o) := by
  unfold settle at settled
  cases read : p.tickets.read? with
  | none => simp [read] at settled
  | some pair =>
    obtain ⟨outcome, tickets⟩ := pair
    simp only [read, Option.bind_eq_bind, Option.bind_some, Option.pure_def] at settled
    cases settled
    rfl

end Plant

/-! ### Units of work in a history -/

def numbered (xs : List Sample) : List Delivery := xs.mapIdx fun i x => ⟨⟨i + 1, 1⟩, x, none⟩

theorem numbered_concat (xs : List Sample) (x : Sample) :
    numbered (xs ++ [x]) = numbered xs ++ [⟨⟨xs.length + 1, 1⟩, x, none⟩] :=
  List.mapIdx_concat

theorem unitIds_numbered (xs : List Sample) :
    (numbered xs).map (·.ticket.unitId) = List.range' 1 xs.length := by
  induction xs using List.reverseRecOn with
  | nil => rfl
  | append_singleton xs x ih =>
    rw [numbered_concat, List.map_append, ih, List.length_append, List.length_singleton,
      List.range'_1_concat, Nat.add_comm 1]
    rfl

theorem samples_numbered (xs : List Sample) : (numbered xs).map (·.sample) = xs := by
  induction xs using List.reverseRecOn with
  | nil => rfl
  | append_singleton xs x ih =>
    rw [numbered_concat, List.map_append, ih]
    rfl

namespace History

def firsts (h : History) : List Delivery := h.deliveries.filter fun d => !d.isRedelivery

/-- The units of work, in the order in which they came in. -/
def units (h : History) : List Nat := h.firsts.map (·.ticket.unitId)

/-- The units that were acknowledged or given up. -/
def closings (h : History) : List Nat :=
  h.filterMap fun
    | .settled o .acked => some o.unitId
    | .settled o (.deadLettered ..) => some o.unitId
    | _ => none

variable (h g : History)

@[simp] theorem firsts_append : (h ++ g).firsts = h.firsts ++ g.firsts := by
  rw [firsts, deliveries_append, List.filter_append]
  rfl

@[simp] theorem units_append : (h ++ g).units = h.units ++ g.units := by
  rw [units, firsts_append, List.map_append]
  rfl

@[simp] theorem closings_append : (h ++ g).closings = h.closings ++ g.closings :=
  List.filterMap_append

theorem firsts_settled (o : Outcome) (st : Settlement) : firsts [.settled o st] = [] := rfl

end History

theorem OpenUnit.firsts_again {u : OpenUnit} (begun : 1 ≤ u.attempt) (i : Nat) (t : Tier) :
    History.firsts [.issued ((u.again t).delivery i)] = [] := by
  have more : ((u.again t).delivery i).isRedelivery = true := decide_eq_true (Nat.lt_succ_of_le begun)
  simp [History.firsts, History.deliveries, more]

/-! ### The books -/

/-- What holds of an office that has made some samples units of work, whatever it was asked to
settle. -/
structure Office.Books (b : RedeliveryBudget) (xs : List Sample) (f : Office) : Prop where
  budget : f.ledger.budget = b
  firsts : f.history.firsts = numbered xs
  next : f.ledger.nextUnit = xs.length + 1
  emitted : f.ledger.emitted = xs.length
  tracked : ∀ {i u}, f.ledger.flight.get? i = some u → i ∈ f.history.units ∧ 1 ≤ u.attempt
  closed : ∀ {i}, i ∈ f.history.closings → i ∈ f.history.units ∧ f.ledger.flight.get? i = none
  once : f.history.closings.Nodup
  balance : f.ledger.emitted = f.ledger.acked + f.ledger.deadLettered + f.ledger.pending
  failures : f.ledger.failed = f.ledger.redelivered + f.ledger.deadLettered

namespace Office.Books

variable {b : RedeliveryBudget} {xs : List Sample} {f : Office}

theorem units_eq (books : f.Books b xs) : f.history.units = List.range' 1 xs.length := by
  rw [History.units, books.firsts, unitIds_numbered]

theorem nextUnit_notMem (books : f.Books b xs) : f.ledger.nextUnit ∉ f.history.units := by
  rw [books.units_eq, List.mem_range'_1, books.next]
  omega

theorem untracked (books : f.Books b xs) : f.ledger.flight.get? f.ledger.nextUnit = none := by
  cases found : f.ledger.flight.get? f.ledger.nextUnit with
  | none => rfl
  | some u => exact absurd (books.tracked found).1 books.nextUnit_notMem

theorem new (b : RedeliveryBudget) (m : Meter) : (Office.new b m).Books b [] where
  budget := rfl
  firsts := rfl
  next := rfl
  emitted := rfl
  tracked found := by cases found
  closed mem := absurd mem List.not_mem_nil
  once := List.nodup_nil
  balance := rfl
  failures := rfl

theorem emit (books : f.Books b xs) (x : Sample) : (f.ask (.emit x)).Books b (xs ++ [x]) := by
  have units : (f.ask (.emit x)).history.units = f.history.units ++ [f.ledger.nextUnit] :=
    History.units_append ..
  have closings : (f.ask (.emit x)).history.closings = f.history.closings :=
    (History.closings_append ..).trans (List.append_nil _)
  have lookup : ∀ {i}, i ≠ f.ledger.nextUnit →
      (f.ask (.emit x)).ledger.flight.get? i = f.ledger.flight.get? i :=
    fun other => OrderedMap.get?_insert_of_ne _ _ other
  constructor
  case budget => exact books.budget
  case firsts =>
    refine (History.firsts_append ..).trans ?_
    rw [books.firsts, numbered_concat, ← books.next]
    rfl
  case next =>
    rw [List.length_append]
    exact congrArg (· + 1) books.next
  case emitted =>
    rw [List.length_append]
    exact congrArg (· + 1) books.emitted
  case tracked =>
    intro i u found
    rw [units]
    by_cases new : i = f.ledger.nextUnit
    · subst new
      cases (OrderedMap.get?_insert_self ..).symm.trans found
      exact ⟨List.mem_append_right _ List.mem_cons_self, Nat.le_refl 1⟩
    · rw [lookup new] at found
      exact ⟨List.mem_append_left _ (books.tracked found).1, (books.tracked found).2⟩
  case closed =>
    intro i mem
    rw [closings] at mem
    obtain ⟨known, gone⟩ := books.closed mem
    rw [units, lookup fun same => books.nextUnit_notMem (same ▸ known)]
    exact ⟨List.mem_append_left _ known, gone⟩
  case once => exact closings.symm ▸ books.once
  case balance =>
    have more : (f.ask (.emit x)).ledger.pending = f.ledger.pending + 1 :=
      OrderedMap.length_insert_of_none _ books.untracked
    have before := books.balance
    change f.ledger.emitted + 1 = f.ledger.acked + f.ledger.deadLettered + _
    omega
  case failures => exact books.failures

private theorem settled (books : f.Books b xs) {l : Ledger} {h : History} {done : List Nat} (m : Meter)
    (budget : l.budget = f.ledger.budget) (next : l.nextUnit = f.ledger.nextUnit)
    (emitted : l.emitted = f.ledger.emitted) (firsts : h.firsts = []) (closings : h.closings = done)
    (alone : done.Nodup)
    (closed : ∀ {i}, i ∈ done → f.ledger.flight.get? i ≠ none ∧ l.flight.get? i = none)
    (tracked : ∀ {i u}, l.flight.get? i = some u → f.ledger.flight.get? i ≠ none ∧ 1 ≤ u.attempt)
    (balance : l.acked + l.deadLettered + l.pending
      = f.ledger.acked + f.ledger.deadLettered + f.ledger.pending)
    (failures : l.failed = l.redelivered + l.deadLettered) :
    Office.Books b xs ⟨f.history ++ h, l, m⟩ := by
  have allFirsts : (f.history ++ h).firsts = f.history.firsts := by
    rw [History.firsts_append, firsts, List.append_nil]
  have allUnits : (f.history ++ h).units = f.history.units :=
    congrArg (List.map fun d : Delivery => d.ticket.unitId) allFirsts
  have allClosings : (f.history ++ h).closings = f.history.closings ++ done := by
    rw [History.closings_append, closings]
  have known : ∀ {i}, f.ledger.flight.get? i ≠ none → i ∈ f.history.units := by
    intro i some
    obtain ⟨u, found⟩ := Option.ne_none_iff_exists'.1 some
    exact (books.tracked found).1
  constructor
  case budget => exact budget.trans books.budget
  case firsts => exact allFirsts.trans books.firsts
  case next => exact next.trans books.next
  case emitted => exact emitted.trans books.emitted
  case tracked =>
    intro i u found
    rw [allUnits]
    exact ⟨known (tracked found).1, (tracked found).2⟩
  case closed =>
    intro i mem
    rw [allClosings] at mem
    rw [allUnits]
    rcases List.mem_append.1 mem with before | now
    · obtain ⟨unit, gone⟩ := books.closed before
      refine ⟨unit, ?_⟩
      -- It was not tracked before, and settling tracks nothing else.
      cases found : l.flight.get? i with
      | none => rfl
      | some u => exact absurd gone (tracked found).1
    · exact ⟨known (closed now).1, (closed now).2⟩
  case once =>
    rw [allClosings]
    -- What is closed now was tracked until now, so it was not closed before.
    refine List.nodup_append.2 ⟨books.once, alone, ?_⟩
    rintro i before _ now rfl
    exact (closed now).1 (books.closed before).2
  case balance => exact (emitted.trans books.balance).trans balance.symm
  case failures => exact failures

private theorem close (books : f.Books b xs) {i : Nat} {u : OpenUnit} {l : Ledger} {h : History}
    (m : Meter) (tracked : f.ledger.flight.get? i = some u)
    (flight : l.flight = f.ledger.flight.erase i) (budget : l.budget = f.ledger.budget)
    (next : l.nextUnit = f.ledger.nextUnit) (emitted : l.emitted = f.ledger.emitted)
    (firsts : h.firsts = []) (closings : h.closings = [i])
    (counts : l.acked + l.deadLettered = f.ledger.acked + f.ledger.deadLettered + 1)
    (failures : l.failed = l.redelivered + l.deadLettered) :
    Office.Books b xs ⟨f.history ++ h, l, m⟩ := by
  refine books.settled m budget next emitted firsts closings (List.nodup_singleton i) ?_ ?_ ?_ failures
  · intro j mem
    rw [List.mem_singleton.1 mem, tracked, flight, OrderedMap.get?_erase_self]
    exact ⟨nofun, rfl⟩
  · intro j v found
    rw [flight] at found
    have before := OrderedMap.get?_of_get?_erase found
    rw [before]
    exact ⟨nofun, (books.tracked before).2⟩
  · have fewer : l.pending + 1 = f.ledger.pending := by
      rw [Ledger.pending, flight]
      exact OrderedMap.length_erase_of_some tracked
    omega

theorem settle (books : f.Books b xs) (o : Outcome) : (f.ask (.settle o)).Books b xs := by
  refine of_settles (P := Office.Books b xs) fun settles => ?_
  cases settles with
  | unknown =>
    refine books.settled _ rfl rfl rfl rfl rfl List.nodup_nil nofun ?_ rfl books.failures
    exact fun found => ⟨by rw [found]; nofun, (books.tracked found).2⟩
  | acked tracked =>
    exact books.close _ tracked rfl rfl rfl rfl rfl rfl (Nat.add_right_comm ..) books.failures
  | spent tracked spent =>
    exact books.close _ tracked rfl rfl rfl rfl rfl rfl rfl (congrArg (· + 1) books.failures)
  | @again i u t reason tracked left =>
    refine books.settled _ rfl rfl rfl ?_ rfl List.nodup_nil nofun ?_ ?_ ?_
    · exact OpenUnit.firsts_again (books.tracked tracked).2 i t
    · intro j v found
      by_cases same : j = i
      · subst same
        cases (OrderedMap.get?_insert_self ..).symm.trans found
        exact ⟨by rw [tracked]; nofun, Nat.le_add_left ..⟩
      · have before := (OrderedMap.get?_insert_of_ne _ _ same).symm.trans found
        exact ⟨by rw [before]; nofun, (books.tracked before).2⟩
    · have same : (f.ledger.flight.insert i (u.again t)).entries.length = f.ledger.pending :=
        OrderedMap.length_insert_of_some _ tracked
      exact congrArg _ same
    · have before := books.failures
      change f.ledger.failed + 1 = f.ledger.redelivered + 1 + f.ledger.deadLettered
      omega

end Office.Books

/-- **Whatever an office is asked, its books are in order.** -/
theorem Office.books (b : RedeliveryBudget) (m : Meter) (rs : List Ledger.Request) :
    (Office.after b m rs).Books b (Ledger.Request.samples rs) := by
  induction rs using List.reverseRecOn with
  | nil => exact .new b m
  | append_singleton rs r ih =>
    rw [Office.after_concat, Ledger.Request.samples, List.filterMap_append]
    cases r with
    | emit x => exact ih.emit x
    | settle o => exact (List.append_nil (Ledger.Request.samples rs)).symm ▸ ih.settle o

end TierCascade
