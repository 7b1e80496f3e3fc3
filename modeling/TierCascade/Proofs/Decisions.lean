import Mathlib.Order.Lattice
import TierCascade.Proofs.Office
/-!
# What the ledger answers

The ledger keeps of a unit of work its sample, a number and a tier. `UnitFile.decision` answers
without the ledger: it looks at the sample with which the unit came in and at all outcomes of the unit
that were settled since, and at nothing else. `Office.decided_by_file` says that this is what the ledger
answers, whatever it was asked about this unit and about others.
-/

namespace TierCascade

/-- What is on file about a unit of work: its sample, and the outcomes of it since it came in, oldest
first. -/
structure UnitFile where
  sample : Sample
  past : List Outcome

namespace UnitFile

def failures (f : UnitFile) : List Tier :=
  f.past.filterMap fun
    | .failed _ t _ => some t
    | .acked _ => none

def isAcked (f : UnitFile) : Bool :=
  f.past.any fun
    | .acked _ => true
    | .failed .. => false

/-- Whether the unit is settled: it was acknowledged, or as many deliveries have failed as its budget
allows. One delivery is made in any case. -/
def isSettled (b : RedeliveryBudget) (f : UnitFile) : Bool :=
  f.isAcked || decide (max 1 b.attempts ≤ f.failures.length)

/-- What has to be answered to an outcome, given what is on file about its unit. A delivery that failed
is followed by another one of the same sample, which has to reach the coarsest tier that has failed
so far, until the budget is spent. -/
def decision (b : RedeliveryBudget) : Option UnitFile → Outcome → Settlement
  | none, _ => .unknown
  | some f, .acked _ => if f.isSettled b then .unknown else .acked
  | some f, .failed i t reason =>
    -- The failure at hand counts too.
    let failures := f.failures ++ [t]
    if f.isSettled b then .unknown
    else if failures.length < max 1 b.attempts then
      .redeliver ⟨⟨i, failures.length + 1⟩, f.sample, failures.max?⟩ reason
    else .deadLettered i failures.length f.sample.series reason

def add (f : UnitFile) (o : Outcome) : UnitFile := { f with past := f.past ++ [o] }

/-- What the ledger keeps of a unit. -/
def entry (b : RedeliveryBudget) (f : UnitFile) : Option OpenUnit :=
  if f.isSettled b then none else some ⟨f.sample, f.failures.length + 1, f.failures.max?⟩

end UnitFile

def Deed.opens (i : Nat) : Deed → Option Sample
  | issued d => if d.ticket = ⟨i, 1⟩ then some d.sample else none
  | _ => none

def History.file (i : Nat) : History → Option UnitFile
  | [] => none
  | e :: h =>
    match e.opens i with
    | some x => some ⟨x, (settlements h).filter fun o => o.unitId = i⟩
    | none => file i h

/-! ### Files -/

theorem Deed.opens_eq_some {e : Deed} {i : Nat} {x : Sample} :
    e.opens i = some x ↔ ∃ d, e = .issued d ∧ d.ticket = ⟨i, 1⟩ ∧ d.sample = x := by
  cases e with
  | issued d =>
    by_cases first : d.ticket = ⟨i, 1⟩
    · simp [opens, first]
    · simp [opens, first]
  | _ => simp [opens]

namespace History

variable {h g : History} {i : Nat} {f : UnitFile}

theorem file_eq_none_iff : h.file i = none ↔ ∀ d ∈ h.deliveries, d.ticket ≠ ⟨i, 1⟩ := by
  induction h with
  | nil => exact ⟨fun _ d mem => absurd mem List.not_mem_nil, fun _ => rfl⟩
  | cons e h ih =>
    rw [file]
    cases opened : e.opens i with
    | some x =>
      obtain ⟨d, rfl, first, -⟩ := Deed.opens_eq_some.1 opened
      exact ⟨nofun, fun none => absurd first (none d List.mem_cons_self)⟩
    | none =>
      have later : ∀ d, e = .issued d → d.ticket ≠ ⟨i, 1⟩ := by
        rintro d rfl first
        rw [Deed.opens, if_pos first] at opened
        cases opened
      refine ih.trans ⟨fun rest d mem => ?_, fun all d mem => ?_⟩
      · rcases List.mem_cons.1 (mem_deliveries.1 mem) with here | there
        · exact later d here.symm
        · exact rest d (mem_deliveries.2 there)
      · exact all d (mem_deliveries.2 (List.mem_cons_of_mem e (mem_deliveries.1 mem)))

theorem file_append_of_none (none : h.file i = none) : (h ++ g).file i = g.file i := by
  induction h with
  | nil => rfl
  | cons e h ih =>
    rw [file] at none
    rw [List.cons_append, file]
    cases opened : e.opens i with
    | some x => rw [opened] at none; cases none
    | none =>
      rw [opened] at none
      exact ih none

theorem file_append_of_some (some : h.file i = some f) :
    (h ++ g).file i
      = .some { f with past := f.past ++ g.settlements.filter fun o => o.unitId = i } := by
  induction h with
  | nil => cases some
  | cons e h ih =>
    rw [file] at some
    rw [List.cons_append, file]
    cases opened : e.opens i with
    | some x =>
      rw [opened] at some
      cases some
      simp only [settlements_append, List.filter_append]
    | none =>
      rw [opened] at some
      exact ih some

theorem file_append_issued {d : Delivery} (other : d.ticket ≠ ⟨i, 1⟩) :
    (h ++ [Deed.issued d]).file i = h.file i := by
  cases found : h.file i with
  | none =>
    rw [file_append_of_none found, file_eq_none_iff]
    intro e mem
    rw [List.mem_singleton.1 mem]
    exact other
  | some f =>
    rw [file_append_of_some found]
    simp [settlements]

theorem file_append_settled (o : Outcome) (st : Settlement) :
    (h ++ [Deed.settled o st]).file i
      = (h.file i).map fun f => if o.unitId = i then f.add o else f := by
  cases found : h.file i with
  | none => rw [file_append_of_none found]; rfl
  | some f =>
    rw [file_append_of_some found]
    by_cases same : o.unitId = i
    · simp [settlements, UnitFile.add, same]
    · simp [settlements, same]

end History

/-! ### One more outcome on a file -/

theorem max?_concat (ts : List Tier) (t : Tier) : (ts ++ [t]).max? = some (coarserReplay ts.max? t) := by
  have coarser : ∀ s : Tier, s.coarser t = max s t := fun s => by
    rw [Tier.coarser, max_def]
    by_cases finer : s < t
    · rw [if_pos finer, if_pos (le_of_lt finer)]
    · rcases lt_or_eq_of_le (not_lt.1 finer) with above | rfl
      · rw [if_neg finer, if_neg (not_le.2 above)]
      · simp
  cases ts with
  | nil => rfl
  | cons s ts =>
    rw [List.cons_append, List.max?_cons', List.max?_cons', List.foldl_append]
    exact congrArg some (coarser _).symm

namespace UnitFile

variable {b : RedeliveryBudget} {f : UnitFile}

theorem failures_add (f : UnitFile) (i : Nat) (t : Tier) (reason : String) :
    (f.add (.failed i t reason)).failures = f.failures ++ [t] :=
  List.filterMap_append

theorem isSettled_add (settled : f.isSettled b = true) (o : Outcome) :
    (f.add o).isSettled b = true := by
  rw [isSettled, Bool.or_eq_true, decide_eq_true_iff] at settled ⊢
  refine settled.imp (fun acked => ?_) fun failed => ?_
  · rw [isAcked, add, List.any_append, Bool.or_eq_true]
    exact .inl acked
  · rw [failures, add, List.filterMap_append, List.length_append]
    exact Nat.le_add_right_of_le failed

theorem isSettled_eq_false :
    f.isSettled b = false ↔ f.isAcked = false ∧ f.failures.length < max 1 b.attempts := by
  rw [isSettled, Bool.or_eq_false_iff, decide_eq_false_iff_not, Nat.not_le]

theorem entry_eq_some {u : OpenUnit} : f.entry b = some u ↔
    f.isSettled b = false ∧ u = ⟨f.sample, f.failures.length + 1, f.failures.max?⟩ := by
  unfold entry
  cases f.isSettled b <;> simp [eq_comm]

theorem entry_eq_none : f.entry b = none ↔ f.isSettled b = true := by
  unfold entry
  cases f.isSettled b <;> simp

theorem entry_add_acked (f : UnitFile) (i : Nat) : (f.add (.acked i)).entry b = none := by
  have acked : (f.add (.acked i)).isAcked = true := by simp [isAcked, add]
  rw [entry, isSettled, acked, Bool.true_or, if_pos rfl]

theorem entry_add_spent (spent : b.attempts ≤ f.failures.length + 1) (i : Nat) (t : Tier)
    (reason : String) : (f.add (.failed i t reason)).entry b = none := by
  have all : max 1 b.attempts ≤ (f.add (.failed i t reason)).failures.length := by
    rw [failures_add, List.length_append]
    exact Nat.max_le.2 ⟨Nat.le_add_left .., spent⟩
  rw [entry, isSettled, decide_eq_true all, Bool.or_true, if_pos rfl]

theorem entry_add_again (unsettled : f.isSettled b = false) (left : f.failures.length + 1 < b.attempts)
    (i : Nat) (t : Tier) (reason : String) : (f.add (.failed i t reason)).entry b
      = some (OpenUnit.again ⟨f.sample, f.failures.length + 1, f.failures.max?⟩ t) := by
  have failures := failures_add f i t reason
  refine entry_eq_some.2 ⟨isSettled_eq_false.2 ⟨?_, ?_⟩, ?_⟩
  · have before := (isSettled_eq_false.1 unsettled).1
    rw [isAcked] at before
    rw [isAcked, add, List.any_append, before]
    rfl
  · rw [failures, List.length_append]
    exact Nat.lt_of_lt_of_le left (Nat.le_max_right ..)
  · rw [failures, List.length_append, max?_concat]
    rfl

end UnitFile

/-! ### The ledger keeps what the files say -/

/-- The ledger tracks the units that are not settled, and keeps of each what follows from its file. -/
def Office.Filed (b : RedeliveryBudget) (f : Office) : Prop :=
  ∀ i, f.ledger.flight.get? i = (f.history.file i).bind (UnitFile.entry b)

namespace Office

variable {b : RedeliveryBudget} {xs : List Sample} {f : Office}

theorem Filed.of_tracked (filed : f.Filed b) {i : Nat} {u : OpenUnit}
    (tracked : f.ledger.flight.get? i = some u) : ∃ g, f.history.file i = some g ∧
      g.isSettled b = false ∧ u = ⟨g.sample, g.failures.length + 1, g.failures.max?⟩ := by
  rw [filed, Option.bind_eq_some_iff] at tracked
  obtain ⟨g, found, kept⟩ := tracked
  exact ⟨g, found, UnitFile.entry_eq_some.1 kept⟩

theorem Filed.of_untracked (filed : f.Filed b) {i : Nat} (gone : f.ledger.flight.get? i = none)
    {g : UnitFile} (found : f.history.file i = some g) : g.isSettled b = true := by
  rw [filed, found] at gone
  exact UnitFile.entry_eq_none.1 gone

theorem Books.file_isSome_iff (books : f.Books b xs) (i : Nat) :
    (f.history.file i).isSome = true ↔ i ∈ f.history.units := by
  have firsts : ∀ d : Delivery, d ∈ f.history.firsts → d.ticket.attempt = 1 := by
    intro d mem
    rw [books.firsts, numbered] at mem
    obtain ⟨n, -, rfl⟩ := List.mem_mapIdx.1 mem
    rfl
  constructor
  · intro filed
    obtain ⟨d, mem, first⟩ : ∃ d ∈ f.history.deliveries, d.ticket = ⟨i, 1⟩ := by
      by_contra none
      rw [History.file_eq_none_iff.2 fun d mem first => none ⟨d, mem, first⟩] at filed
      cases filed
    refine List.mem_map.2 ⟨d, List.mem_filter.2 ⟨mem, ?_⟩, ?_⟩
    · simp [Delivery.isRedelivery, first]
    · rw [first]
  · intro unit
    obtain ⟨d, mem, rfl⟩ := List.mem_map.1 unit
    rw [← Option.ne_none_iff_isSome, Ne, History.file_eq_none_iff]
    intro none
    exact none d (List.mem_filter.1 mem).1 (congrArg (Ticket.mk _) (firsts d mem))

theorem Filed.emit (filed : f.Filed b) (books : f.Books b xs) (x : Sample) :
    (f.ask (.emit x)).Filed b := by
  intro i
  change (f.ledger.flight.insert f.ledger.nextUnit ⟨x, 1, none⟩).get? i
    = (History.file i (f.history ++ [.issued ⟨⟨f.ledger.nextUnit, 1⟩, x, none⟩])).bind _
  by_cases new : i = f.ledger.nextUnit
  · subst new
    have unheard : f.history.file f.ledger.nextUnit = none := by
      rw [← Option.not_isSome_iff_eq_none, books.file_isSome_iff]
      exact books.nextUnit_notMem
    rw [OrderedMap.get?_insert_self, History.file_append_of_none unheard]
    simp [History.file, Deed.opens, History.settlements, UnitFile.entry, UnitFile.isSettled,
      UnitFile.isAcked, UnitFile.failures]
  · rw [OrderedMap.get?_insert_of_ne _ _ new, History.file_append_issued, filed]
    exact fun same => new (congrArg Ticket.unitId same).symm

/-- An outcome is settled: the entry of its unit follows from the file with this outcome on it. -/
private theorem Filed.settled (filed : f.Filed b) {l : Ledger} {j : Nat} {o : Outcome}
    (about : o.unitId = j) (st : Settlement)
    (others : ∀ i, i ≠ j → l.flight.get? i = f.ledger.flight.get? i)
    (own : l.flight.get? j = ((f.history.file j).map fun g => g.add o).bind (UnitFile.entry b))
    (i : Nat) :
    l.flight.get? i = (History.file i (f.history ++ [.settled o st])).bind (UnitFile.entry b) := by
  rw [History.file_append_settled, about]
  by_cases same : j = i
  · subst same
    rw [own]
    simp only [if_true]
  · rw [others i (Ne.symm same), filed]
    simp only [same, if_false, Option.map_id_fun', id]

private theorem Filed.again (filed : f.Filed b) {l : Ledger} {m : Meter} {h : History} {j : Nat}
    {u : OpenUnit} {t : Tier} {reason : String} {st : Settlement}
    (tracked : f.ledger.flight.get? j = some u) (left : u.attempt < b.attempts)
    (flight : l.flight = f.ledger.flight.insert j (u.again t))
    (history : h = f.history ++ [.settled (.failed j t reason) st] ++ [.issued ((u.again t).delivery j)]) :
    Office.Filed b ⟨h, l, m⟩ := by
  intro i
  obtain ⟨g, found, unsettled, rfl⟩ := filed.of_tracked tracked
  change l.flight.get? i = (h.file i).bind (UnitFile.entry b)
  rw [history, History.file_append_issued (by simp [OpenUnit.delivery, OpenUnit.again])]
  refine filed.settled (j := j) rfl st (fun j other => ?_) ?_ i
  · rw [flight, OrderedMap.get?_insert_of_ne _ _ other]
  · rw [flight, OrderedMap.get?_insert_self, found]
    exact (UnitFile.entry_add_again unsettled left j t reason).symm

theorem Filed.settle (filed : f.Filed b) (books : f.Books b xs) (o : Outcome) :
    (f.ask (.settle o)).Filed b := by
  refine of_settles (P := Filed b) fun settles => ?_
  cases settles with
  | unknown gone =>
    refine filed.settled rfl _ (fun _ _ => rfl) ?_
    rw [gone]
    cases found : f.history.file o.unitId with
    | none => rfl
    | some g =>
      -- The outcome goes on file, but what is settled stays settled.
      have settled := UnitFile.isSettled_add (filed.of_untracked gone found) o
      exact (UnitFile.entry_eq_none.2 settled).symm
  | @acked j u tracked =>
    obtain ⟨g, found, -, -⟩ := filed.of_tracked tracked
    refine filed.settled (j := j) rfl _ (fun _ other => OrderedMap.get?_erase_of_ne _ other) ?_
    rw [found]
    exact (OrderedMap.get?_erase_self ..).trans (g.entry_add_acked j).symm
  | @spent j u t reason tracked spent =>
    obtain ⟨g, found, -, rfl⟩ := filed.of_tracked tracked
    rw [books.budget] at spent
    refine filed.settled (j := j) rfl _ (fun _ other => OrderedMap.get?_erase_of_ne _ other) ?_
    rw [found]
    exact (OrderedMap.get?_erase_self ..).trans (UnitFile.entry_add_spent spent j t reason).symm
  | again tracked left =>
    rw [books.budget] at left
    exact filed.again tracked left rfl (List.append_cons ..)

theorem filed (b : RedeliveryBudget) (m : Meter) (rs : List Ledger.Request) :
    (after b m rs).Filed b := by
  induction rs using List.reverseRecOn with
  | nil => exact fun i => rfl
  | append_singleton rs r ih =>
    rw [after_concat]
    cases r with
    | emit x => exact ih.emit (books b m rs) x
    | settle o => exact ih.settle (books b m rs) o

/-- Where the entries follow from the files, so do the answers. -/
theorem Filed.settle_eq (filed : f.Filed b) (budget : f.ledger.budget = b) (o : Outcome) :
    (f.ledger.settle o).2 = UnitFile.decision b (f.history.file o.unitId) o := by
  have settles := f.ledger.settles o
  generalize (f.ledger.settle o).1 = l at settles
  generalize (f.ledger.settle o).2 = st at settles ⊢
  cases settles with
  | unknown gone =>
    cases found : f.history.file o.unitId with
    | none => rfl
    | some g =>
      have settled := filed.of_untracked gone found
      cases o <;> simp [UnitFile.decision, settled]
  | acked tracked =>
    obtain ⟨g, found, unsettled, -⟩ := filed.of_tracked tracked
    rw [Outcome.unitId, found, UnitFile.decision, unsettled]
    rfl
  | spent tracked spent =>
    obtain ⟨g, found, unsettled, rfl⟩ := filed.of_tracked tracked
    rw [budget] at spent
    have none : ¬ g.failures.length + 1 < max 1 b.attempts := by
      simp only [Nat.not_lt, Nat.max_le]
      exact ⟨Nat.le_add_left .., spent⟩
    simp only [Outcome.unitId, found, UnitFile.decision, unsettled, List.length_append,
      List.length_singleton, none, Bool.false_eq_true, if_false]
  | @again j u t reason tracked more =>
    obtain ⟨g, found, unsettled, rfl⟩ := filed.of_tracked tracked
    rw [budget] at more
    have some : g.failures.length + 1 < max 1 b.attempts :=
      Nat.lt_of_lt_of_le more (Nat.le_max_right ..)
    simp only [Outcome.unitId, found, UnitFile.decision, unsettled, List.length_append,
      List.length_singleton, some, Bool.false_eq_true, if_false, if_true, max?_concat]
    rfl

theorem settle_unknown {f : Office} {o : Outcome} (unknown : (f.ledger.settle o).2 = .unknown) :
    (f.ask (.settle o)).ledger = f.ledger ∧
      ∀ c, c ≠ .inFlight → (f.ask (.settle o)).meter.read c = f.meter.read c := by
  have settles := f.ledger.settles o
  generalize left : (f.ledger.settle o).1 = l at settles
  rw [unknown] at settles
  cases settles with
  | unknown gone =>
    refine ⟨left, fun c other => ?_⟩
    have none : f.ledger.counters (.settle o) = [] := by
      rw [Ledger.counters, unknown]
      rfl
    rw [ask, none]
    exact Meter.read_set_of_ne _ _ other

/-- **The ledger answers by what is on file.** Whatever was asked before: the units that came in are
numbered in order, no two alike, and there is a file about each of them and about nothing else. The
answer to any outcome follows from the file of its unit, no matter what became of other units; and
an outcome that is unknown leaves all units as they are, and all counters. -/
theorem decided_by_file (b : RedeliveryBudget) (m : Meter) (rs : List Ledger.Request) :
    let f := after b m rs
    f.history.firsts = numbered (Ledger.Request.samples rs) ∧ f.history.units.Nodup ∧
      (∀ i, (f.history.file i).isSome = true ↔ i ∈ f.history.units) ∧
      ∀ o, (f.ledger.settle o).2 = UnitFile.decision b (f.history.file o.unitId) o ∧
        ((f.ledger.settle o).2 = .unknown → (f.ask (.settle o)).ledger = f.ledger ∧
          ∀ c, c ≠ .inFlight → (f.ask (.settle o)).meter.read c = f.meter.read c) := by
  intro f
  have books : f.Books b (Ledger.Request.samples rs) := books b m rs
  have distinct : f.history.units.Nodup := by
    rw [books.units_eq]
    exact List.nodup_range'
  refine ⟨books.firsts, distinct, books.file_isSome_iff, fun o => ⟨?_, settle_unknown⟩⟩
  exact (filed b m rs).settle_eq books.budget o

/-- The coarsest tier that has failed is not forgotten when a finer one fails. -/
example (m : Meter) (x : Sample) :
    let f := after ⟨3, 0⟩ m [.emit x, .settle (.failed 1 .minute "late")]
    (f.ledger.settle (.failed 1 .raw "late")).2 = .redeliver ⟨⟨1, 3⟩, x, some .minute⟩ "late" := rfl

end Office

end TierCascade
