import TierCascade.Proofs.Office
import TierCascade.Proofs.Runs
/-!
# Where the units of work are

A unit that the ledger tracks is in one place at a time. Either its delivery is under way: then there
is one ticket of the unit, and whoever holds it holds a sample of the delivery that stands in a queue,
is in the hands of a worker, or waits in the loop. Or its outcome is reported: then there is one outcome
of the unit to be read. Of a unit that is not tracked there is nothing (`Plant.Keeps`). So a run asks its
ledger only about units that the ledger knows, and `Run.units_kept` says that it loses none of them
and settles none of them twice.
-/

namespace TierCascade

/-! ### One record a ticket, and a delivery for every unit -/

/-- No ticket has two records, and of every unit that the ledger tracks the last delivery is waited
for. -/
structure Traffic.Kept (h : History) (T : Traffic) : Prop where
  distinct : T.tickets.current.Nodup
  awaited : ∀ {i u}, T.ledger.flight.get? i = some u → T.Awaits h (u.delivery i).ticket

namespace Tickets

variable {ts : Tickets} {k j : Ticket}

theorem current_marked (mark : Option Mark) : (ts.marked k mark).current = ts.current := by
  cases mark with
  | none => rfl
  | some m => exact current_change ts fun _ named => named

theorem current_share : (ts.share k).current = ts.current := current_change ts fun _ named => named

theorem current_read? {ts' : Tickets} {o : Outcome} (read : ts.read? = some (o, ts')) :
    ts'.current = ts.current := by
  unfold read? at read
  split at read
  · cases read
  · cases read
    rfl

theorem held_or_farewell (held : (ts.find? k).isSome = true) (j : Ticket) :
    ((ts.release j).find? k).isSome = true ∨ ∃ o, j = k ∧ ts.farewell k = some o := by
  by_cases same : k = j
  · subst same
    obtain ⟨r, found⟩ := Option.isSome_iff_exists.1 held
    by_cases last : r.holders ≤ 1
    · refine .inr ⟨r.outcome, rfl, ?_⟩
      rw [farewell, found, Option.bind_some, if_pos last]
    · rw [find?_release_of_shared ts found (not_le.1 last)]
      exact .inl rfl
  · rw [find?_release_of_ne ts same]
    exact .inl held

end Tickets

namespace Traffic

variable {s : Settings} {h ds : History} {T T' : Traffic} {k : Ticket}

/-- What is waited for stays so, if nothing is settled and every ticket that is given up reports its
outcome. -/
theorem Awaits.quiet (waits : T.Awaits h k) (settled : h.settlements.length ≤ h.sent.length)
    (settlements : ds.settlements = [])
    (held : (T.tickets.find? k).isSome = true →
      (T'.tickets.find? k).isSome = true ∨ ∃ o, (k, o) ∈ ds.sent) : T'.Awaits (h ++ ds) k := by
  have unsettled : History.unsettled (h ++ ds) = h.unsettled ++ ds.sent := by
    rw [History.unsettled, History.settlements_append, settlements, List.append_nil,
      History.sent_append, List.drop_append_of_le_length settled]
    rfl
  rw [Awaits, unsettled]
  rcases waits with still | ⟨o, before⟩
  · exact (held still).imp_right (Exists.imp fun _ now => List.mem_append_right _ now)
  · exact .inr ⟨o, List.mem_append_left _ before⟩

theorem Kept.release (kept : T.Kept h) (acc : Accounts h T) {ts : Tickets} {j : Ticket} (pre : History)
    (settlements : pre.settlements = []) (ledger : T'.ledger = T.ledger)
    (current : ts.current = T.tickets.current) (tickets : T'.tickets = ts.release j) :
    T'.Kept (h ++ (pre ++ ts.farewells j)) where
  distinct := by
    rw [tickets]
    exact (current ▸ kept.distinct).sublist (ts.current_release j)
  awaited found := by
    rw [ledger] at found
    have noSettlements : (pre ++ ts.farewells j).settlements = [] := by
      rw [History.settlements_append, settlements, Tickets.farewells]
      cases ts.farewell j <;> rfl
    refine (kept.awaited found).quiet acc.settled_le noSettlements fun held => ?_
    rw [Tickets.find?_isSome_iff, ← current, ← Tickets.find?_isSome_iff] at held
    rw [tickets]
    refine (Tickets.held_or_farewell held j).imp_right ?_
    rintro ⟨o, rfl, said⟩
    refine ⟨o, ?_⟩
    rw [History.sent_append, Tickets.sent_farewells, said]
    exact List.mem_append_right _ List.mem_cons_self

theorem Kept.issue (kept : T.Kept h) (acc : Accounts h T) {d : Delivery} {i : Nat} {u : OpenUnit}
    (same : u.delivery i = d) (new : T.tickets.find? d.ticket = none)
    (tickets : T'.tickets = T.tickets.issue d.ticket) (tracked : T'.ledger.flight.get? i = some u)
    (others : ∀ j, j ≠ i → T'.ledger.flight.get? j = T.ledger.flight.get? j) :
    T'.Kept (h ++ [.issued d]) where
  distinct := by
    rw [tickets, Tickets.current_issue, List.nodup_cons, ← Tickets.find?_isSome_iff, new]
    exact ⟨nofun, kept.distinct⟩
  awaited {j v} found := by
    by_cases here : j = i
    · subst here
      cases tracked.symm.trans found
      rw [Awaits, tickets, same, Tickets.find?_issue_self]
      exact .inl rfl
    · rw [others j here] at found
      refine (kept.awaited found).quiet acc.settled_le rfl fun held => .inl ?_
      rw [tickets, Tickets.find?_isSome_iff, Tickets.current_issue]
      exact List.mem_cons_of_mem _ (Tickets.find?_isSome_iff.1 held)

theorem Kept.settled (kept : T.Kept h) {o : Outcome} {k : Ticket} {st : Settlement}
    (read : T.tickets.read? = some (o, T'.tickets)) (head : h.unsettled.head? = some (k, o))
    (flight : T'.ledger.flight = T.ledger.flight.erase k.unitId) : T'.Kept (h ++ [.settled o st]) where
  distinct := Tickets.current_read? read ▸ kept.distinct
  awaited {j v} found := by
    rw [flight] at found
    have other : j ≠ k.unitId := by
      rintro rfl
      rw [OrderedMap.get?_erase_self] at found
      cases found
    -- It waits behind the outcome that was read, or did not wait for one.
    obtain ⟨rest, unsettled⟩ := List.head?_eq_some_iff.1 head
    have left : History.unsettled (h ++ [.settled o st]) = rest := by
      rw [History.unsettled_append_settled, unsettled]
      rfl
    rw [Awaits, left, (Tickets.read?_eq_some read).2]
    refine (kept.awaited (OrderedMap.get?_of_get?_erase found)).imp_right (Exists.imp fun o' waits => ?_)
    rw [unsettled] at waits
    refine (List.mem_cons.1 waits).resolve_left fun first => other ?_
    exact congrArg (fun pair : Ticket × Outcome => pair.1.unitId) first

/-- **Every step keeps every unit in one place.** -/
theorem Step.kept (step : Step s T ds T') (sound : T.Sound s h) (kept : T.Kept h) :
    T'.Kept (h ++ ds) := by
  have new : ∀ d ∈ ds.deliveries, T.tickets.find? d.ticket = none := by
    intro d mem
    have stands := sound.stands d.ticket
    rw [Stands, step.new_of_sound sound d mem] at stands
    exact stands.absent_of_nil.2.2
  obtain ⟨stands, acc⟩ := sound
  cases step with
  | rest =>
    rw [List.append_nil]
    exact kept
  | emit x =>
    exact kept.issue acc (u := ⟨x, 1, none⟩) rfl (new _ List.mem_cons_self) rfl
      (OrderedMap.get?_insert_self ..) fun j other => OrderedMap.get?_insert_of_ne _ _ other
  | @settle heads tails ts ts' l o read =>
    obtain ⟨k, mark, u, -, -, -, outcome, -, tracked, attempt, head⟩ := acc.read stands read
    have about : o.unitId = k.unitId := outcome ▸ k.unitId_outcome mark
    have settles := l.settles o
    generalize (l.settle o).1 = l' at settles ⊢
    generalize (l.settle o).2 = st at settles new ⊢
    cases settles with
    | unknown gone =>
      rw [about] at gone
      cases tracked.symm.trans gone
    | acked =>
      exact kept.settled read head (congrArg l.flight.erase about)
    | spent =>
      exact kept.settled read head (congrArg l.flight.erase about)
    | @again i v t reason known =>
      obtain rfl : i = k.unitId := about
      -- First the ledger forgets the unit, then it hands out the next delivery.
      have closed : Kept (h ++ [.settled (.failed k.unitId t reason)
          (.redeliver ((v.again t).delivery k.unitId) reason)])
          ⟨heads, tails, ts', { l with flight := l.flight.erase k.unitId }⟩ :=
        kept.settled read head rfl
      have books : Accounts (h ++ [.settled (.failed k.unitId t reason)
          (.redeliver ((v.again t).delivery k.unitId) reason)])
          ⟨heads, tails, ts', { l with flight := l.flight.erase k.unitId }⟩ :=
        acc.settled stands read head tracked attempt rfl (OrderedMap.get?_erase_self ..)
          fun j other => OrderedMap.get?_erase_of_ne _ other
      simp only [Settlement.issues]
      rw [List.append_cons]
      refine closed.issue books (u := v.again t) rfl ?_ rfl (OrderedMap.get?_insert_self ..) ?_
      · rw [(Tickets.read?_eq_some read).2]
        exact new _ List.mem_cons_self
      · intro j other
        exact (OrderedMap.get?_insert_of_ne _ _ other).trans (OrderedMap.get?_erase_of_ne _ other).symm
  | hop hop =>
    have silent : ds.settlements = [] := by
      cases hop <;> rfl
    exact ⟨kept.distinct, fun found => (kept.awaited found).quiet acc.settled_le silent .inl⟩
  | branch branch =>
    refine ⟨?_, fun found => (kept.awaited found).quiet acc.settled_le ?_ fun held => .inl ?_⟩
    · exact Tickets.current_share.symm ▸ kept.distinct
    · cases branch
      rfl
    · rwa [Tickets.find?_isSome_share]
  | @halt heads tails ts l d spot e mark halt =>
    refine kept.release acc [e] ?_ rfl (Tickets.current_marked mark) rfl
    cases halt <;> rfl
  | part k => exact kept.release acc [] rfl rfl rfl rfl

theorem Step.known (step : Step s T ds T') (sound : T.Sound s h) (o : Outcome) :
    .settled o .unknown ∉ ds := by
  intro mem
  cases step with
  | rest => cases mem
  | emit x => cases List.mem_singleton.1 mem
  | hop hop =>
    cases hop with
    | skip => cases mem
    | _ => cases List.mem_singleton.1 mem
  | branch branch => cases branch; cases List.mem_singleton.1 mem
  | halt halt =>
    rcases List.mem_cons.1 mem with first | said
    · cases halt <;> cases first
    · cases Tickets.ticket_of_mem_farewells said
  | part k => cases Tickets.ticket_of_mem_farewells mem
  | @settle heads tails ts ts' l o' read =>
    obtain ⟨k, mark, u, -, -, -, outcome, -, tracked, -, -⟩ := sound.accounts.read sound.stands read
    have settles := l.settles o'
    generalize (l.settle o').1 = l' at settles
    generalize (l.settle o').2 = st at settles mem
    cases settles with
    | unknown gone =>
      rw [outcome, k.unitId_outcome mark] at gone
      cases tracked.symm.trans gone
    | acked => cases List.mem_singleton.1 mem
    | spent => cases List.mem_singleton.1 mem
    | again =>
      rcases List.mem_cons.1 mem with first | issued
      · cases first
      · cases List.mem_singleton.1 issued

end Traffic

namespace Run

variable {σ : Type} {s : Settings} {c : Collaborator σ} {h : History} {p : Plant σ}

theorem kept (run : Run s c h p) : p.traffic.Kept h := by
  refine Run.by_turns (P := fun h p => p.traffic.Kept h) ?_ ?_ run
  · intro sinks board now p start
    obtain ⟨-, j, rfl⟩ := Plant.launch_eq_ok start
    exact ⟨List.nodup_nil, nofun⟩
  · intro h p ds q run turn ih
    exact (turn.traffic run.sound.orderly).kept run.sound.traffic ih

theorem known (run : Run s c h p) (o : Outcome) : .settled o .unknown ∉ h := by
  refine Run.by_turns (P := fun h _ => .settled o .unknown ∉ h) ?_ ?_ run
  · intro sinks board now p start
    exact List.not_mem_nil
  · intro h p ds q run turn ih mem
    rcases List.mem_append.1 mem with old | new
    · exact ih old
    · exact (turn.traffic run.sound.orderly).known run.sound.traffic o new

end Run

/-! ### Places -/

namespace Plant

variable {σ : Type} {s : Settings} {h : History} {p : Plant σ}

/-- All who hold a ticket: the samples in queues, in the hands of workers and in the loop, and the
workers that have handed a sample on and not yet let go. -/
def custody (p : Plant σ) : Multiset Ticket := p.heads.map (·.1.ticket) + p.tails

/-- Where a unit of work is. -/
inductive Keeps (p : Plant σ) (i : Nat) : Prop where
  | settled (untracked : p.ledger.flight.get? i = none)
      (unheld : p.tickets.held.filter (·.ticket.unitId = i) = [])
      (unread : p.tickets.outcomes.filter (·.unitId = i) = [])
      (nobody : ∀ k ∈ p.custody, k.unitId ≠ i)
  | underWay {u : OpenUnit} {r : Held} (tracked : p.ledger.flight.get? i = some u)
      (held : p.tickets.held.filter (·.ticket.unitId = i) = [r])
      (ticket : r.ticket = (u.delivery i).ticket)
      (holders : 0 < r.holders ∧ r.holders = p.custody.count r.ticket)
      (only : ∀ k ∈ p.custody, k.unitId = i → k = r.ticket)
      (unread : p.tickets.outcomes.filter (·.unitId = i) = [])
  | reported {u : OpenUnit} {o : Outcome} (tracked : p.ledger.flight.get? i = some u)
      (unheld : p.tickets.held.filter (·.ticket.unitId = i) = [])
      (unread : p.tickets.outcomes.filter (·.unitId = i) = [o])
      (nobody : ∀ k ∈ p.custody, k.unitId ≠ i)

end Plant

theorem Standing.holders_eq {s : Settings} {k : Ticket} {h : History}
    {heads : Multiset (Delivery × Spot)} {n : Nat} {record : Option Held}
    (st : Standing s k h heads n record) : heads.card + n = (record.map Held.holders).getD 0 := by
  cases st with
  | absent => rfl
  | live => exact Nat.add_comm ..
  | ended => exact Nat.zero_add _
  | reported => rfl

theorem Standing.holders_pos {s : Settings} {k : Ticket} {h : History}
    {heads : Multiset (Delivery × Spot)} {n : Nat} {r : Held} (st : Standing s k h heads n (some r)) :
    0 < r.holders := by
  cases st with
  | live => exact Nat.succ_pos _
  | ended => exact Nat.succ_pos _

theorem filter_eq_singleton {α β : Type} {l : List α} {f : α → β} {test : α → Bool} {a : α}
    (distinct : (l.map f).Nodup) (mem : a ∈ l) (holds : test a = true)
    (only : ∀ b ∈ l, test b = true → f b = f a) : l.filter test = [a] := by
  obtain ⟨front, rear, rfl⟩ := List.append_of_mem mem
  rw [List.map_append, List.map_cons, List.nodup_middle, List.nodup_cons, List.mem_append] at distinct
  have before : front.filter test = [] := List.filter_eq_nil_iff.2 fun b there passes =>
    distinct.1 (.inl (only b (List.mem_append_left _ there) passes ▸ List.mem_map_of_mem there))
  have after : rear.filter test = [] := List.filter_eq_nil_iff.2 fun b there passes =>
    distinct.1 (.inr (only b (List.mem_append_right _ (List.mem_cons_of_mem _ there)) passes ▸
      List.mem_map_of_mem there))
  rw [List.filter_append, List.filter_cons_of_pos holds, before, after]
  rfl

namespace Plant

variable {σ : Type} {s : Settings} {h : History} {p : Plant σ} {i : Nat}

/-- The record of a ticket counts all who hold it. -/
theorem Sound.count_custody (sound : p.Sound s h) (k : Ticket) :
    p.custody.count k = ((p.tickets.find? k).map Held.holders).getD 0 := by
  have stands : p.traffic.Stands s h k := sound.traffic.stands k
  have heads : (p.heads.map (·.1.ticket)).count k = (Traffic.headsOf p.heads k).card := by
    rw [Multiset.count_map, Traffic.headsOf]
    simp only [eq_comm]
  rw [custody, Multiset.count_add, heads]
  exact stands.holders_eq

/-- Whatever is waited for is the last delivery of a unit that the ledger tracks. -/
theorem Sound.tracked_of_awaits (sound : p.Sound s h) {k : Ticket} (waits : p.traffic.Awaits h k) :
    ∃ u, p.ledger.flight.get? k.unitId = some u ∧ (u.delivery k.unitId).ticket = k := by
  obtain ⟨u, tracked, attempt⟩ := sound.traffic.accounts.awaits waits
  exact ⟨u, tracked, congrArg (Ticket.mk k.unitId) attempt⟩

theorem Sound.held_of_custody (sound : p.Sound s h) {k : Ticket} (holds : k ∈ p.custody) :
    (p.tickets.find? k).isSome = true := by
  by_contra none
  have count := sound.count_custody k
  rw [Option.not_isSome_iff_eq_none.1 none] at count
  exact absurd holds (Multiset.count_eq_zero.1 count)

theorem Sound.unitId_of_unsettled (sound : p.Sound s h) {k : Ticket} {o : Outcome}
    (waits : (k, o) ∈ h.unsettled) : o.unitId = k.unitId := by
  have said : .sent k o ∈ h := History.mem_sent.1 (List.mem_of_mem_drop waits)
  obtain ⟨-, start, mark, -, -, -, outcome, -⟩ := (sound.traffic.stands k).reported_of_sent said
  exact outcome ▸ k.unitId_outcome mark

theorem Sound.unsettled_of_unread (sound : p.Sound s h) {o : Outcome}
    (unread : o ∈ p.tickets.outcomes) : ∃ k, (k, o) ∈ h.unsettled ∧ o.unitId = k.unitId := by
  have all : h.unsettled.map (·.2) = p.tickets.outcomes := sound.traffic.accounts.unsettled_eq
  rw [← all] at unread
  obtain ⟨⟨k, o⟩, waits, rfl⟩ := List.mem_map.1 unread
  exact ⟨k, waits, sound.unitId_of_unsettled waits⟩

theorem Sound.nobody (sound : p.Sound s h)
    (free : ∀ {k}, (p.tickets.find? k).isSome = true → k.unitId ≠ i) :
    p.tickets.held.filter (·.ticket.unitId = i) = [] ∧ ∀ k ∈ p.custody, k.unitId ≠ i := by
  refine ⟨List.filter_eq_nil_iff.2 fun r there => ?_, fun k holds => free (sound.held_of_custody holds)⟩
  simpa using free (Tickets.find?_isSome_iff.2 (List.mem_map_of_mem there))

theorem Sound.keeps_of_untracked (sound : p.Sound s h) (untracked : p.ledger.flight.get? i = none) :
    p.Keeps i := by
  have free : ∀ {k}, p.traffic.Awaits h k → k.unitId ≠ i := by
    rintro k waits rfl
    obtain ⟨u, found, -⟩ := sound.tracked_of_awaits waits
    cases untracked.symm.trans found
  obtain ⟨unheld, nobody⟩ := sound.nobody fun held => free (.inl held)
  refine .settled untracked unheld (List.filter_eq_nil_iff.2 fun o unread => ?_) nobody
  obtain ⟨k, waits, about⟩ := sound.unsettled_of_unread unread
  simpa [about] using free (.inr ⟨o, waits⟩)

section

variable {u : OpenUnit} (tracked : p.ledger.flight.get? i = some u)

include tracked

theorem Sound.eq_of_awaits (sound : p.Sound s h) {k : Ticket} (waits : p.traffic.Awaits h k)
    (unit : k.unitId = i) : k = (u.delivery i).ticket := by
  subst unit
  obtain ⟨v, found, ticket⟩ := sound.tracked_of_awaits waits
  cases tracked.symm.trans found
  exact ticket.symm

theorem Sound.keeps_of_held (sound : p.Sound s h) (kept : p.traffic.Kept h) {r : Held}
    (found : p.tickets.find? (u.delivery i).ticket = some r) : p.Keeps i := by
  have ticket : r.ticket = (u.delivery i).ticket := Tickets.ticket_of_find? found
  have stands : p.traffic.Stands s h (u.delivery i).ticket := sound.traffic.stands _
  have held : (p.traffic.tickets.find? (u.delivery i).ticket).isSome = true :=
    Option.isSome_of_eq_some found
  refine .underWay tracked ?_ ticket ⟨?_, ?_⟩ ?_ ?_
  · refine filter_eq_singleton kept.distinct (List.mem_of_find?_eq_some found) ?_ ?_
    · simp [ticket, OpenUnit.delivery]
    · intro r' there unit
      rw [ticket]
      refine sound.eq_of_awaits tracked (.inl ?_) (of_decide_eq_true unit)
      exact Tickets.find?_isSome_iff.2 (List.mem_map_of_mem there)
  · rw [Traffic.Stands, show p.traffic.tickets.find? _ = _ from found] at stands
    exact stands.holders_pos
  · rw [sound.count_custody, ticket, found]
    rfl
  · intro k holds unit
    rw [ticket]
    exact sound.eq_of_awaits tracked (.inl (sound.held_of_custody holds)) unit
  · -- An outcome of this unit would have ended the very ticket that is held.
    refine List.filter_eq_nil_iff.2 fun o unread about => ?_
    obtain ⟨k, waits, unit⟩ := sound.unsettled_of_unread unread
    obtain rfl := sound.eq_of_awaits tracked (.inr ⟨o, waits⟩)
      (unit.symm.trans (of_decide_eq_true about))
    exact stands.unsent held o (List.mem_of_mem_drop waits)

theorem Sound.keeps_of_unsettled (sound : p.Sound s h) {o : Outcome}
    (waits : ((u.delivery i).ticket, o) ∈ h.unsettled) : p.Keeps i := by
  have free : ∀ {k}, (p.tickets.find? k).isSome = true → k.unitId ≠ i := by
    intro k held unit
    obtain rfl := sound.eq_of_awaits tracked (.inl held) unit
    exact (sound.traffic.stands _).unsent held o (List.mem_of_mem_drop waits)
  obtain ⟨unheld, nobody⟩ := sound.nobody free
  have all : h.unsettled.map (·.2) = p.tickets.outcomes := sound.traffic.accounts.unsettled_eq
  have distinct : (h.unsettled.map (·.1)).Nodup := by
    rw [History.unsettled, List.map_drop]
    exact sound.traffic.accounts.single.sublist (List.drop_sublist ..)
  refine .reported (o := o) tracked unheld ?_ nobody
  have one : h.unsettled.filter (fun pair => pair.2.unitId = i) = [((u.delivery i).ticket, o)] := by
    refine filter_eq_singleton distinct waits (decide_eq_true (sound.unitId_of_unsettled waits)) ?_
    intro pair there about
    have unit := (sound.unitId_of_unsettled there).symm.trans (of_decide_eq_true about)
    exact sound.eq_of_awaits tracked (.inr ⟨pair.2, there⟩) unit
  rw [← all, List.filter_map]
  exact congrArg (List.map fun pair : Ticket × Outcome => pair.2) one

end

/-- **Every unit of work is in one place.** -/
theorem Sound.keeps (sound : p.Sound s h) (kept : p.traffic.Kept h) (i : Nat) : p.Keeps i := by
  cases tracked : p.ledger.flight.get? i with
  | none => exact sound.keeps_of_untracked tracked
  | some u =>
    rcases kept.awaited tracked with held | ⟨o, waits⟩
    · obtain ⟨r, found⟩ := Option.isSome_iff_exists.1 held
      exact sound.keeps_of_held tracked kept found
    · exact sound.keeps_of_unsettled tracked waits

end Plant

/-! ### What a run asks its ledger -/

namespace History

/-- What was asked of the ledger, and what it answered. -/
def dealings (h : History) : History :=
  h.filter fun
    | .issued _ | .settled .. => true
    | .queued .. | .worked .. | .sent .. => false

variable (h g : History)

@[simp] theorem dealings_append : (h ++ g).dealings = h.dealings ++ g.dealings := List.filter_append ..

theorem dealings_worked (d : Delivery) (t : Tier) (act : Act) (x y : Option SeriesState) :
    dealings (.worked d t act x y :: h) = h.dealings := rfl

theorem deliveries_dealings : h.dealings.deliveries = h.deliveries := by
  rw [deliveries, deliveries, dealings, List.filterMap_filter]
  congr 1
  funext e
  cases e <;> rfl

theorem firsts_dealings : h.dealings.firsts = h.firsts := by
  rw [firsts, deliveries_dealings, firsts]

theorem closings_dealings : h.dealings.closings = h.closings := by
  rw [closings, closings, dealings, List.filterMap_filter]
  congr 1
  funext e
  cases e <;> rfl

theorem inputs_dealings : h.dealings.inputs = h.inputs := by
  rw [inputs, inputs, dealings, List.filterMap_filter]
  congr 1
  funext e
  cases e <;> rfl

theorem inputs_eq : h.inputs = h.firsts.map (·.sample) := by
  rw [inputs, firsts, deliveries, List.filter_filterMap, List.map_filterMap]
  congr 1
  funext e
  cases e with
  | issued d => cases again : d.isRedelivery <;> simp [again, Option.filter]
  | _ => rfl

end History

theorem Ledger.dealings_deeds (l : Ledger) (r : Ledger.Request) : (l.deeds r).dealings = l.deeds r := by
  cases r with
  | emit x => rfl
  | settle o => simp only [deeds]; cases (l.settle o).2 <;> rfl

@[simp] theorem Tickets.dealings_farewells (ts : Tickets) (k : Ticket) :
    (ts.farewells k).dealings = [] := by
  rw [farewells]
  cases ts.farewell k <;> rfl

theorem Tickets.dealings_farewellsAll (ts : Tickets) (ds : List Delivery) :
    (ts.farewellsAll ds).dealings = [] := by
  induction ds generalizing ts with
  | nil => rfl
  | cons d ds ih => rw [farewellsAll, History.dealings_append, dealings_farewells, ih, List.append_nil]

theorem Traffic.Step.asks {s : Settings} {T T' : Traffic} {ds : History} (step : Step s T ds T') :
    (ds.dealings = [] ∧ T'.ledger = T.ledger) ∨
      ∃ r, ds.dealings = T.ledger.deeds r ∧ T'.ledger = T.ledger.after r := by
  cases step with
  | rest => exact .inl ⟨rfl, rfl⟩
  | emit x => exact .inr ⟨.emit x, rfl, rfl⟩
  | settle => exact .inr ⟨.settle _, Ledger.dealings_deeds _ (.settle _), rfl⟩
  | hop hop => exact .inl ⟨by cases hop <;> rfl, rfl⟩
  | branch branch => exact .inl ⟨by cases branch; rfl, rfl⟩
  | halt halt => exact .inl ⟨by cases halt <;> exact Tickets.dealings_farewells .., rfl⟩
  | part k => exact .inl ⟨Tickets.dealings_farewells .., rfl⟩

namespace Run

variable {σ : Type} {s : Settings} {c : Collaborator σ} {h : History} {p : Plant σ}

/-- Whatever happens in a run, its ledger is asked some things one after the other. -/
theorem asks (run : Run s c h p) : ∃ rs, (Office.after s.redelivery .zero rs).history = h.dealings ∧
    (Office.after s.redelivery .zero rs).ledger = p.ledger := by
  refine Run.by_turns (P := fun h p => ∃ rs,
    (Office.after s.redelivery .zero rs).history = h.dealings ∧
      (Office.after s.redelivery .zero rs).ledger = p.ledger) ?_ ?_ run
  · intro sinks board now p start
    obtain ⟨-, j, rfl⟩ := Plant.launch_eq_ok start
    exact ⟨[], rfl, rfl⟩
  · rintro h p ds q run turn ⟨rs, history, ledger⟩
    rw [History.dealings_append]
    rcases (turn.traffic run.sound.orderly).asks with ⟨none, same⟩ | ⟨r, deeds, after⟩
    · refine ⟨rs, ?_, ledger.trans same.symm⟩
      rw [none, List.append_nil, history]
    · refine ⟨rs ++ [r], ?_, ?_⟩
      · rw [Office.after_concat, deeds, ← history]
        exact congrArg (fun l : Ledger => _ ++ l.deeds r) ledger
      · rw [Office.after_concat]
        exact (congrArg (fun l : Ledger => l.after r) ledger).trans after.symm

theorem books (run : Run s c h p) :
    ∃ m, Office.Books s.redelivery h.inputs ⟨h.dealings, p.ledger, m⟩ := by
  obtain ⟨rs, history, ledger⟩ := run.asks
  have books := Office.books s.redelivery .zero rs
  have inputs : h.inputs = Ledger.Request.samples rs := by
    rw [← History.inputs_dealings, ← history, History.inputs_eq, books.firsts, samples_numbered]
  rw [inputs, ← history, ← ledger]
  exact ⟨_, books⟩

end Run

/-! ### What comes in -/

def Action.received : Action → Option Sample
  | receive x => some x
  | _ => none

namespace Plant

variable {σ : Type} (s : Settings) (c : Collaborator σ) (p : Plant σ)

theorem dealings_takeDeeds (t : Tier) (w : Worker) (d : Delivery) :
    (p.takeDeeds t w d).dealings = [] := by
  unfold takeDeeds
  split
  · rfl
  · exact Tickets.dealings_farewells ..

theorem dealings_callDeeds (t : Tier) (w : Worker) (d : Delivery) (a : Aggregate) (sink : Sink) :
    (p.callDeeds s c t w d a sink).dealings = [] := by
  unfold callDeeds
  split
  · rw [History.dealings_worked]
    split
    · rfl
    · exact Tickets.dealings_farewells ..
  · rfl

theorem dealings_closeDeeds (t : Tier) (w : Worker) (d : Delivery) (a : Aggregate) :
    (p.closeDeeds t w d a).dealings = [] := by
  unfold closeDeeds
  rw [History.dealings_worked]
  split
  · rfl
  · exact Tickets.dealings_farewells ..

theorem dealings_forwardDeeds (w : Worker) (d onward : Delivery) (gate : Gate) :
    (p.forwardDeeds s w d onward gate).dealings = [] := by
  unfold forwardDeeds
  split
  · split <;> rfl
  · split <;> exact Tickets.dealings_farewellsAll ..

theorem dealings_workDeeds (t : Tier) (i : Nat) : (p.workDeeds s c t i).dealings = [] := by
  cases here : p.worker? t i with
  | none => rw [workDeeds, here]; rfl
  | some w =>
    rw [workDeeds, here]
    dsimp only
    cases w.activity with
    | stopped => rfl
    | idle =>
      rcases w.queue with - | ⟨d | _, rest⟩
      · rfl
      · exact p.dealings_takeDeeds t w d
      · exact Tickets.dealings_farewellsAll ..
    | storing d a => exact p.dealings_callDeeds ..
    | notifying d a => exact p.dealings_callDeeds ..
    | closing d a => exact p.dealings_closeDeeds ..
    | forwarding d onward gate => exact p.dealings_forwardDeeds ..
    | parting d => exact Tickets.dealings_farewells ..

theorem follow_keeps {s : Settings} {c : Collaborator σ} {P : History → List Sample → Plant σ → Prop}
    {fine : Action → Prop}
    (keeps : ∀ {h xs p a q}, fine a → p.step s c a = some q → P h xs p →
      P (h ++ p.deeds s c a) (xs ++ a.received.toList) q)
    {as : List Action} (all : ∀ a ∈ as, fine a) {h h' : History} {xs : List Sample} {p q : Plant σ}
    (moves : follow s c as (h, p) = some (h', q)) (holds : P h xs p) :
    P h' (xs ++ as.filterMap Action.received) q := by
  induction as generalizing h xs p with
  | nil =>
    cases moves
    rwa [List.filterMap_nil, List.append_nil]
  | cons a as ih =>
    rw [follow] at moves
    cases move : p.step s c a with
    | none =>
      rw [move] at moves
      cases moves
    | some mid =>
      rw [move] at moves
      have first := keeps (all a List.mem_cons_self) move holds
      have last := ih (fun b mem => all b (List.mem_cons_of_mem a mem)) moves first
      cases received : a.received with
      | none => simpa [received] using last
      | some x => simpa [received] using last

theorem dealings_deeds {a : Action} (receive : a.received = none) (settle : a ≠ .settle) :
    (p.deeds s c a).dealings = [] := by
  cases a with
  | receive x => cases receive
  | settle => exact absurd rfl settle
  | wake i =>
    simp only [deeds]
    split
    · split
      · rfl
      · exact Tickets.dealings_farewells ..
    · rfl
  | enter =>
    simp only [deeds]
    split
    · rfl
    · split
      · rfl
      · exact Tickets.dealings_farewells ..
  | interrupt => exact Tickets.dealings_farewellsAll ..
  | finish => exact Tickets.dealings_farewellsAll ..
  | work t i => exact p.dealings_workDeeds s c t i
  | _ => rfl

theorem inputs_deeds {p : Plant σ} {b : RedeliveryBudget} {xs : List Sample} {h : History} {m : Meter}
    (books : Office.Books b xs ⟨h, p.ledger, m⟩) (a : Action) :
    (p.deeds s c a).inputs = a.received.toList := by
  by_cases settle : a = .settle
  · subst settle
    -- A delivery that is issued again is not the first one.
    simp only [deeds]
    cases settled : p.settle with
    | none => rfl
    | some result =>
      obtain ⟨q, o, st⟩ := result
      obtain ⟨tickets, meter, journal, read, rfl, -⟩ := settle_eq_some settled
      have settles := p.ledger.settles o
      generalize (p.ledger.settle o).1 = l at settles
      generalize (p.ledger.settle o).2 = st at settles ⊢
      cases settles with
      | again known =>
        rw [History.inputs_eq]
        exact congrArg _ (OpenUnit.firsts_again (books.tracked known).2 _ _)
      | _ => rfl
  · cases received : a.received with
    | none =>
      rw [← History.inputs_dealings, p.dealings_deeds s c received settle]
      rfl
    | some x =>
      cases a with
      | receive y =>
        cases received
        rfl
      | _ => cases received

end Plant

namespace Run

variable {σ : Type} {s : Settings} {c : Collaborator σ} {h : History} {p : Plant σ}

theorem inputs_deeds (run : Run s c h p) (a : Action) :
    (p.deeds s c a).inputs = a.received.toList := by
  obtain ⟨m, books⟩ := run.books
  exact Plant.inputs_deeds s c books a

theorem inputs_follow {as : List Action} (calm : ∀ a ∈ as, a.disturbs = false) {h' : History}
    {q : Plant σ} (run : Run s c h p) (moves : Plant.follow s c as (h, p) = some (h', q)) :
    h'.inputs = h.inputs ++ as.filterMap Action.received := by
  refine (Plant.follow_keeps (P := fun h xs p => Run s c h p ∧ h.inputs = xs) ?_ calm moves
    ⟨run, rfl⟩).2
  rintro h xs p a q calm move ⟨run, rfl⟩
  refine ⟨run.step calm move, ?_⟩
  rw [History.inputs_append, run.inputs_deeds]

end Run

/-- **No unit of work is lost, and none is settled twice.** All along an undisturbed run every unit is
in one place, and every ticket is held by those who hold its samples. Whatever is settled is known; a
unit is acknowledged or given up at most once, and only after it came in. The samples that came in have
become units of work once each, numbered in order. Once the run has drained no unit is in flight:
all of them were acknowledged or given up. -/
theorem Run.units_kept {σ : Type} {s : Settings} {c : Collaborator σ} {sinks : σ} {board : Board}
    {now : Int} {start : Plant σ} {as : List Action} {h : History} {p : Plant σ}
    (launched : Plant.launch s sinks board now = .ok start) (calm : ∀ a ∈ as, a.disturbs = false)
    (moves : Plant.follow s c as ([], start) = some (h, p)) :
    (∀ i, p.Keeps i) ∧
      (∀ k, p.custody.count k = ((p.tickets.find? k).map Held.holders).getD 0) ∧
      (∀ o, .settled o .unknown ∉ h) ∧ h.closings.Nodup ∧ (∀ i ∈ h.closings, i ∈ h.units) ∧
      h.firsts = numbered (as.filterMap Action.received) ∧
      p.ledger.emitted = (as.filterMap Action.received).length ∧
      (p.loop.exit = some .drained →
        p.ledger.pending = 0 ∧ p.ledger.emitted = p.ledger.acked + p.ledger.deadLettered) := by
  have run : Run s c h p := Run.follow calm (.launch launched) moves
  have inputs : h.inputs = as.filterMap Action.received :=
    Run.inputs_follow calm (.launch launched) moves
  obtain ⟨m, books⟩ := run.books
  rw [inputs] at books
  refine ⟨run.sound.keeps run.kept, run.sound.count_custody, run.known, ?_, fun i closed => ?_, ?_,
    books.emitted, fun drained => ?_⟩
  · rw [← h.closings_dealings]
    exact books.once
  · rw [← h.closings_dealings] at closed
    have unit := (books.closed closed).1
    rwa [History.units, h.firsts_dealings] at unit
  · rw [← h.firsts_dealings]
    exact books.firsts
  · obtain ⟨-, settled⟩ := run.settled_of_drained drained
    have balance := books.balance
    rw [settled] at balance
    exact ⟨settled, balance⟩

/-- In the short run both samples become units of work, and both are settled in the end, though the
second one had to be delivered twice. -/
theorem units_kept_trial :
    (∀ i, Trial.final.Keeps i) ∧
      Trial.history.firsts = numbered [Trial.sample 0, Trial.sample 1000] ∧
      Trial.history.closings = [1, 2] ∧ Trial.history.deliveries.length = 3 ∧
      Trial.final.ledger.pending = 0 ∧
      Trial.final.ledger.emitted = Trial.final.ledger.acked + Trial.final.ledger.deadLettered := by
  have launched : Plant.launch Trial.settings (.new Trial.rules) ⟨.empty, true⟩ 0
      = .ok (Trial.start Trial.settings Trial.rules) := by rfl
  have calm : ∀ a ∈ Trial.actions, a.disturbs = false := by decide
  have drained : Trial.final.loop.exit = some .drained := by decide +kernel
  obtain ⟨keeps, -, -, -, -, firsts, -, settled⟩ :=
    Run.units_kept launched calm (Option.some_get Trial.reach_isSome).symm
  exact ⟨keeps, firsts, by decide +kernel, by decide +kernel, settled drained⟩

end TierCascade
