import TierCascade.Proofs.Holders
import TierCascade.Proofs.Settling
/-!
# The accounts of the ledger

The ledger tracks a unit of work exactly as long as a delivery of it is under way or its outcome
waits to be settled, and what it tracks is the last delivery (`Accounts`). So an outcome, which names
the unit only, is always settled for the delivery that it ended, and every delivery has its warrant.
-/

namespace TierCascade

/-- The outcomes that are not settled yet. -/
def History.unsettled (h : History) : List (Ticket × Outcome) := h.sent.drop h.settlements.length

theorem History.unsettled_append_settled (h : History) (o : Outcome) (st : Settlement) :
    History.unsettled (h ++ [.settled o st]) = h.unsettled.tail := by
  have sent : History.sent (h ++ [.settled o st]) = h.sent := by
    rw [History.sent_append]
    exact List.append_nil _
  have settlements : History.settlements (h ++ [.settled o st]) = h.settlements ++ [o] := by
    rw [History.settlements_append]
    rfl
  rw [unsettled, unsettled, sent, settlements, List.length_append, List.length_singleton,
    List.tail_drop]

/-- A delivery is still waited for: its ticket is held, or its outcome is not settled yet. -/
def Traffic.Awaits (h : History) (T : Traffic) (k : Ticket) : Prop :=
  (T.tickets.find? k).isSome = true ∨ ∃ o, (k, o) ∈ h.unsettled

structure Accounts (h : History) (T : Traffic) : Prop where
  channel : h.outcomes = h.settlements ++ T.tickets.outcomes
  single : (h.sent.map (·.1)).Nodup
  known : ∀ d ∈ h.deliveries, d.ticket.unitId < T.ledger.nextUnit
  flight : ∀ {i u}, T.ledger.flight.get? i = some u → i < T.ledger.nextUnit ∧
    u.delivery i ∈ h.deliveries ∧ ∀ d ∈ h.deliveries, d.ticket.unitId = i → d.ticket.attempt ≤ u.attempt
  awaits : ∀ {k}, T.Awaits h k → ∃ u, T.ledger.flight.get? k.unitId = some u ∧ u.attempt = k.attempt
  warranted : ∀ d ∈ h.deliveries, h.Warrants d

/-! ### Steps that settle nothing -/

namespace Tickets

variable {ts : Tickets} {k j : Ticket}

theorem find?_isSome_of_release (held : ((ts.release k).find? j).isSome = true) :
    (ts.find? j).isSome = true := by
  by_cases same : j = k
  · subst same
    cases found : ts.find? j with
    | some r => rfl
    | none =>
      rw [release, found] at held
      simp [found] at held
  · rwa [find?_release_of_ne ts same] at held

theorem find?_isSome_marked (mark : Option Mark) :
    ((ts.marked k mark).find? j).isSome = (ts.find? j).isSome := by
  cases mark with
  | none => rfl
  | some m =>
    by_cases same : j = k
    · subst same
      rw [marked, find?_fail_self, Option.isSome_map]
    · rw [marked, find?_fail_of_ne ts _ _ same]

theorem find?_isSome_share : ((ts.share k).find? j).isSome = (ts.find? j).isSome := by
  by_cases same : j = k
  · subst same
    rw [find?_share_self, Option.isSome_map]
  · rw [find?_share_of_ne ts same]

@[simp] theorem outcomes_marked (mark : Option Mark) : (ts.marked k mark).outcomes = ts.outcomes := by
  cases mark <;> rfl

theorem sent_farewells : (ts.farewells k).sent = (ts.farewell k).toList.map fun o => (k, o) := by
  rw [farewells]
  cases ts.farewell k <;> rfl

@[simp] theorem deliveries_farewells : (ts.farewells k).deliveries = [] := by
  rw [farewells]
  cases ts.farewell k <;> rfl

theorem held_of_farewell {o : Outcome} (said : ts.farewell k = some o) :
    (ts.find? k).isSome = true := by
  unfold farewell at said
  cases found : ts.find? k with
  | some r => rfl
  | none => rw [found] at said; cases said

end Tickets

namespace Accounts

variable {s : Settings} {h ds : History} {T T' : Traffic}

theorem settled_le (acc : Accounts h T) : h.settlements.length ≤ h.sent.length := by
  have same := congrArg List.length acc.channel
  rw [History.outcomes, List.length_map, List.length_append] at same
  omega

theorem quiet (acc : Accounts h T) (stands : ∀ k, T.Stands s h k) (deliveries : ds.deliveries = [])
    (settlements : ds.settlements = []) (ledger : T'.ledger = T.ledger)
    (reported : T'.tickets.outcomes = T.tickets.outcomes ++ ds.outcomes)
    (held : ∀ {k}, (T'.tickets.find? k).isSome = true → (T.tickets.find? k).isSome = true)
    (said : ∀ {k o}, (k, o) ∈ ds.sent → (T.tickets.find? k).isSome = true)
    (once : (ds.sent.map (·.1)).Nodup) : Accounts (h ++ ds) T' where
  channel := by
    rw [History.outcomes_append, History.settlements_append, settlements, List.append_nil, reported,
      acc.channel, List.append_assoc]
  single := by
    rw [History.sent_append, List.map_append]
    refine List.nodup_append.2 ⟨acc.single, once, ?_⟩
    rintro k old k' new rfl
    obtain ⟨⟨_, o⟩, before, rfl⟩ := List.mem_map.1 old
    obtain ⟨⟨_, o'⟩, now, rfl⟩ := List.mem_map.1 new
    exact (stands _).unsent (said now) o before
  known d mem := by
    rw [History.deliveries_append, deliveries, List.append_nil] at mem
    rw [ledger]
    exact acc.known d mem
  flight found := by
    rw [ledger] at found ⊢
    rw [History.deliveries_append, deliveries, List.append_nil]
    exact acc.flight found
  awaits waits := by
    rw [ledger]
    apply acc.awaits
    rcases waits with still | ⟨o, unsettled⟩
    · exact .inl (held still)
    · rw [History.unsettled, History.settlements_append, settlements, List.append_nil,
        History.sent_append, List.drop_append_of_le_length acc.settled_le] at unsettled
      rcases List.mem_append.1 unsettled with before | now
      · exact .inr ⟨o, before⟩
      · exact .inl (said now)
  warranted d mem := by
    rw [History.deliveries_append, deliveries, List.append_nil] at mem
    exact (acc.warranted d mem).mono ds

theorem release (acc : Accounts h T) (stands : ∀ k, T.Stands s h k) {ts : Tickets} {k : Ticket}
    (pre : History) (deliveries : pre.deliveries = []) (settlements : pre.settlements = [])
    (silent : pre.sent = []) (ledger : T'.ledger = T.ledger)
    (outcomes : ts.outcomes = T.tickets.outcomes)
    (same : ∀ j, (ts.find? j).isSome = (T.tickets.find? j).isSome)
    (tickets : T'.tickets = ts.release k) : Accounts (h ++ (pre ++ ts.farewells k)) T' := by
  have noSettlements : (ts.farewells k).settlements = [] := by
    rw [Tickets.farewells]
    cases ts.farewell k <;> rfl
  have sent : (pre ++ ts.farewells k).sent = (ts.farewell k).toList.map fun o => (k, o) := by
    rw [History.sent_append, silent, Tickets.sent_farewells]
    rfl
  refine acc.quiet stands ?_ ?_ ledger ?_ ?_ ?_ ?_
  · rw [History.deliveries_append, deliveries, Tickets.deliveries_farewells]
    rfl
  · rw [History.settlements_append, settlements, noSettlements]
    rfl
  · rw [tickets, Tickets.outcomes_release, outcomes, History.outcomes, sent, List.map_map]
    exact congrArg _ (List.map_id _).symm
  · intro j still
    rw [tickets] at still
    rw [← same j]
    exact Tickets.find?_isSome_of_release still
  · intro j o said
    rw [sent] at said
    obtain ⟨o', there, shape⟩ := List.mem_map.1 said
    cases shape
    rw [← same]
    exact Tickets.held_of_farewell (Option.mem_toList.1 there)
  · rw [sent]
    cases ts.farewell k with
    | none => exact List.nodup_nil
    | some o => exact List.nodup_singleton _

theorem issue (acc : Accounts h T) {d : Delivery} {u : OpenUnit} {i : Nat} (same : u.delivery i = d)
    (tickets : T'.tickets = T.tickets.issue d.ticket) (units : T.ledger.nextUnit ≤ T'.ledger.nextUnit)
    (inside : i < T'.ledger.nextUnit) (tracked : T'.ledger.flight.get? i = some u)
    (others : ∀ j, j ≠ i → T'.ledger.flight.get? j = T.ledger.flight.get? j)
    (free : T.ledger.flight.get? i = none)
    (last : ∀ e ∈ h.deliveries, e.ticket.unitId = i → e.ticket.attempt ≤ u.attempt)
    (warrant : h.Warrants d) : Accounts (h ++ [.issued d]) T' where
  channel := by
    rw [History.outcomes_append, History.settlements_append, tickets]
    simpa [History.outcomes, History.sent, History.settlements] using acc.channel
  single := by
    rw [History.sent_append]
    simpa [History.sent] using acc.single
  known e mem := by
    rw [History.deliveries_append] at mem
    rcases List.mem_append.1 mem with old | new
    · exact lt_of_lt_of_le (acc.known e old) units
    · rw [List.mem_singleton.1 new, ← same]
      exact inside
  flight {j v} found := by
    rw [History.deliveries_append]
    by_cases here : j = i
    · subst here
      rw [tracked] at found
      cases found
      refine ⟨inside, List.mem_append_right _ (same ▸ List.mem_cons_self), ?_⟩
      intro e mem unit
      rcases List.mem_append.1 mem with old | new
      · exact last e old unit
      · rw [List.mem_singleton.1 new, ← same]
        exact le_refl _
    · rw [others j here] at found
      obtain ⟨below, current, latest⟩ := acc.flight found
      refine ⟨lt_of_lt_of_le below units, List.mem_append_left _ current, ?_⟩
      intro e mem unit
      rcases List.mem_append.1 mem with old | new
      · exact latest e old unit
      · rw [List.mem_singleton.1 new, ← same] at unit
        exact absurd unit.symm here
  awaits {k} waits := by
    by_cases ticket : k = d.ticket
    · refine ⟨u, ?_, ?_⟩
      · rw [ticket, ← same]
        exact tracked
      · rw [ticket, ← same]
        rfl
    · have before : T.Awaits h k := by
        rcases waits with held | ⟨o, unsettled⟩
        · rw [tickets, Tickets.find?_issue_of_ne _ ticket] at held
          exact .inl held
        · rw [History.unsettled, History.sent_append, History.settlements_append] at unsettled
          exact .inr ⟨o, by simpa [History.unsettled, History.sent, History.settlements] using unsettled⟩
      obtain ⟨v, found, attempt⟩ := acc.awaits before
      -- What was waited for before was tracked, and of this unit the ledger tracked nothing.
      have apart : k.unitId ≠ i := by
        intro unit
        rw [unit, free] at found
        cases found
      exact ⟨v, (others _ apart).trans found, attempt⟩
  warranted e mem := by
    rw [History.deliveries_append] at mem
    rcases List.mem_append.1 mem with old | new
    · exact (acc.warranted e old).mono _
    · rw [List.mem_singleton.1 new]
      exact warrant.mono _

theorem unsettled_eq (acc : Accounts h T) : h.unsettled.map (·.2) = T.tickets.outcomes := by
  rw [History.unsettled, List.map_drop]
  change h.outcomes.drop _ = _
  rw [acc.channel, List.drop_left]

/-- What is settled next is the outcome of the delivery that the ledger tracks. -/
theorem read (acc : Accounts h T) (stands : ∀ k, T.Stands s h k) {o : Outcome} {ts : Tickets}
    (read : T.tickets.read? = some (o, ts)) :
    ∃ k mark u h', Ended s (u.delivery k.unitId) mark h' ∧ (∀ e ∈ h', e ∈ h) ∧ o = k.outcome mark ∧
      .sent k o ∈ h ∧ T.ledger.flight.get? k.unitId = some u ∧ u.attempt = k.attempt ∧
      h.unsettled.head? = some (k, o) := by
  have first : h.unsettled.map (·.2) = o :: ts.outcomes :=
    acc.unsettled_eq.trans (Tickets.read?_eq_some read).1
  cases head : h.unsettled with
  | nil => rw [head] at first; cases first
  | cons pair rest =>
    obtain ⟨k, o'⟩ := pair
    rw [head] at first
    obtain rfl : o' = o := (List.cons.inj first).1
    have mem : (k, o') ∈ h.unsettled := head ▸ List.mem_cons_self
    have said : .sent k o' ∈ h := History.mem_sent.1 (List.mem_of_mem_drop mem)
    obtain ⟨-, start, mark, h', ended, ticket, outcome, here⟩ := (stands k).reported_of_sent said
    -- The outcome waits, so the ledger tracks its unit; there is one delivery under each ticket, so it
    -- tracks the delivery that ended.
    obtain ⟨u, tracked, attempt⟩ := acc.awaits (.inr ⟨o', mem⟩ : T.Awaits h k)
    have current : u.delivery k.unitId = start := by
      have inside : start ∈ (h.of k).deliveries := by
        rw [here, History.deliveries_append, ended.deliveries_eq]
        exact List.mem_append_left _ List.mem_cons_self
      refine (stands k).eq_of_ticket (acc.flight tracked).2.1 (History.mem_deliveries_of.1 inside).1 ?_
        ticket
      rw [OpenUnit.delivery, attempt]
    have sub : ∀ e ∈ h', e ∈ h := fun e mem =>
      (History.mem_of.1 (here ▸ List.mem_append_left _ mem)).1
    exact ⟨k, mark, u, h', current ▸ ended, sub, outcome, said, tracked, attempt, rfl⟩

/-- Once the first outcome is read, no other delivery of its unit is waited for, so it does not matter
that the ledger forgets the unit. -/
theorem unitId_ne_of_awaits (acc : Accounts h T) (stands : ∀ k, T.Stands s h k) {o : Outcome}
    {k j : Ticket} {u : OpenUnit} {rest : List (Ticket × Outcome)}
    (unsettled : h.unsettled = (k, o) :: rest) (tracked : T.ledger.flight.get? k.unitId = some u)
    (attempt : u.attempt = k.attempt)
    (waits : (T.tickets.find? j).isSome = true ∨ ∃ o', (j, o') ∈ rest) :
    T.Awaits h j ∧ j.unitId ≠ k.unitId := by
  have before : T.Awaits h j :=
    waits.imp_right fun ⟨o', there⟩ => ⟨o', unsettled ▸ List.mem_cons_of_mem _ there⟩
  refine ⟨before, fun unit => ?_⟩
  obtain ⟨v, found, version⟩ := acc.awaits before
  rw [unit, tracked] at found
  cases found
  have same : j = k := by
    obtain ⟨unitId, number⟩ := j
    obtain ⟨unitId', number'⟩ := k
    simp only at unit attempt version
    rw [unit, ← version, attempt]
  subst same
  have first : (j, o) ∈ h.unsettled := unsettled ▸ List.mem_cons_self
  rcases waits with still | ⟨o', there⟩
  · exact (stands j).unsent still o (List.mem_of_mem_drop first)
  · have nodup : (h.unsettled.map (·.1)).Nodup := by
      rw [History.unsettled, List.map_drop]
      exact acc.single.sublist (List.drop_sublist ..)
    rw [unsettled, List.map_cons, List.nodup_cons] at nodup
    exact nodup.1 (List.mem_map.2 ⟨_, there, rfl⟩)

theorem settled (acc : Accounts h T) (stands : ∀ k, T.Stands s h k) {o : Outcome} {k : Ticket}
    {u : OpenUnit} {st : Settlement} (read : T.tickets.read? = some (o, T'.tickets))
    (head : h.unsettled.head? = some (k, o)) (tracked : T.ledger.flight.get? k.unitId = some u)
    (attempt : u.attempt = k.attempt) (units : T'.ledger.nextUnit = T.ledger.nextUnit)
    (gone : T'.ledger.flight.get? k.unitId = none)
    (others : ∀ j, j ≠ k.unitId → T'.ledger.flight.get? j = T.ledger.flight.get? j) :
    Accounts (h ++ [.settled o st]) T' := by
  obtain ⟨rest, unsettled⟩ := List.head?_eq_some_iff.1 head
  obtain ⟨waiting, held⟩ := Tickets.read?_eq_some read
  have sent : History.sent (h ++ [.settled o st]) = h.sent := by
    rw [History.sent_append]
    exact List.append_nil _
  have deliveries : History.deliveries (h ++ [.settled o st]) = h.deliveries := by
    rw [History.deliveries_append]
    exact List.append_nil _
  have settlements : History.settlements (h ++ [.settled o st]) = h.settlements ++ [o] := by
    rw [History.settlements_append]
    rfl
  have left : History.unsettled (h ++ [.settled o st]) = rest := by
    rw [History.unsettled_append_settled, unsettled]
    rfl
  constructor
  case channel =>
    rw [History.outcomes, sent, settlements, List.append_assoc, List.singleton_append, ← waiting]
    exact acc.channel
  case single => rw [sent]; exact acc.single
  case known =>
    intro d mem
    rw [units]
    exact acc.known d (deliveries ▸ mem)
  case flight =>
    intro j v found
    rw [units, deliveries]
    by_cases here : j = k.unitId
    · rw [here, gone] at found
      cases found
    · rw [others j here] at found
      exact acc.flight found
  case awaits =>
    intro j waits
    rw [Traffic.Awaits, left, held] at waits
    obtain ⟨before, other⟩ := acc.unitId_ne_of_awaits stands unsettled tracked attempt waits
    obtain ⟨v, found, version⟩ := acc.awaits before
    exact ⟨v, (others _ other).trans found, version⟩
  case warranted =>
    intro d mem
    exact (acc.warranted d (deliveries ▸ mem)).mono _

end Accounts

/-! ### Settling -/

structure Traffic.Sound (s : Settings) (h : History) (T : Traffic) : Prop where
  stands : ∀ k, T.Stands s h k
  accounts : Accounts h T

namespace Accounts

variable {s : Settings} {h : History} {heads : Multiset (Delivery × Spot)} {tails : Multiset Ticket}
  {ts ts' : Tickets} {l : Ledger}

theorem emit (acc : Accounts h ⟨heads, tails, ts, l⟩) (x : Sample)
    (heads' : Multiset (Delivery × Spot)) :
    Accounts (h ++ [.issued (l.emit x).2])
      ⟨heads', tails, ts.issue (l.emit x).2.ticket, (l.emit x).1⟩ := by
  have free : l.flight.get? l.nextUnit = none := by
    cases found : l.flight.get? l.nextUnit with
    | none => rfl
    | some u => exact absurd (acc.flight found).1 (lt_irrefl _)
  have unknown : ∀ e ∈ h.deliveries, e.ticket.unitId ≠ l.nextUnit := fun e there same =>
    lt_irrefl _ (same ▸ acc.known e there)
  refine acc.issue (u := ⟨x, 1, none⟩) (i := l.nextUnit) rfl rfl (Nat.le_succ _) (Nat.lt_succ_self _)
    (OrderedMap.get?_insert_self ..) (fun j other => OrderedMap.get?_insert_of_ne _ _ other) free
    (fun e there unit => absurd unit (unknown e there)) ⟨le_refl 1, ?_, nofun, nofun⟩
  intro j positive below
  exact absurd below (not_lt.2 positive)

theorem settle (acc : Accounts h ⟨heads, tails, ts, l⟩)
    (stands : ∀ k, Traffic.Stands s h ⟨heads, tails, ts, l⟩ k) {o : Outcome}
    (read : ts.read? = some (o, ts')) (heads' : Multiset (Delivery × Spot)) :
    Accounts (h ++ (.settled o (l.settle o).2 :: (l.settle o).2.issues))
      ⟨heads', tails, (l.settle o).2.reissue ts', (l.settle o).1⟩ := by
  obtain ⟨k, mark, u, h', ended, sub, outcome, said, tracked, attempt, head⟩ := acc.read stands read
  have about : o.unitId = k.unitId := outcome ▸ k.unitId_outcome mark
  have settles := l.settles o
  generalize (l.settle o).1 = l' at settles ⊢
  generalize (l.settle o).2 = st at settles ⊢
  cases settles with
  | unknown gone =>
    rw [about] at gone
    cases tracked.symm.trans gone
  | acked =>
    obtain rfl := about
    exact acc.settled stands read head tracked attempt rfl (OrderedMap.get?_erase_self ..)
      fun j other => OrderedMap.get?_erase_of_ne _ other
  | spent =>
    obtain rfl := about
    exact acc.settled stands read head tracked attempt rfl (OrderedMap.get?_erase_self ..)
      fun j other => OrderedMap.get?_erase_of_ne _ other
  | @again i v t reason known =>
    obtain rfl : i = k.unitId := about
    obtain rfl : v = u := Option.some.inj (known.symm.trans tracked)
    have current := (acc.flight tracked).2.1
    have latest := (acc.flight tracked).2.2
    -- First the ledger forgets the unit, then it hands out the next delivery.
    have closed : Accounts (h ++ [.settled (.failed k.unitId t reason)
          (.redeliver ((v.again t).delivery k.unitId) reason)])
        ⟨heads, tails, ts', { l with flight := l.flight.erase k.unitId }⟩ :=
      acc.settled stands read head tracked attempt rfl (OrderedMap.get?_erase_self ..)
        fun j other => OrderedMap.get?_erase_of_ne _ other
    have warrant : h.Warrants ((v.again t).delivery k.unitId) := by
      cases mark with
      | none => cases outcome
      | some m =>
        cases outcome
        have named : (v.delivery k.unitId).ticket = k := by rw [OpenUnit.delivery, attempt]
        exact (acc.warranted _ current).next current ended sub (named.symm ▸ said)
    simp only [Settlement.issues]
    rw [List.append_cons]
    refine closed.issue (u := v.again t) (i := k.unitId) rfl rfl (le_refl _) (acc.flight tracked).1
      (OrderedMap.get?_insert_self ..) (fun j other => ?_) (OrderedMap.get?_erase_self ..)
      (fun e there unit => ?_) (warrant.mono _)
    · exact (OrderedMap.get?_insert_of_ne _ _ other).trans (OrderedMap.get?_erase_of_ne _ other).symm
    · rw [History.deliveries_append] at there
      rcases List.mem_append.1 there with old | none
      · exact (latest e old unit).trans (Nat.le_succ _)
      · cases none

end Accounts

namespace Traffic

variable {s : Settings} {h ds : History} {T T' : Traffic}

theorem Step.new_of_sound (step : Step s T ds T') (sound : T.Sound s h) :
    ∀ d ∈ ds.deliveries, h.of d.ticket = [] := by
  obtain ⟨stands, acc⟩ := sound
  intro d mem
  apply (stands _).of_eq_nil
  cases step with
  | rest => cases mem
  | hop hop => cases hop <;> cases mem
  | branch branch => cases branch; cases mem
  | halt halt =>
    cases halt <;> exact absurd (Tickets.deliveries_farewells ▸ mem) List.not_mem_nil
  | part k => exact absurd (Tickets.deliveries_farewells ▸ mem) List.not_mem_nil
  | @emit _ _ _ l x =>
    obtain rfl := List.mem_singleton.1 mem
    intro e there same
    have below := acc.known e there
    rw [same] at below
    exact lt_irrefl _ below
  | @settle _ _ _ _ l o read =>
    obtain ⟨k, mark, u, h', -, -, outcome, -, tracked, -, -⟩ := acc.read stands read
    have about : o.unitId = k.unitId := outcome ▸ k.unitId_outcome mark
    have settles := l.settles o
    generalize (l.settle o).1 = l' at settles
    generalize (l.settle o).2 = st at settles mem
    cases settles with
    | @again i v t reason known =>
      obtain rfl : i = k.unitId := about
      obtain rfl : v = u := Option.some.inj (known.symm.trans tracked)
      obtain rfl := List.mem_singleton.1 mem
      -- The next delivery bears a greater number than all that were made of the unit.
      intro e there same
      have unit : e.ticket.unitId = k.unitId := by
        rw [same]
        rfl
      have below := (acc.flight tracked).2.2 e there unit
      rw [same] at below
      exact Nat.not_succ_le_self _ below
    | _ => cases mem

/-- **Every step keeps tickets and accounts in order.** -/
theorem Step.sound (step : Step s T ds T') (sound : T.Sound s h) : T'.Sound s (h ++ ds) := by
  have new := step.new_of_sound sound
  refine ⟨fun k => step.stands new (sound.stands k), ?_⟩
  obtain ⟨stands, acc⟩ := sound
  cases step with
  | rest =>
    rw [List.append_nil]
    exact acc
  | emit x => exact acc.emit x _
  | settle read => exact acc.settle stands read _
  | hop hop =>
    have quiet : ds.deliveries = [] ∧ ds.settlements = [] ∧ ds.sent = [] := by
      cases hop <;> exact ⟨rfl, rfl, rfl⟩
    obtain ⟨deliveries, settlements, sent⟩ := quiet
    refine acc.quiet stands deliveries settlements rfl ?_ id ?_ ?_
    · rw [History.outcomes, sent]
      exact (List.append_nil _).symm
    · intro k o said
      rw [sent] at said
      cases said
    · rw [sent]
      exact List.nodup_nil
  | branch branch =>
    refine acc.quiet stands ?_ ?_ rfl ?_ (fun held => by rwa [Tickets.find?_isSome_share] at held) ?_ ?_
    all_goals cases branch
    · rfl
    · rfl
    · exact (List.append_nil _).symm
    · intro k o said
      cases said
    · exact List.nodup_nil
  | @halt heads tails ts l d spot e mark halt =>
    refine acc.release stands [e] ?_ ?_ ?_ rfl (Tickets.outcomes_marked mark)
      (fun j => Tickets.find?_isSome_marked mark) rfl
    all_goals cases halt <;> rfl
  | part k => exact acc.release stands [] rfl rfl rfl rfl rfl (fun _ => rfl) rfl

/-- Once the ledger tracks nothing, no sample is on its way and every outcome is settled. -/
theorem Sound.at_rest (sound : T.Sound s h) (settled : T.ledger.pending = 0) :
    T.heads = 0 ∧ h.outcomes = h.settlements ∧
      ∀ d ∈ h.deliveries, ∃ o, (h.of d.ticket).outcomes = [o] := by
  have idle : ∀ {k}, ¬ T.Awaits h k := by
    intro k waits
    obtain ⟨u, found, -⟩ := sound.accounts.awaits waits
    rw [OrderedMap.get?_of_length_eq_zero settled] at found
    cases found
  have free : ∀ k, T.tickets.find? k = none := fun k => by
    cases found : T.tickets.find? k with
    | none => rfl
    | some r => exact absurd (.inl (by rw [found]; rfl)) (idle (k := k))
  refine ⟨?_, ?_, ?_⟩
  · apply Multiset.eq_zero_of_forall_notMem
    rintro ⟨d, spot⟩ there
    -- A sample on its way holds its ticket.
    obtain ⟨rest, heads⟩ := Multiset.exists_cons_of_mem there
    have stands := sound.stands d.ticket
    rw [Stands, heads, ← Multiset.singleton_add, headsOf_add_self rfl] at stands
    obtain ⟨-, held, -⟩ := stands.live_of_head
    rw [free] at held
    cases held
  · have channel := sound.accounts.channel
    cases waiting : T.tickets.outcomes with
    | nil => rwa [waiting, List.append_nil] at channel
    | cons o rest =>
      have read : T.tickets.read? = some (o, { T.tickets with outcomes := rest }) := by
        rw [Tickets.read?, waiting]
      obtain ⟨k, mark, u, h', -, -, -, -, tracked, -, -⟩ := sound.accounts.read sound.stands read
      rw [OrderedMap.get?_of_length_eq_zero settled] at tracked
      cases tracked
  · intro d there
    have stands := sound.stands d.ticket
    have issued : .issued d ∈ h.of d.ticket :=
      History.mem_of.2 ⟨History.mem_deliveries.1 there, rfl⟩
    rw [Stands, free] at stands
    generalize here : h.of d.ticket = own at stands issued
    generalize count : T.tails.count d.ticket = n at stands
    generalize found : headsOf T.heads d.ticket = heads at stands
    cases stands with
    | absent => cases issued
    | @reported start mark _ ended =>
      refine ⟨d.ticket.outcome mark, ?_⟩
      rw [History.outcomes_append, ended.outcomes_eq_nil]
      rfl

end Traffic

end TierCascade
