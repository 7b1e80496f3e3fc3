import TierCascade.Proofs.Course
/-!
# Why a delivery is made

With every delivery goes its warrant: what happened to the deliveries of the unit before it, and why
it has to reach the tier that it has to reach. In particular each tier short of that one has let the
unit through before because its window had passed. `History.Warrants.next` says that a delivery that
fails leaves the next one with a warrant.
-/

namespace TierCascade

/-- An earlier delivery of the unit moved on from a tier because its window had passed, at the same
timestamp. -/
def History.ClosedBefore (h : History) (d : Delivery) (t : Tier) : Prop :=
  ∃ e a before after, .worked e t (.looked a .closed) before after ∈ h ∧
    e.ticket.unitId = d.ticket.unitId ∧ e.ticket.attempt < d.ticket.attempt ∧
    e.sample.series = d.sample.series ∧ a.timestamp = d.sample.timestamp

/-- Every earlier attempt to deliver a unit was made with the same sample and failed at a tier that
the delivery has to reach. -/
def History.FailedBefore (h : History) (d : Delivery) : Prop :=
  ∀ j, 1 ≤ j → j < d.ticket.attempt → ∃ e ∈ h.deliveries, e.ticket = ⟨d.ticket.unitId, j⟩ ∧
    e.sample = d.sample ∧ ∃ g reason target, .sent e.ticket (.failed d.ticket.unitId g reason) ∈ h ∧
      d.replay = some target ∧ g ≤ target

/-- The warrant of a delivery: why it is made and why it has to reach the tier it has to reach. -/
structure History.Warrants (h : History) (d : Delivery) : Prop where
  attempt : 1 ≤ d.ticket.attempt
  earlier : h.FailedBefore d
  target : ∀ {t}, d.replay = some t → ∃ e ∈ h.deliveries, e.ticket.unitId = d.ticket.unitId ∧
    e.ticket.attempt < d.ticket.attempt ∧
    ∃ reason, .sent e.ticket (.failed e.ticket.unitId t reason) ∈ h
  closed : ∀ {t}, Stage.replays t d.replay = true → h.ClosedBefore d t

def OpenUnit.delivery (u : OpenUnit) (unitId : Nat) : Delivery :=
  ⟨⟨unitId, u.attempt⟩, u.sample, u.replay⟩

namespace History

variable {h : History} {d : Delivery} {t : Tier}

theorem ClosedBefore.mono (ds : History) (closed : h.ClosedBefore d t) : (h ++ ds).ClosedBefore d t := by
  obtain ⟨e, a, before, after, there, rest⟩ := closed
  exact ⟨e, a, before, after, List.mem_append_left ds there, rest⟩

theorem Warrants.mono (ds : History) (w : h.Warrants d) : (h ++ ds).Warrants d where
  attempt := w.attempt
  earlier j positive below := by
    obtain ⟨e, there, ticket, sample, g, reason, target, said, rest⟩ := w.earlier j positive below
    rw [deliveries_append]
    exact ⟨e, List.mem_append_left _ there, ticket, sample, g, reason, target,
      List.mem_append_left ds said, rest⟩
  target needed := by
    obtain ⟨e, there, unit, earlier, reason, said⟩ := w.target needed
    rw [deliveries_append]
    exact ⟨e, List.mem_append_left _ there, unit, earlier, reason, List.mem_append_left ds said⟩
  closed forced := (w.closed forced).mono ds

end History

/-- What moves on from a tier does so because its window has passed or because it has to. -/
theorem Ended.closed_or_replays {s : Settings} {start : Delivery} {mark : Option Mark} {h : History}
    (ended : Ended s start mark h) {t : Tier} (passed : h.Passed s start t) :
    (∃ e a before after, .worked e t (.looked a .closed) before after ∈ h ∧ e.Like start ∧
      a.Of start.sample) ∨ Stage.replays t start.replay = true := by
  obtain ⟨-, a, v, looks, moves⟩ := passed
  obtain ⟨e, r, before, after, there⟩ := History.mem_looks.1 (looks ▸ List.mem_singleton_self (a, v))
  obtain ⟨mem, here⟩ := History.mem_within.1 there
  cases here
  have like := ended.like_of_mem mem
  obtain ⟨made, old, new, -, -, rule⟩ := ended.lawful_of_mem mem
  cases v with
  | kept => exact absurd rfl moves
  | closed => exact .inl ⟨e, a, before, after, mem, like, made.of_like like⟩
  | replayed =>
    have forced := rule.replays_of_replayed
    rw [like.replay] at forced
    exact .inr forced

/-- A delivery that failed was let through by every tier before. -/
theorem Fate.passed_of_failed {s : Settings} {start : Delivery} {h : History} {i : Nat} {t : Tier}
    {reason : String} (fate : Fate s start h (.failed i t reason)) {g : Tier} (finer : g < t) :
    h.Passed s start g := by
  cases fate with
  | broke _ _ _ passed => exact passed g finer

theorem Fate.finite_of_failed {s : Settings} {start : Delivery} {h : History} {i : Nat} {t : Tier}
    {reason : String} (fate : Fate s start h (.failed i t reason)) :
    start.sample.value.isFinite = true := by
  cases fate with
  | broke finite => exact finite

/-- The warrant of the next delivery of a unit follows from that of the one that failed. -/
theorem History.Warrants.next {s : Settings} {h h' : History} {u : OpenUnit} {i : Nat} {m : Mark}
    (w : h.Warrants (u.delivery i)) (current : u.delivery i ∈ h.deliveries)
    (ended : Ended s (u.delivery i) (some m) h') (sub : ∀ e ∈ h', e ∈ h)
    (said : .sent (u.delivery i).ticket (.failed i m.tier m.reason) ∈ h) :
    h.Warrants (OpenUnit.delivery ⟨u.sample, u.attempt + 1, some (coarserReplay u.replay m.tier)⟩ i) where
  attempt := Nat.le_add_left ..
  earlier j positive below := by
    rcases Nat.lt_succ_iff_lt_or_eq.1 below with before | rfl
    · obtain ⟨e, there, ticket, sample, g, reason, target, failed, needed, finer⟩ :=
        w.earlier j positive before
      exact ⟨e, there, ticket, sample, g, reason, _, failed, rfl,
        le_trans finer (target_le_coarserReplay needed m.tier)⟩
    · exact ⟨u.delivery i, current, rfl, rfl, m.tier, m.reason, _, said, rfl,
        le_coarserReplay u.replay m.tier⟩
  target needed := by
    cases needed
    rcases coarserReplay_cases u.replay m.tier with now | before
    · rw [now]
      exact ⟨u.delivery i, current, rfl, Nat.lt_succ_self _, m.reason, said⟩
    · obtain ⟨e, there, unit, earlier, reason, failed⟩ := w.target before
      exact ⟨e, there, unit, Nat.lt_succ_of_lt earlier, reason, failed⟩
  closed {t} forced := by
    have older : ∀ {t}, h.ClosedBefore (u.delivery i) t → h.ClosedBefore
        (OpenUnit.delivery ⟨u.sample, u.attempt + 1, some (coarserReplay u.replay m.tier)⟩ i) t := by
      rintro t ⟨e, a, before, after, there, unit, earlier, rest⟩
      exact ⟨e, a, before, after, there, unit, Nat.lt_succ_of_lt earlier, rest⟩
    obtain ⟨target, needed, finer⟩ := Stage.replays_iff.1 forced
    cases needed
    rcases coarserReplay_cases u.replay m.tier with now | before
    · rw [now] at finer
      rcases ended.closed_or_replays (ended.fate.passed_of_failed finer) with
        ⟨e, a, before, after, there, like, made⟩ | replays
      · refine ⟨e, a, before, after, sub _ there, ?_, ?_, like.series, made.2.2.1⟩
        · rw [like.ticket]
          rfl
        · rw [like.ticket]
          exact Nat.lt_succ_self _
      · exact older (w.closed replays)
    · exact older (w.closed (Stage.replays_iff.2 ⟨_, before, finer⟩))

end TierCascade
