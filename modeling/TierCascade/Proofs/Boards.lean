import TierCascade.Health.Condition
import TierCascade.Proofs.Maps
/-!
# What is put up on the board

The whole is as well as its worst part, whatever the order of the parts, and work can be handed in once the
system was set up and no part has broken down.
-/

namespace TierCascade

section

variable {parts : OrderedMap String Condition}

private theorem any_values (v : Status) : parts.values.any (·.status == v) = true ↔
    ∃ part c, parts.get? part = some c ∧ c.status = v := by
  simp only [OrderedMap.values, List.any_map, List.any_eq_true, Function.comp_apply, beq_iff_eq, Prod.exists,
    OrderedMap.mem_entries]

theorem worstStatus_eq_unhealthy : worstStatus parts = .unhealthy ↔
    ∃ part c, parts.get? part = some c ∧ c.status = .unhealthy := by
  rw [← any_values, worstStatus]
  split_ifs with down slow
  · exact iff_of_true rfl down
  · exact iff_of_false nofun down
  · exact iff_of_false nofun down

theorem worstStatus_eq_degraded : worstStatus parts = .degraded ↔
    (¬ ∃ part c, parts.get? part = some c ∧ c.status = .unhealthy) ∧
      ∃ part c, parts.get? part = some c ∧ c.status = .degraded := by
  rw [← any_values, ← any_values, worstStatus]
  split_ifs with down slow
  · exact iff_of_false nofun fun both => both.1 down
  · exact iff_of_true rfl ⟨down, slow⟩
  · exact iff_of_false nofun fun both => slow both.2

theorem worstStatus_eq_healthy : worstStatus parts = .healthy ↔
    ∀ part c, parts.get? part = some c → c.status = .healthy := by
  constructor
  · intro well part c found
    cases status : c.status with
    | healthy => rfl
    | unhealthy => cases well.symm.trans (worstStatus_eq_unhealthy.2 ⟨part, c, found, status⟩)
    | degraded =>
      have down : ¬ ∃ part c, parts.get? part = some c ∧ c.status = .unhealthy := fun down =>
        nomatch well.symm.trans (worstStatus_eq_unhealthy.2 down)
      cases well.symm.trans (worstStatus_eq_degraded.2 ⟨down, part, c, found, status⟩)
  · intro well
    cases status : worstStatus parts with
    | healthy => rfl
    | unhealthy =>
      obtain ⟨part, c, found, down⟩ := worstStatus_eq_unhealthy.1 status
      cases (well part c found).symm.trans down
    | degraded =>
      obtain ⟨part, c, found, slow⟩ := (worstStatus_eq_degraded.1 status).2
      cases (well part c found).symm.trans slow

end

namespace Board

/-- Whether the whole has broken down, once a part that has not was brought up to date. -/
theorem status_update_eq_unhealthy {b : Board} {part : String} {c : Condition} (works : c.status ≠ .unhealthy) :
    (b.update part c).report.status = .unhealthy ↔
      ∃ other d, other ≠ part ∧ b.parts.get? other = some d ∧ d.status = .unhealthy := by
  have down : (b.update part c).report.status = .unhealthy ↔
      ∃ other d, (b.parts.insert part c).get? other = some d ∧ d.status = .unhealthy := worstStatus_eq_unhealthy
  rw [down]
  constructor
  · rintro ⟨other, d, found, bad⟩
    have apart : other ≠ part := by
      rintro rfl
      obtain rfl : c = d := Option.some.inj ((OrderedMap.get?_insert_self ..).symm.trans found)
      exact works bad
    exact ⟨other, d, apart, by rwa [OrderedMap.get?_insert_of_ne _ _ apart] at found, bad⟩
  · rintro ⟨other, d, apart, found, bad⟩
    exact ⟨other, d, by rwa [OrderedMap.get?_insert_of_ne _ _ apart], bad⟩

theorem readiness_ready (b : Board) :
    b.readiness.ready = true ↔ b.ready = true ∧ b.report.status ≠ .unhealthy := by
  unfold readiness
  by_cases ready : b.ready = true
  · by_cases down : b.report.status = .unhealthy
    · rw [if_neg (not_not.2 ready), if_pos down]
      exact iff_of_false nofun fun both => both.2 down
    · rw [if_neg (not_not.2 ready), if_neg down]
      exact iff_of_true rfl ⟨ready, down⟩
  · rw [if_pos ready]
    exact iff_of_false nofun fun both => ready both.1

end Board

end TierCascade
