import Mathlib.Order.Defs.LinearOrder
import Mathlib.Data.List.Basic
import TierCascade.Stage.Basic
import TierCascade.Unit.Ledger
/-!
# The order of the tiers

Tiers are a linear order from fine to coarse, and `Tier.next` is its successor. `Tier.below` and
`Tier.upTo` list the tiers that a sample has passed on its way; `below_next` says that passing one
tier more lengthens the way by exactly that tier.
-/

namespace TierCascade

namespace Tier

instance : LinearOrder Tier where
  le_refl a := Nat.le_refl a.index
  le_trans _ _ _ := Nat.le_trans
  lt_iff_le_not_ge _ _ := Nat.lt_iff_le_and_not_ge
  le_antisymm _ _ h k := index_injective (Nat.le_antisymm h k)
  le_total a b := Nat.le_total a.index b.index
  toDecidableLE := inferInstance
  toDecidableEq := inferInstance
  toDecidableLT := inferInstance
  compare_eq_compareOfLessAndEq a b := by cases a <;> cases b <;> rfl

theorem lt_next {t g : Tier} (h : t.next = some g) : t < g := by
  have step := index_next h
  show t.index < g.index
  omega

theorem le_of_lt_next {t g r : Tier} (h : t.next = some g) (k : r < g) : r ≤ t := by
  have step := index_next h
  have bound : r.index < g.index := k
  show r.index ≤ t.index
  omega

theorem raw_le (t : Tier) : raw ≤ t := Nat.zero_le _

theorem period_pos (t : Tier) : 0 < t.period := by
  cases t <;> decide

def below (t : Tier) : List Tier := all.filter (· < t)

def upTo (t : Tier) : List Tier := all.filter (· ≤ t)

theorem mem_upTo {g t : Tier} : g ∈ upTo t ↔ g ≤ t := by
  simp [upTo, mem_all]

theorem upTo_eq (t : Tier) : upTo t = below t ++ [t] := by
  cases t <;> rfl

theorem below_next {t g : Tier} (h : t.next = some g) : below g = upTo t := by
  cases t <;> cases h <;> rfl

theorem exists_next_eq {g : Tier} (h : g ≠ raw) : ∃ t : Tier, t.next = some g := by
  cases g with
  | raw => exact absurd rfl h
  | minute => exact ⟨raw, rfl⟩
  | hour => exact ⟨minute, rfl⟩
  | day => exact ⟨hour, rfl⟩
  | week => exact ⟨day, rfl⟩
  | month => exact ⟨week, rfl⟩

theorem le_of_next_eq_none {t : Tier} (h : t.next = none) (g : Tier) : g ≤ t := by
  cases t <;> cases h
  cases g <;> decide

theorem next_injective {t r g : Tier} (h : t.next = some g) (k : r.next = some g) : t = r := by
  have first := index_next h
  have second := index_next k
  exact index_injective (by omega)

/-- What holds of the finest tier, and of every next one, holds of all. -/
theorem climb {P : Tier → Prop} (first : P raw) (up : ∀ {t g}, t.next = some g → P t → P g) (t : Tier) :
    P t := by
  have minute : P minute := up (t := raw) rfl first
  have hour : P hour := up (t := .minute) rfl minute
  have day : P day := up (t := .hour) rfl hour
  have week : P week := up (t := .day) rfl day
  cases t with
  | raw => exact first
  | minute => exact minute
  | hour => exact hour
  | day => exact day
  | week => exact week
  | month => exact up (t := .week) rfl week

end Tier

/-! ### The tier that a delivery has to reach -/

theorem le_coarserReplay (r : Option Tier) (t : Tier) : t ≤ coarserReplay r t := by
  cases r with
  | none => exact le_refl t
  | some target =>
    by_cases h : target < t
    · simp [coarserReplay, Tier.coarser, h]
    · simpa [coarserReplay, Tier.coarser, h] using not_lt.1 h

theorem target_le_coarserReplay {r : Option Tier} {target : Tier} (h : r = some target) (t : Tier) :
    target ≤ coarserReplay r t := by
  subst h
  by_cases h : target < t
  · simpa [coarserReplay, Tier.coarser, h] using le_of_lt h
  · simp [coarserReplay, Tier.coarser, h]

/-- The tier to reach is that of an earlier failure or that of the last one. -/
theorem coarserReplay_cases (r : Option Tier) (t : Tier) :
    coarserReplay r t = t ∨ r = some (coarserReplay r t) := by
  cases r with
  | none => exact .inl rfl
  | some target =>
    by_cases h : target < t
    · exact .inl (by simp [coarserReplay, Tier.coarser, h])
    · exact .inr (by simp [coarserReplay, Tier.coarser, h])

theorem Stage.replays_iff {t : Tier} {r : Option Tier} :
    Stage.replays t r = true ↔ ∃ target, r = some target ∧ t < target := by
  cases r <;> simp [Stage.replays]

end TierCascade
