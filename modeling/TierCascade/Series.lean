import TierCascade.Data.OrderedMap
/-!
# Series

A series is one stream of numbers: a metric of an account, narrowed down by criteria. The criteria
are an ordered map, so that equality, order and the canonical text do not depend on the order in
which they were given.

Series are ordered by account, metric and criteria, texts being compared character by character.
That is the order of the lists of all their texts (`Series.parts`), which makes it total and lawful.
-/

namespace TierCascade

/-- The identity of one stream of numbers. -/
structure Series where
  account : String
  metric : String
  criteria : OrderedMap String String
  deriving DecidableEq, Inhabited

namespace Series

def plain (account metric : String) : Series := ⟨account, metric, .empty⟩

def partsOf : List (String × String) → List String
  | [] => []
  | (name, value) :: rest => name :: value :: partsOf rest

def parts (s : Series) : List String := s.account :: s.metric :: partsOf s.criteria.entries

instance : Ord Series := ⟨fun a b => compare a.parts b.parts⟩

private theorem partsOf_injective : ∀ {a b : List (String × String)}, partsOf a = partsOf b → a = b
  | [], [], _ => rfl
  | [], _ :: _, h => by simp [partsOf] at h
  | _ :: _, [], h => by simp [partsOf] at h
  | (_, _) :: _, (_, _) :: _, h => by
    simp only [partsOf, List.cons.injEq] at h
    obtain ⟨rfl, rfl, h⟩ := h
    rw [partsOf_injective h]

theorem parts_injective {a b : Series} (h : a.parts = b.parts) : a = b := by
  cases a; cases b
  simp only [parts, List.cons.injEq] at h
  obtain ⟨rfl, rfl, h⟩ := h
  rw [OrderedMap.ext (partsOf_injective h)]

instance : Std.TransOrd Series where
  eq_swap {a b} := (Std.OrientedCmp.eq_swap : compare a.parts b.parts = _)
  isLE_trans {a _ c} h k :=
    (Std.TransCmp.isLE_trans h k : (compare a.parts c.parts).isLE = true)

instance : Std.LawfulEqOrd Series where
  compare_self {a} := (Std.ReflCmp.compare_self : compare a.parts a.parts = .eq)
  eq_of_compare h := parts_injective (Std.LawfulEqOrd.eq_of_compare h)

def stem (s : Series) : String := s.account ++ "|" ++ s.metric

/-- The canonical text: account, metric and the criteria in order. -/
def canonical (s : Series) : String :=
  s.stem ++ "|" ++ ",".intercalate (s.criteria.entries.map fun e => e.1 ++ "=" ++ e.2)

instance : ToString Series := ⟨canonical⟩

end Series

end TierCascade
