/-!
# Tiers

The six stages of the cascade, finest first. Each tier but the last hands what it lets through to
the next one, once the window of its period has passed.

`PerTier` is a value for each tier, for everything that is set or counted tier by tier.
-/

namespace TierCascade

/-- A stage of the cascade. -/
inductive Tier where
  | raw
  | minute
  | hour
  | day
  | week
  | month
  deriving Repr, DecidableEq, Inhabited

namespace Tier

def all : List Tier := [raw, minute, hour, day, week, month]

/-- The place of a tier in the cascade, the finest being at zero. -/
def index : Tier → Nat
  | raw => 0
  | minute => 1
  | hour => 2
  | day => 3
  | week => 4
  | month => 5

/-- The length of a tier's window in milliseconds. -/
def period : Tier → Int
  | raw => 1000
  | minute => 60 * 1000
  | hour => 60 * 60 * 1000
  | day => 24 * 60 * 60 * 1000
  | week => 7 * 24 * 60 * 60 * 1000
  | month => 30 * 24 * 60 * 60 * 1000

def next : Tier → Option Tier
  | raw => some minute
  | minute => some hour
  | hour => some day
  | day => some week
  | week => some month
  | month => none

def name : Tier → String
  | raw => "raw"
  | minute => "minute"
  | hour => "hour"
  | day => "day"
  | week => "week"
  | month => "month"

instance : ToString Tier := ⟨name⟩

/-- Tiers are ordered from fine to coarse. -/
instance : Ord Tier := ⟨fun a b => compare a.index b.index⟩
instance : LT Tier := ⟨fun a b => a.index < b.index⟩
instance : LE Tier := ⟨fun a b => a.index ≤ b.index⟩
instance (a b : Tier) : Decidable (a < b) := inferInstanceAs (Decidable (a.index < b.index))
instance (a b : Tier) : Decidable (a ≤ b) := inferInstanceAs (Decidable (a.index ≤ b.index))

def coarser (a b : Tier) : Tier := if a < b then b else a

def named? (s : String) : Option Tier := all.find? fun t => t.name == s

def read? (s : String) : Option Tier := all.find? fun t => t.name == s.toLower

def unknownMessage (s : String) : String := "unknown granularity '" ++ s ++ "'"

theorem index_next {t s : Tier} (h : t.next = some s) : s.index = t.index + 1 := by
  cases t <;> cases h <;> rfl

theorem mem_all (t : Tier) : t ∈ all := by
  cases t <;> decide

theorem index_injective {a b : Tier} (h : a.index = b.index) : a = b := by
  cases a <;> cases b <;> first | rfl | cases h

end Tier

structure PerTier (α : Type) where
  raw : α
  minute : α
  hour : α
  day : α
  week : α
  month : α
  deriving Repr, DecidableEq, Inhabited

namespace PerTier

variable {α β : Type}

def get (p : PerTier α) : Tier → α
  | .raw => p.raw
  | .minute => p.minute
  | .hour => p.hour
  | .day => p.day
  | .week => p.week
  | .month => p.month

def of (f : Tier → α) : PerTier α := ⟨f .raw, f .minute, f .hour, f .day, f .week, f .month⟩

def all (a : α) : PerTier α := of fun _ => a

def set (p : PerTier α) (t : Tier) (a : α) : PerTier α :=
  match t with
  | .raw => { p with raw := a }
  | .minute => { p with minute := a }
  | .hour => { p with hour := a }
  | .day => { p with day := a }
  | .week => { p with week := a }
  | .month => { p with month := a }

def modify (p : PerTier α) (t : Tier) (f : α → α) : PerTier α := p.set t (f (p.get t))

def entries (p : PerTier α) : List (Tier × α) := Tier.all.map fun t => (t, p.get t)

@[simp] theorem get_of (f : Tier → α) (t : Tier) : (of f).get t = f t := by
  cases t <;> rfl

@[simp] theorem get_set_self (p : PerTier α) (t : Tier) (a : α) : (p.set t a).get t = a := by
  cases t <;> rfl

theorem get_set_of_ne (p : PerTier α) {s t : Tier} (a : α) (h : s ≠ t) :
    (p.set t a).get s = p.get s := by
  cases s <;> cases t <;> first | rfl | exact absurd rfl h

@[ext] theorem ext {p q : PerTier α} (h : ∀ t, p.get t = q.get t) : p = q := by
  have raw := h .raw
  have minute := h .minute
  have hour := h .hour
  have day := h .day
  have week := h .week
  have month := h .month
  cases p; cases q
  simp_all [get]

end PerTier

end TierCascade
