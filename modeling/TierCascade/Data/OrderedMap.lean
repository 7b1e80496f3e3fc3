/-!
# Ordered maps

A finite map held as the list of its entries in ascending key order. The order is part of the type,
so two maps with the same entries are equal, and what a reader sees of a map never depends on the
order in which it was filled.

`ascending_insertEntry` is the one law the type needs: putting an entry keeps the order.
-/

namespace TierCascade

universe u v

/-- A finite map whose entries stand in strictly ascending key order. -/
structure OrderedMap (κ : Type u) (υ : Type v) [Ord κ] where
  entries : List (κ × υ)
  ascending : entries.Pairwise fun a b => compare a.1 b.1 = .lt

namespace OrderedMap

variable {κ : Type u} {υ : Type v} [Ord κ]

@[ext] theorem ext {m n : OrderedMap κ υ} (h : m.entries = n.entries) : m = n := by
  cases m; cases n; cases h; rfl

instance [DecidableEq κ] [DecidableEq υ] : DecidableEq (OrderedMap κ υ) := fun m n =>
  decidable_of_iff (m.entries = n.entries) ⟨ext, fun h => h ▸ rfl⟩

def empty : OrderedMap κ υ := ⟨[], .nil⟩

instance : EmptyCollection (OrderedMap κ υ) := ⟨empty⟩
instance : Inhabited (OrderedMap κ υ) := ⟨empty⟩

/-- Puts an entry into an ascending list: before the first greater key, or in place of its own. -/
def insertEntry (k : κ) (v : υ) : List (κ × υ) → List (κ × υ)
  | [] => [(k, v)]
  | (k', v') :: rest =>
    match compare k k' with
    | .lt => (k, v) :: (k', v') :: rest
    | .eq => (k, v) :: rest
    | .gt => (k', v') :: insertEntry k v rest

theorem mem_insertEntry {k : κ} {v : υ} {e : κ × υ} {es : List (κ × υ)}
    (h : e ∈ insertEntry k v es) : e = (k, v) ∨ e ∈ es := by
  induction es with
  | nil => simpa [insertEntry] using h
  | cons head rest ih =>
    obtain ⟨k', v'⟩ := head
    unfold insertEntry at h
    split at h
    · simpa using h
    · rcases List.mem_cons.1 h with h | h
      · exact .inl h
      · exact .inr (List.mem_cons_of_mem _ h)
    · rcases List.mem_cons.1 h with h | h
      · exact .inr (h ▸ List.mem_cons_self)
      · exact (ih h).imp_right (List.mem_cons_of_mem _)

variable [Std.TransOrd κ] [Std.LawfulEqOrd κ]

theorem ascending_insertEntry (k : κ) (v : υ) {es : List (κ × υ)}
    (h : es.Pairwise fun a b => compare a.1 b.1 = .lt) :
    (insertEntry k v es).Pairwise fun a b => compare a.1 b.1 = .lt := by
  induction es with
  | nil => simp [insertEntry]
  | cons head rest ih =>
    obtain ⟨k', v'⟩ := head
    obtain ⟨above, tail⟩ := List.pairwise_cons.1 h
    unfold insertEntry
    split
    · rename_i before
      refine List.pairwise_cons.2 ⟨fun e he => ?_, h⟩
      rcases List.mem_cons.1 he with rfl | he
      · exact before
      · exact Std.TransCmp.lt_trans before (above e he)
    · rename_i same
      rw [Std.LawfulEqOrd.eq_of_compare same]
      exact List.pairwise_cons.2 ⟨above, tail⟩
    · rename_i after
      refine List.pairwise_cons.2 ⟨fun e he => ?_, ih tail⟩
      rcases mem_insertEntry he with rfl | he
      · exact Std.OrientedCmp.lt_of_gt after
      · exact above e he

/-- The map with `v` under `k`, whatever stood there before. -/
def insert (m : OrderedMap κ υ) (k : κ) (v : υ) : OrderedMap κ υ :=
  ⟨insertEntry k v m.entries, ascending_insertEntry k v m.ascending⟩

/-- The map of a list of entries; of entries with one key the last stays. -/
def ofEntries (es : List (κ × υ)) : OrderedMap κ υ :=
  es.foldl (fun m e => m.insert e.1 e.2) empty

omit [Std.TransOrd κ] [Std.LawfulEqOrd κ]

def get? (m : OrderedMap κ υ) (k : κ) : Option υ :=
  (m.entries.find? fun e => compare k e.1 == .eq).map (·.2)

def keys (m : OrderedMap κ υ) : List κ := m.entries.map (·.1)

def values (m : OrderedMap κ υ) : List υ := m.entries.map (·.2)

end OrderedMap

end TierCascade
