import Mathlib.Data.List.Induction
import Mathlib.Data.List.Nodup
import TierCascade.Stage.Table
import TierCascade.Unit.Ledger
/-!
# Looking things up

What putting and erasing an entry do to a look-up and to the number of entries, for ordered maps and
for the tables of states built on them, that a map is made up of its entries, and which of the entries of a
list it keeps. Everything else reaches these containers through the laws here.
-/

namespace TierCascade

namespace OrderedMap

section

variable {κ υ : Type} [Ord κ]

theorem get?_of_length_eq_zero {m : OrderedMap κ υ} (h : m.entries.length = 0) (k : κ) :
    m.get? k = none := by
  rw [get?, List.length_eq_zero_iff.1 h]
  rfl

private theorem length_insertEntry_of_none {k : κ} (v : υ) {es : List (κ × υ)}
    (none : es.find? (fun e => compare k e.1 == .eq) = none) :
    (insertEntry k v es).length = es.length + 1 := by
  induction es with
  | nil => rfl
  | cons e es ih =>
    have other := List.find?_eq_none.1 none e List.mem_cons_self
    unfold insertEntry
    split
    · rfl
    · rename_i same
      simp [same] at other
    · rw [List.find?_cons_of_neg (by simpa using other)] at none
      rw [List.length_cons, ih none, List.length_cons]

variable [Std.LawfulEqOrd κ]

private theorem compare_ne {a b : κ} (h : a ≠ b) : (compare a b == .eq) = false := by
  rw [beq_eq_false_iff_ne]
  exact fun same => h (Std.LawfulEqOrd.eq_of_compare same)

private theorem find_insertEntry_self (k : κ) (v : υ) (es : List (κ × υ)) :
    (insertEntry k v es).find? (fun e => compare k e.1 == .eq) = some (k, v) := by
  induction es with
  | nil => simp [insertEntry]
  | cons e es ih =>
    obtain ⟨k', v'⟩ := e
    unfold insertEntry
    split
    · simp
    · simp
    · rename_i after
      rw [List.find?_cons_of_neg (by simp [after]), ih]

private theorem find_insertEntry_of_ne {k j : κ} (v : υ) (h : j ≠ k) (es : List (κ × υ)) :
    (insertEntry k v es).find? (fun e => compare j e.1 == .eq)
      = es.find? (fun e => compare j e.1 == .eq) := by
  induction es with
  | nil => simp [insertEntry, compare_ne h]
  | cons e es ih =>
    obtain ⟨k', v'⟩ := e
    unfold insertEntry
    split
    · rw [List.find?_cons_of_neg (by simp [compare_ne h])]
    · rename_i same
      rw [← Std.LawfulEqOrd.eq_of_compare same,
        List.find?_cons_of_neg (by simp [compare_ne h]),
        List.find?_cons_of_neg (by simp [compare_ne h])]
    · rw [List.find?_cons, List.find?_cons, ih]

@[simp] theorem get?_insert_self [Std.TransOrd κ] (m : OrderedMap κ υ) (k : κ) (v : υ) :
    (m.insert k v).get? k = some v := by
  rw [get?, insert, find_insertEntry_self]
  rfl

theorem get?_insert_of_ne [Std.TransOrd κ] (m : OrderedMap κ υ) {k j : κ} (v : υ) (h : j ≠ k) :
    (m.insert k v).get? j = m.get? j := by
  rw [get?, insert, find_insertEntry_of_ne v h]
  rfl

@[simp] theorem get?_erase_self (m : OrderedMap κ υ) (k : κ) : (m.erase k).get? k = none := by
  rw [get?, erase, List.find?_eq_none.2]
  · rfl
  · intro e mem
    have other := (List.mem_filter.1 mem).2
    simpa using other

theorem get?_erase_of_ne (m : OrderedMap κ υ) {k j : κ} (h : j ≠ k) :
    (m.erase k).get? j = m.get? j := by
  simp only [get?, erase, List.find?_filter]
  congr 2
  funext e
  by_cases same : compare j e.1 = .eq
  · have found : e.1 = j := (Std.LawfulEqOrd.eq_of_compare same).symm
    simp [found, Ne.symm h]
  · simp [same]

theorem get?_of_get?_erase {m : OrderedMap κ υ} {k j : κ} {v : υ}
    (found : (m.erase k).get? j = some v) : m.get? j = some v := by
  have other : j ≠ k := by
    rintro rfl
    rw [get?_erase_self] at found
    cases found
  rw [← get?_erase_of_ne m other]
  exact found

/-! ### How many entries there are -/

omit [Std.LawfulEqOrd κ] in
private theorem length_insertEntry_of_some [Std.TransOrd κ] {k : κ} (v : υ) {es : List (κ × υ)}
    (ascending : es.Pairwise fun a b => compare a.1 b.1 = .lt)
    (some : (es.find? fun e => compare k e.1 == .eq).isSome = true) :
    (insertEntry k v es).length = es.length := by
  induction es with
  | nil => cases some
  | cons e es ih =>
    obtain ⟨above, tail⟩ := List.pairwise_cons.1 ascending
    unfold insertEntry
    split
    · rename_i k' v' before
      -- A key before the first one stands nowhere in the list.
      obtain ⟨e', mem, here⟩ := List.find?_isSome.1 some
      have behind : compare k e'.1 = .lt := by
        rcases List.mem_cons.1 mem with rfl | later
        · exact before
        · exact Std.TransCmp.lt_trans before (above e' later)
      rw [eq_of_beq here] at behind
      cases behind
    · rfl
    · rename_i after
      rw [List.find?_cons_of_neg (by simp [after])] at some
      rw [List.length_cons, List.length_cons, ih tail some]

private theorem length_filter_of_some {k : κ} {es : List (κ × υ)}
    (ascending : es.Pairwise fun a b => compare a.1 b.1 = .lt)
    (some : (es.find? fun e => compare k e.1 == .eq).isSome = true) :
    (es.filter fun e => compare k e.1 != .eq).length + 1 = es.length := by
  induction es with
  | nil => cases some
  | cons e es ih =>
    obtain ⟨above, tail⟩ := List.pairwise_cons.1 ascending
    by_cases same : compare k e.1 = .eq
    · have others : es.filter (fun e => compare k e.1 != .eq) = es := by
        refine List.filter_eq_self.2 fun e' mem => ?_
        rw [Std.LawfulEqOrd.eq_of_compare same, above e' mem]
        rfl
      rw [List.filter_cons_of_neg (by simp [same]), others, List.length_cons]
    · rw [List.find?_cons_of_neg (by simpa using same)] at some
      rw [List.filter_cons_of_pos (by simpa using same), List.length_cons, ih tail some,
        List.length_cons]

omit [Std.LawfulEqOrd κ] in
private theorem isSome_find {m : OrderedMap κ υ} {k : κ} {v : υ} (some : m.get? k = some v) :
    (m.entries.find? fun e => compare k e.1 == .eq).isSome = true := by
  rw [← Option.isSome_map (f := Prod.snd)]
  exact Option.isSome_of_eq_some some

theorem length_insert_of_none [Std.TransOrd κ] {m : OrderedMap κ υ} {k : κ} (v : υ)
    (none : m.get? k = none) : (m.insert k v).entries.length = m.entries.length + 1 :=
  length_insertEntry_of_none v (Option.map_eq_none_iff.1 none)

theorem length_insert_of_some [Std.TransOrd κ] {m : OrderedMap κ υ} {k : κ} {old : υ} (v : υ)
    (some : m.get? k = some old) : (m.insert k v).entries.length = m.entries.length :=
  length_insertEntry_of_some v m.ascending (isSome_find some)

theorem length_erase_of_some {m : OrderedMap κ υ} {k : κ} {v : υ} (some : m.get? k = some v) :
    (m.erase k).entries.length + 1 = m.entries.length :=
  length_filter_of_some m.ascending (isSome_find some)

/-! ### Keys -/

theorem mem_keys {m : OrderedMap κ υ} {k : κ} : k ∈ m.keys ↔ (m.get? k).isSome = true := by
  rw [get?, Option.isSome_map, List.find?_isSome, keys, List.mem_map]
  constructor
  · rintro ⟨e, mem, rfl⟩
    exact ⟨e, mem, by simp⟩
  · rintro ⟨e, mem, same⟩
    exact ⟨e, mem, (Std.LawfulEqOrd.eq_of_compare (by simpa using same)).symm⟩

omit [Std.LawfulEqOrd κ] in
private theorem insertEntry_of_above {k : κ} (v : υ) {es : List (κ × υ)}
    (above : ∀ e ∈ es, compare k e.1 = .gt) : insertEntry k v es = es ++ [(k, v)] := by
  induction es with
  | nil => rfl
  | cons e es ih =>
    rw [insertEntry, above e List.mem_cons_self]
    exact congrArg (e :: ·) (ih fun e' mem => above e' (List.mem_cons_of_mem e mem))

private theorem entries_foldl_insert [Std.TransOrd κ] (m : OrderedMap κ υ) {es : List (κ × υ)}
    (ascending : (m.entries ++ es).Pairwise fun a b => compare a.1 b.1 = .lt) :
    (es.foldl (fun m e => m.insert e.1 e.2) m).entries = m.entries ++ es := by
  induction es generalizing m with
  | nil => exact (List.append_nil _).symm
  | cons e es ih =>
    have above : ∀ e' ∈ m.entries, compare e.1 e'.1 = .gt := fun e' mem =>
      Std.OrientedCmp.gt_of_lt ((List.pairwise_append.1 ascending).2.2 e' mem e List.mem_cons_self)
    have entries : (m.insert e.1 e.2).entries = m.entries ++ [e] := insertEntry_of_above e.2 above
    rw [List.foldl_cons, ih _ (by rwa [entries, List.append_assoc]), entries, List.append_assoc]
    rfl

/-- **A map is the map of its entries.** -/
theorem ofEntries_entries [Std.TransOrd κ] (m : OrderedMap κ υ) : ofEntries m.entries = m :=
  ext (entries_foldl_insert empty m.ascending)

theorem nodup_keys (m : OrderedMap κ υ) : m.keys.Nodup := by
  refine List.pairwise_map.2 (m.ascending.imp fun before same => ?_)
  simp [same] at before

theorem mem_entries {m : OrderedMap κ υ} {k : κ} {v : υ} : (k, v) ∈ m.entries ↔ m.get? k = some v := by
  have entry : ∀ w, m.get? k = some w → (k, w) ∈ m.entries := fun w found => by
    obtain ⟨⟨k', w'⟩, first, rfl⟩ := Option.map_eq_some_iff.1 found
    obtain rfl : k = k' := Std.LawfulEqOrd.eq_of_compare (by simpa using List.find?_some first)
    exact List.mem_of_find?_eq_some first
  refine ⟨fun mem => ?_, entry v⟩
  have key : k ∈ m.keys := List.mem_map_of_mem mem
  obtain ⟨w, found⟩ := Option.isSome_iff_exists.1 (mem_keys.1 key)
  have one := List.inj_on_of_nodup_map m.nodup_keys mem (entry w found) rfl
  rw [found, (Prod.mk.inj one).2]

/-- Maps in which the same is found under every key are equal. -/
theorem ext_get? [Std.TransOrd κ] {m n : OrderedMap κ υ} (same : ∀ k, m.get? k = n.get? k) : m = n := by
  have mem : ∀ e, e ∈ m.entries ↔ e ∈ n.entries := fun e => by
    rw [mem_entries, mem_entries, same]
  have perm : m.entries.Perm n.entries :=
    (List.perm_ext_iff_of_nodup (.of_map _ m.nodup_keys) (.of_map _ n.nodup_keys)).2 mem
  refine ext (perm.eq_of_pairwise (fun a b _ _ before after => ?_) m.ascending n.ascending)
  rw [Std.OrientedCmp.gt_of_lt before] at after
  cases after

/-- **Of the entries of a list with one key the last stays.** -/
theorem get?_ofEntries [Std.TransOrd κ] [DecidableEq κ] (es : List (κ × υ)) (k : κ) :
    (ofEntries es).get? k = (es.filter (·.1 = k)).getLast?.map (·.2) := by
  induction es using List.reverseRecOn with
  | nil => rfl
  | append_singleton es e ih =>
    have put : ofEntries (es ++ [e]) = (ofEntries es).insert e.1 e.2 := List.foldl_concat ..
    rw [put, List.filter_append]
    by_cases same : e.1 = k
    · subst same
      rw [get?_insert_self, List.filter_cons_of_pos (by simp), List.filter_nil, List.getLast?_concat, Option.map_some]
    · rw [get?_insert_of_ne _ _ (Ne.symm same), ih, List.filter_cons_of_neg (by simpa using same), List.filter_nil,
        List.append_nil]

end

end OrderedMap

namespace SeriesTable

theorem mem_series {t : SeriesTable} {x : Series} : x ∈ t.series ↔ (t.get? x).isSome = true :=
  OrderedMap.mem_keys

theorem length_series (t : SeriesTable) : t.series.length = t.size :=
  List.length_map ..

@[simp] theorem get?_put_self (t : SeriesTable) (x : Series) (state : SeriesState) :
    (t.put x state).get? x = some state :=
  OrderedMap.get?_insert_self ..

theorem get?_put_of_ne (t : SeriesTable) {x y : Series} (state : SeriesState) (h : y ≠ x) :
    (t.put x state).get? y = t.get? y :=
  OrderedMap.get?_insert_of_ne _ _ h

end SeriesTable

end TierCascade
