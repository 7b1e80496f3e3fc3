import TierCascade.Proofs.Sorting
/-!
# The text of a series

The canonical text of a series has its account, its metric and its criteria one behind the other, and nothing
in them is escaped. Where it is cut is settled all the same if no part holds the separator that ends it: a bar
ends the account and the metric, an equals sign the name of a criterion, a comma its value. Series of this kind
(`Series.Clear`) are told apart by their texts (`Series.canonical_identifies`).
-/

namespace TierCascade

/-! ### Cutting at a separator -/

section

variable {α : Type} [BEq α] [LawfulBEq α] {sep : α} {xs xs' ys ys' : List α}

/-- What is free of separators is all that stands before the first one. -/
theorem cut_append (free : sep ∉ xs) (ended : ∀ y ∈ ys.head?, y = sep) :
    (xs ++ ys).takeWhile (· != sep) = xs ∧ (xs ++ ys).dropWhile (· != sep) = ys := by
  have before : ∀ x ∈ xs, (x != sep) = true := fun x mem => bne_iff_ne.2 fun same => free (same ▸ mem)
  have behind : ys.takeWhile (· != sep) = [] ∧ ys.dropWhile (· != sep) = ys := by
    cases ys with
    | nil => exact ⟨rfl, rfl⟩
    | cons y ys =>
      have stop : ¬(y != sep) = true := by simpa using ended y rfl
      exact ⟨List.takeWhile_cons_of_neg stop, List.dropWhile_cons_of_neg stop⟩
  rw [List.takeWhile_append_of_pos before, List.dropWhile_append_of_pos before, behind.1, behind.2,
    List.append_nil]
  exact ⟨rfl, rfl⟩

theorem append_inj_of_free (free : sep ∉ xs) (free' : sep ∉ xs') (ended : ∀ y ∈ ys.head?, y = sep)
    (ended' : ∀ y ∈ ys'.head?, y = sep) (same : xs ++ ys = xs' ++ ys') : xs = xs' ∧ ys = ys' := by
  obtain ⟨taken, left⟩ := cut_append free ended
  obtain ⟨taken', left'⟩ := cut_append free' ended'
  rw [same] at taken left
  exact ⟨taken.symm.trans taken', left.symm.trans left'⟩

theorem append_cons_inj_of_free (free : sep ∉ xs) (free' : sep ∉ xs') (same : xs ++ sep :: ys = xs' ++ sep :: ys') :
    xs = xs' ∧ ys = ys' := by
  obtain ⟨before, behind⟩ := append_inj_of_free free free' (by simp) (by simp) same
  exact ⟨before, (List.cons.inj behind).2⟩

omit [BEq α] [LawfulBEq α] in
theorem intercalate_eq_tail (sep : α) (pieces : List (List α)) :
    [sep].intercalate pieces = (pieces.flatMap (sep :: ·)).tail := by
  cases pieces with
  | nil => rfl
  | cons piece pieces =>
    induction pieces generalizing piece with
    | nil => simp
    | cons piece' pieces ih =>
      rw [List.intercalate_cons_cons, ih, List.flatMap_cons]
      simp

end

namespace Series

/-! ### Criteria -/

/-- The texts of the criteria of a series, in the order of their names. -/
def criteriaTexts (s : Series) : List String := s.criteria.entries.map fun e => e.1 ++ "=" ++ e.2

/-- Criteria as they stand in a text, each behind a comma. -/
def criteriaChars (es : List (String × String)) : List Char :=
  es.flatMap fun e => ',' :: (e.1.toList ++ '=' :: e.2.toList)

theorem criteriaChars_cons (e : String × String) (es : List (String × String)) :
    criteriaChars (e :: es) = ',' :: (e.1.toList ++ '=' :: (e.2.toList ++ criteriaChars es)) := by
  simp [criteriaChars]

theorem head?_criteriaChars (es : List (String × String)) : ∀ c ∈ (criteriaChars es).head?, c = ',' := by
  cases es with
  | nil => exact nofun
  | cons e es =>
    rintro _ ⟨⟩
    rfl

/-- **Criteria are told apart by their text** if no name holds an equals sign and no value a comma. -/
theorem criteriaChars_injective {es es' : List (String × String)}
    (clear : ∀ e ∈ es, '=' ∉ e.1.toList ∧ ',' ∉ e.2.toList)
    (clear' : ∀ e ∈ es', '=' ∉ e.1.toList ∧ ',' ∉ e.2.toList) (same : criteriaChars es = criteriaChars es') :
    es = es' := by
  induction es generalizing es' with
  | nil =>
    cases es' with
    | nil => rfl
    | cons e' es' => cases same
  | cons e es ih =>
    cases es' with
    | nil => cases same
    | cons e' es' =>
      obtain ⟨⟨nameClear, valueClear⟩, later⟩ := List.forall_mem_cons.1 clear
      obtain ⟨⟨nameClear', valueClear'⟩, later'⟩ := List.forall_mem_cons.1 clear'
      rw [criteriaChars_cons, criteriaChars_cons] at same
      -- The name runs to the first equals sign, and its value to the next comma or to the end of the text.
      obtain ⟨name, same⟩ := append_cons_inj_of_free nameClear nameClear' (List.cons.inj same).2
      obtain ⟨value, rest⟩ := append_inj_of_free valueClear valueClear' (head?_criteriaChars es)
        (head?_criteriaChars es') same
      rw [Prod.ext (String.toList_inj.1 name) (String.toList_inj.1 value), ih later later' rest]

/-- A criterion leaves at least its equals sign, so that none and some are told apart without the comma that
stands first. -/
theorem criteriaChars_eq_of_tail {es es' : List (String × String)}
    (same : (criteriaChars es).tail = (criteriaChars es').tail) : criteriaChars es = criteriaChars es' := by
  cases es with
  | nil =>
    cases es' with
    | nil => rfl
    | cons e' es' =>
      rw [criteriaChars_cons] at same
      exact absurd same.symm (List.append_ne_nil_of_right_ne_nil _ nofun)
  | cons e es =>
    cases es' with
    | nil =>
      rw [criteriaChars_cons] at same
      exact absurd same (List.append_ne_nil_of_right_ne_nil _ nofun)
    | cons e' es' =>
      rw [criteriaChars_cons, criteriaChars_cons] at same ⊢
      exact congrArg (',' :: ·) same

theorem toList_intercalate_criteriaTexts (s : Series) :
    (",".intercalate s.criteriaTexts).toList = (criteriaChars s.criteria.entries).tail := by
  have comma : ",".toList = [','] := rfl
  rw [criteriaTexts, String.toList_intercalate, comma, intercalate_eq_tail, criteriaChars, List.map_map,
    List.flatMap_map]
  simp

theorem toList_canonical (s : Series) : s.canonical.toList
    = s.account.toList ++ '|' :: (s.metric.toList ++ '|' :: (criteriaChars s.criteria.entries).tail) := by
  have parts : s.canonical = s.account ++ "|" ++ s.metric ++ "|" ++ ",".intercalate s.criteriaTexts := rfl
  rw [parts, String.toList_append, toList_intercalate_criteriaTexts]
  simp

/-! ### Series -/

/-- No part of the series holds the separator that ends it in the text. A name ends at its equals sign and a value
at a comma, so a comma in a name and an equals sign in a value do no harm, nor does a bar in either. -/
structure Clear (s : Series) : Prop where
  account : '|' ∉ s.account.toList
  metric : '|' ∉ s.metric.toList
  criteria : ∀ e ∈ s.criteria.entries, '=' ∉ e.1.toList ∧ ',' ∉ e.2.toList

instance (s : Series) : Decidable s.Clear :=
  decidable_of_iff ('|' ∉ s.account.toList ∧ '|' ∉ s.metric.toList ∧
      ∀ e ∈ s.criteria.entries, '=' ∉ e.1.toList ∧ ',' ∉ e.2.toList)
    ⟨fun ⟨account, metric, criteria⟩ => ⟨account, metric, criteria⟩,
      fun ⟨account, metric, criteria⟩ => ⟨account, metric, criteria⟩⟩

theorem canonical_injective {s s' : Series} (clear : s.Clear) (clear' : s'.Clear)
    (same : s.canonical = s'.canonical) : s = s' := by
  have chars := congrArg String.toList same
  rw [toList_canonical, toList_canonical] at chars
  obtain ⟨account, chars⟩ := append_cons_inj_of_free clear.account clear'.account chars
  obtain ⟨metric, chars⟩ := append_cons_inj_of_free clear.metric clear'.metric chars
  have entries := criteriaChars_injective clear.criteria clear'.criteria (criteriaChars_eq_of_tail chars)
  cases s
  cases s'
  obtain rfl := String.toList_inj.1 account
  obtain rfl := String.toList_inj.1 metric
  obtain rfl := OrderedMap.ext entries
  rfl

/-- **The text of a series identifies it**, if no separator stands where it would end a part too early: a bar in
the account or the metric, an equals sign in the name of a criterion or a comma in a value. Two such series have
the same text just if they are the same, the bytes by which they are spread over workers are the same just if they
are, and aggregates of them are shown at one place just if they are of one time, tier and series. -/
theorem canonical_identifies {s s' : Series} (clear : s.Clear) (clear' : s'.Clear) :
    (s.canonical = s'.canonical ↔ s = s') ∧
    ((Grouping.key.text? s).map String.toUTF8 = (Grouping.key.text? s').map String.toUTF8 ↔ s = s') ∧
    ∀ a a' : Aggregate, a.series = s → a'.series = s' →
      (tied Console.shownBefore a a' = true ↔ a.timestamp = a'.timestamp ∧ a.tier = a'.tier ∧ s = s') := by
  have same : s.canonical = s'.canonical ↔ s = s' := ⟨canonical_injective clear clear', congrArg canonical⟩
  refine ⟨same, ?_, ?_⟩
  · rw [Grouping.text?, Grouping.text?, Option.map_some, Option.map_some, Option.some_inj, ← same]
    exact String.toByteArray_inj
  · rintro a a' rfl rfl
    rw [Console.tied_shownBefore, decide_eq_true_iff, same]

/-- An empty account, an empty name and empty values, and separators where they do no harm. -/
theorem canonical_identifies_trial :
    let s : Series := ⟨"", "cpu", .ofEntries [("", "a=b|"), ("x,y|z", "")]⟩
    let s' : Series := ⟨"", "cpu", .ofEntries [("", "a=b"), ("x,y|z", "|")]⟩
    s.Clear ∧ s'.Clear ∧ s.canonical ≠ s'.canonical := by
  intro s s'
  have clear : s.Clear := by decide
  have clear' : s'.Clear := by decide
  exact ⟨clear, clear', mt (canonical_identifies clear clear').1.1 (by decide)⟩

end Series

end TierCascade
