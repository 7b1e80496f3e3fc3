import TierCascade.Console.Route
import TierCascade.Proofs.CanonicalText
import TierCascade.Proofs.Maps
/-!
# Criteria in any order

The criteria of a question about a route come as texts. Each is cut at its first equals sign into a name and a
value (`nameOf`, `valueOf`), and of the texts with one name the last one counts. So the series asked about, its
text and its worker do not depend on the order in which texts with different names are given
(`RouteQuery.criteria_determine`).
-/

namespace TierCascade

namespace Console

/-! ### One criterion -/

/-- What stands before the first equals sign of a text. -/
def nameOf (text : String) : String := String.ofList (text.toList.takeWhile (· != '='))

/-- What stands behind the first equals sign of a text. -/
def valueOf (text : String) : String := String.ofList (text.toList.dropWhile (· != '=')).tail

def entryOf (text : String) : String × String := (nameOf text, valueOf text)

/-- A text that gives a criterion holds an equals sign and does not start with one. -/
def IsCriterion (text : String) : Prop := '=' ∈ text.toList ∧ text.toList.head? ≠ some '='

instance (text : String) : Decidable (IsCriterion text) := inferInstanceAs (Decidable (_ ∧ _))

theorem splitAtEquals_eq (cs : List Char) : splitAtEquals cs =
    if '=' ∈ cs then some (cs.takeWhile (· != '='), (cs.dropWhile (· != '=')).tail) else none := by
  fun_induction splitAtEquals cs with
  | case1 => rfl
  | case2 rest => rfl
  | case3 c rest other ih =>
    have apart : (c != '=') = true := bne_iff_ne.2 other
    have taken : (c :: rest).takeWhile (· != '=') = c :: rest.takeWhile (· != '=') :=
      List.takeWhile_cons_of_pos apart
    have left : (c :: rest).dropWhile (· != '=') = rest.dropWhile (· != '=') := List.dropWhile_cons_of_pos apart
    rw [ih, taken, left]
    by_cases later : '=' ∈ rest
    · rw [if_pos later, if_pos (List.mem_cons_of_mem c later)]
      rfl
    · rw [if_neg later, if_neg (List.not_mem_cons_of_ne_of_not_mem (Ne.symm other) later)]
      rfl

theorem criterion?_eq (text : String) :
    criterion? text = if IsCriterion text then some (entryOf text) else none := by
  rw [criterion?, splitAtEquals_eq]
  by_cases held : '=' ∈ text.toList
  · obtain ⟨c, cs, chars⟩ := List.exists_cons_of_ne_nil (List.ne_nil_of_mem held)
    rw [if_pos held]
    by_cases first : c = '='
    · rw [if_neg fun good => good.2 (by rw [chars, first]; rfl), chars, first]
      rfl
    · have apart : (c != '=') = true := bne_iff_ne.2 first
      have good : IsCriterion text := ⟨held, by simpa [chars] using first⟩
      rw [if_pos good, entryOf, nameOf, valueOf, chars, List.takeWhile_cons, apart]
      rfl
  · rw [if_neg held, if_neg fun good => held good.1]

section

variable {name : String} (free : '=' ∉ name.toList) (value : String)

include free

theorem entryOf_criterion : entryOf (name ++ "=" ++ value) = (name, value) := by
  have chars : (name ++ "=" ++ value).toList = name.toList ++ '=' :: value.toList := by simp
  have ended : ∀ c ∈ ('=' :: value.toList).head?, c = '=' := by simp
  obtain ⟨taken, left⟩ := cut_append free ended
  rw [entryOf, nameOf, valueOf, chars, taken, left, List.tail_cons, String.ofList_toList, String.ofList_toList]

theorem isCriterion_criterion (some : name ≠ "") : IsCriterion (name ++ "=" ++ value) := by
  obtain ⟨c, cs, chars⟩ := List.exists_cons_of_ne_nil (mt String.toList_eq_nil_iff.1 some)
  have first : c ≠ '=' := fun same => free (by rw [chars, same]; exact List.mem_cons_self)
  exact ⟨by simp, by simpa [chars] using first⟩

end

/-! ### A list of criteria -/

theorem readCriteria_eq (texts : List String) :
    readCriteria texts = match texts.find? fun text => ¬IsCriterion text with
      | some text => .error text
      | none => .ok (texts.map entryOf) := by
  induction texts with
  | nil => rfl
  | cons text texts ih =>
    unfold readCriteria at ih ⊢
    rw [List.mapM_cons, ih, criterion?_eq]
    by_cases good : IsCriterion text
    · rw [List.find?_cons_of_neg (by simpa using good), if_pos good]
      cases texts.find? fun text => ¬IsCriterion text <;> rfl
    · rw [List.find?_cons_of_pos (by simpa using good), if_neg good]
      rfl

theorem readCriteria_eq_ok {texts : List String} {criteria : List (String × String)} :
    readCriteria texts = .ok criteria ↔
      (∀ text ∈ texts, IsCriterion text) ∧ criteria = texts.map entryOf := by
  rw [readCriteria_eq]
  split
  · rename_i text found
    have bad : ¬IsCriterion text := by simpa using List.find?_some found
    exact iff_of_false nofun fun all => bad (all.1 text (List.mem_of_find?_eq_some found))
  · rename_i none
    have good : ∀ text ∈ texts, IsCriterion text := fun text mem => by
      simpa using List.find?_eq_none.1 none text mem
    rw [Except.ok.injEq, eq_comm, and_iff_right good]

theorem exists_readCriteria_eq_error {texts : List String} :
    (∃ text, readCriteria texts = .error text) ↔ ∃ text ∈ texts, ¬IsCriterion text := by
  constructor
  · rintro ⟨text, read⟩
    by_contra none
    push Not at none
    rw [readCriteria_eq_ok.2 ⟨none, rfl⟩] at read
    cases read
  · rintro ⟨text, mem, bad⟩
    cases read : readCriteria texts with
    | error first => exact ⟨first, rfl⟩
    | ok criteria => exact absurd ((readCriteria_eq_ok.1 read).1 text mem) bad

/-! ### Questions -/

namespace RouteQuery

variable {q : RouteQuery} {s : Series}

theorem series?_eq_ok : q.series? = .ok s ↔ (∀ text ∈ q.criteria, IsCriterion text) ∧
    s = ⟨q.account, q.metric, .ofEntries (q.criteria.map entryOf)⟩ := by
  unfold series?
  cases read : readCriteria q.criteria with
  | error text =>
    refine iff_of_false nofun fun all => ?_
    rw [readCriteria_eq_ok.2 ⟨all.1, rfl⟩] at read
    cases read
  | ok criteria =>
    obtain ⟨good, rfl⟩ := readCriteria_eq_ok.1 read
    rw [and_iff_right good, Except.map, Except.ok.injEq, eq_comm]

/-- **Of the texts with one name the last one counts.** -/
theorem get?_criteria (read : q.series? = .ok s) (name : String) :
    s.criteria.get? name = (q.criteria.filter (nameOf · = name)).getLast?.map valueOf := by
  obtain ⟨-, rfl⟩ := series?_eq_ok.1 read
  rw [OrderedMap.get?_ofEntries, List.filter_map, List.getLast?_map, Option.map_map]
  rfl

/-- A question with the same texts, those of one name in the same order, is about the same series. -/
theorem series?_reordered (read : q.series? = .ok s) {texts : List String} (perm : texts.Perm q.criteria)
    (order : ∀ name, texts.filter (nameOf · = name) = q.criteria.filter (nameOf · = name)) :
    series? { q with criteria := texts } = .ok s := by
  obtain ⟨good, same⟩ := series?_eq_ok.1 read
  have read' : series? { q with criteria := texts }
      = .ok ⟨q.account, q.metric, .ofEntries (texts.map entryOf)⟩ :=
    series?_eq_ok.2 ⟨fun text mem => good text (perm.mem_iff.1 mem), rfl⟩
  have criteria : OrderedMap.ofEntries (texts.map entryOf) = s.criteria :=
    OrderedMap.ext_get? fun name => by rw [get?_criteria read', get?_criteria read, order]
  rw [read', criteria, same]

/-- **A series is read back from the texts of its criteria.** -/
theorem series?_criteriaTexts (q : RouteQuery) (s : Series)
    (names : ∀ e ∈ s.criteria.entries, e.1 ≠ "" ∧ '=' ∉ e.1.toList) :
    series? { q with account := s.account, metric := s.metric, criteria := s.criteriaTexts } = .ok s := by
  have back : s.criteriaTexts.map entryOf = s.criteria.entries := by
    have each : ∀ e ∈ s.criteria.entries, entryOf (e.1 ++ "=" ++ e.2) = e := fun e entry =>
      entryOf_criterion (names e entry).2 e.2
    rw [Series.criteriaTexts, List.map_map]
    exact (List.map_congr_left each).trans (List.map_id' _)
  refine series?_eq_ok.2 ⟨fun text mem => ?_, ?_⟩
  · obtain ⟨e, entry, rfl⟩ := List.mem_map.1 mem
    exact isCriterion_criterion (names e entry).2 e.2 (names e entry).1
  · rw [back, OrderedMap.ofEntries_entries]

theorem workers_pos (asked : q.workers ≠ some 0) : 0 < q.routing.workers := by
  have standard : ∀ t, 0 < Settings.standard.workersOf t := fun t => by cases t <;> decide
  unfold routing
  cases given : q.workers with
  | none => exact standard q.tier
  | some n => exact Nat.pos_of_ne_zero fun zero => asked (given.trans (congrArg some zero))

theorem route_congr {r : Routing} {s' : Series} (others : r.grouping ≠ .key) (account : s.account = s'.account)
    (metric : s.metric = s'.metric) : r.route s = r.route s' := by
  have same : r.grouping.text? s = r.grouping.text? s' := by
    cases grouping : r.grouping with
    | key => exact absurd grouping others
    | metric => rw [Grouping.text?, Grouping.text?, Series.stem, Series.stem, account, metric]
    | global => rfl
  rw [Routing.route, Routing.route, same]

theorem answer_eq (read : q.series? = .ok s) : q.answer =
    ((Routing.make q.routing.workers q.routing.grouping).mapError fun failure =>
      ⟨"Invalid partitioner settings", [failure.message]⟩).map fun routing =>
        ⟨s.canonical, q.tier, routing, routing.route s⟩ := by
  rw [answer, read]
  rfl

theorem answer_eq_ok (read : q.series? = .ok s) (asked : q.workers ≠ some 0) :
    q.answer = .ok ⟨s.canonical, q.tier, q.routing, q.routing.route s⟩ := by
  rw [answer_eq read, Routing.make, if_neg (Nat.ne_of_gt (workers_pos asked))]
  rfl

/-- **Criteria determine the series and its route, in whatever order they are given.**
* Reading them fails just if some text holds no equals sign or starts with one.
* Else each name has the value of the last text with that name. The same texts in another order, with those of
  one name in the same order, are read as the same series, and the question about it has the same answer. With at
  least one worker the answer gives the text of the series and its worker, which is one of those there are.
* A series whose criteria have names that are not empty and free of equals signs is read back from their texts.
* Where workers are not selected by the whole key, criteria make no difference to the worker. -/
theorem criteria_determine (q : RouteQuery) :
    ((∃ text, readCriteria q.criteria = .error text) ↔
      ∃ text ∈ q.criteria, '=' ∉ text.toList ∨ text.toList.head? = some '=') ∧
    (∀ s, q.series? = .ok s →
      (s.account = q.account ∧ s.metric = q.metric ∧
        ∀ name, s.criteria.get? name = (q.criteria.filter (nameOf · = name)).getLast?.map valueOf) ∧
      (∀ texts, texts.Perm q.criteria →
        (∀ name, texts.filter (nameOf · = name) = q.criteria.filter (nameOf · = name)) →
          series? { q with criteria := texts } = .ok s ∧ answer { q with criteria := texts } = q.answer) ∧
      (q.workers ≠ some 0 → q.answer = .ok ⟨s.canonical, q.tier, q.routing, q.routing.route s⟩ ∧
        q.routing.route s < q.routing.workers)) ∧
    (∀ s : Series, (∀ e ∈ s.criteria.entries, e.1 ≠ "" ∧ '=' ∉ e.1.toList) →
      series? { q with account := s.account, metric := s.metric, criteria := s.criteriaTexts } = .ok s) ∧
    ∀ r : Routing, r.grouping ≠ .key → ∀ criteria criteria',
      r.route ⟨q.account, q.metric, criteria⟩ = r.route ⟨q.account, q.metric, criteria'⟩ := by
  refine ⟨?_, fun s read => ⟨⟨?_, ?_, get?_criteria read⟩, fun texts perm order => ?_, fun asked => ?_⟩,
    series?_criteriaTexts q, fun r others criteria criteria' => ?_⟩
  · simp only [exists_readCriteria_eq_error, IsCriterion, not_and_or, not_not]
  · rw [(series?_eq_ok.1 read).2]
  · rw [(series?_eq_ok.1 read).2]
  · have read' := series?_reordered read perm order
    exact ⟨read', (answer_eq read').trans (answer_eq read).symm⟩
  · exact ⟨answer_eq_ok read asked, q.routing.route_lt s (workers_pos asked)⟩
  · exact route_congr others rfl rfl

/-- A value with an equals sign in it, and two values for one name. -/
theorem criteria_determine_trial :
    let q : RouteQuery := ⟨"acct", "cpu", ["zone=b", "host=a=b", "zone=c"], .hour, some 4, some .key⟩
    let q' : RouteQuery := { q with criteria := ["host=a=b", "zone=b", "zone=c"] }
    ∃ s, q.series? = .ok s ∧ s.criteria.get? "zone" = some "c" ∧ s.criteria.get? "host" = some "a=b" ∧
      q'.series? = .ok s ∧ q'.answer = q.answer ∧ q.routing.route s < 4 ∧
      series? { q with account := s.account, metric := s.metric, criteria := s.criteriaTexts } = .ok s ∧
      Routing.route ⟨4, .metric⟩ s = Routing.route ⟨4, .metric⟩ (.plain "acct" "cpu") := by
  intro q q'
  have read : q.series? = .ok ⟨"acct", "cpu", .ofEntries [("host", "a=b"), ("zone", "c")]⟩ := by decide
  obtain ⟨-, reading, rendered, spread⟩ := criteria_determine q
  obtain ⟨⟨-, -, last⟩, reordered, routed⟩ := reading _ read
  have host : nameOf "host=a=b" = "host" := by decide
  have order : ∀ name, q'.criteria.filter (nameOf · = name) = q.criteria.filter (nameOf · = name) := fun name => by
    by_cases same : "host" = name
    · subst same
      decide
    · simp [q, q', host, same, List.filter_cons]
  obtain ⟨read', answer⟩ := reordered q'.criteria (.swap _ _ _) order
  exact ⟨_, read, (last "zone").trans (by decide), (last "host").trans (by decide), read', answer,
    (routed (by decide)).2, rendered _ (by decide), spread ⟨4, .metric⟩ nofun _ _⟩

end RouteQuery

end Console

end TierCascade
