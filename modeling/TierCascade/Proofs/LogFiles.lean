import TierCascade.Proofs.Lines
import TierCascade.Proofs.Paths
import TierCascade.Proofs.WireFormats
/-!
# Files of aggregates

No control character stands in the text of a JSON value (`Json.plain_compactChars`), so the line of an
aggregate is one line, and its line feed is the only one in it. Opening a file once more leads to the same
file and leaves what it holds (`Surroundings.Leads.open?`). So what several sessions append to a file of
lines is read back aggregate by aggregate, behind the lines that were there before
(`Surroundings.logs_read_back`).
-/

namespace TierCascade

/-! ### Texts without control characters -/

/-- A text without control characters. -/
def Plain (cs : List Char) : Prop := ∀ c ∈ cs, 32 ≤ c.toNat

instance (cs : List Char) : Decidable (Plain cs) := List.decidableBAll (fun c : Char => 32 ≤ c.toNat) cs

namespace Plain

variable {c : Char} {cs ds : List Char}

theorem nil : Plain [] := nofun

theorem cons (first : 32 ≤ c.toNat) (rest : Plain cs) : Plain (c :: cs) := List.forall_mem_cons.2 ⟨first, rest⟩

theorem append (front : Plain cs) (back : Plain ds) : Plain (cs ++ ds) := List.forall_mem_append.2 ⟨front, back⟩

theorem of_subset (all : Plain cs) (some : ds ⊆ cs) : Plain ds := fun c mem => all c (some mem)

theorem of_isDigit (digits : ∀ c ∈ cs, c.isDigit = true) : Plain cs := fun c mem =>
  Nat.le_trans (by decide) (Char.isDigit_iff_toNat.1 (digits c mem)).1

theorem joinWith {sep : List Char} {texts : List (List Char)} (between : Plain sep)
    (all : ∀ text ∈ texts, Plain text) : Plain (Json.joinWith sep texts) := by
  fun_induction Json.joinWith sep texts with
  | case1 => exact nil
  | case2 text => exact all text List.mem_cons_self
  | case3 text rest _ ih =>
    exact ((all text List.mem_cons_self).append between).append
      (ih fun text' mem => all text' (List.mem_cons_of_mem _ mem))

theorem notMem (plain : Plain cs) (control : c.toNat < 32) : c ∉ cs := fun mem =>
  Nat.not_le.2 control (plain c mem)

end Plain

namespace Json

theorem le_hexDigit (n : Nat) : 32 ≤ (hexDigit n).toNat := by
  have all : ∀ k < 16, 32 ≤ (Nat.digitChar k).toNat := by decide
  exact all (n % 16) (Nat.mod_lt n (by decide))

theorem plain_escapeChar (c : Char) : Plain (escapeChar c) := by
  unfold escapeChar
  split_ifs with quote backslash backspace feed line return_ tab control
  -- Seven escapes by a letter, an escape by number, and the character itself.
  iterate 7 decide
  · have lead : Plain ['\\', 'u', '0', '0'] := by decide
    exact lead.append (.cons (le_hexDigit _) (.cons (le_hexDigit _) .nil))
  · exact .cons (Nat.not_lt.1 control) .nil

theorem plain_quote (s : String) : Plain (quote s) := by
  refine .append (.cons (by decide) fun d mem => ?_) (by decide)
  obtain ⟨c, -, mem⟩ := List.mem_flatMap.1 mem
  exact plain_escapeChar c d mem

theorem plain_exponentChars (e : Option Int) : Plain (Numeral.exponentChars e) := by
  cases e with
  | none => exact .nil
  | some e =>
    refine .cons (by decide) (.cons ?_ (.of_isDigit fun c mem => ?_))
    · split <;> decide
    · exact Nat.isDigit_of_mem_toDigits (by decide) le_rfl mem

theorem plain_chars (n : Numeral) : Plain n.chars := by
  have digits : Plain n.digits := .of_isDigit fun c mem => n.isDigit_of_mem_digits mem
  refine .append (.append (.append ?_ (digits.of_subset (List.take_subset ..))) ?_) (plain_exponentChars _)
  · split <;> decide
  · split
    · exact .nil
    · exact .cons (by decide) (digits.of_subset (List.drop_subset ..))

mutual

/-- **No control character stands in the text of a value.** -/
theorem plain_compactChars (j : Json) : Plain j.compactChars := by
  have comma : Plain [','] := by decide
  cases j with
  | null =>
    have word : Plain ['n', 'u', 'l', 'l'] := by decide
    exact word
  | bool b =>
    have true : Plain ['t', 'r', 'u', 'e'] := by decide
    have false : Plain ['f', 'a', 'l', 's', 'e'] := by decide
    cases b with
    | true => exact true
    | false => exact false
  | number n => exact plain_chars n
  | string s => exact plain_quote s
  | array items =>
    have joined := Plain.joinWith comma (plain_compactItems items)
    exact (Plain.cons (by decide) joined).append (by decide)
  | object members =>
    have joined := Plain.joinWith comma (plain_compactMembers members)
    exact (Plain.cons (by decide) joined).append (by decide)

theorem plain_compactItems (items : List Json) : ∀ text ∈ compactItems items, Plain text := by
  cases items with
  | nil => nofun
  | cons j rest => exact List.forall_mem_cons.2 ⟨plain_compactChars j, plain_compactItems rest⟩

theorem plain_compactMembers (members : List (String × Json)) :
    ∀ text ∈ compactMembers members, Plain text := by
  cases members with
  | nil => nofun
  | cons m rest =>
    obtain ⟨name, j⟩ := m
    have member := (plain_quote name).append (Plain.cons (by decide : 32 ≤ ':'.toNat) (plain_compactChars j))
    exact List.forall_mem_cons.2 ⟨member, plain_compactMembers rest⟩

end

end Json

/-! ### Lines of aggregates -/

namespace Aggregate

def record (a : Aggregate) : List UInt8 := utf8Bytes a.json.compactChars

/-- The aggregate that a line of a file says. -/
def ofRecord? (line : List UInt8) : Option Aggregate := (utf8Line? line).bind fun cs => (ofLine cs).toOption

variable (a : Aggregate)

theorem utf8Bytes_line : utf8Bytes a.line = a.record ++ [10] := by
  have feed : utf8Bytes ['\n'] = [10] := by decide
  rw [line, utf8Bytes_append, feed]
  rfl

theorem feed_notMem_record : 10 ∉ a.record := fun mem =>
  (Json.plain_compactChars a.json).notMem (c := '\n') (by decide) (mem_utf8Bytes (d := '\n') (by decide) mem)

theorem return_notMem_record : 13 ∉ a.record := fun mem =>
  (Json.plain_compactChars a.json).notMem (c := '\r') (by decide) (mem_utf8Bytes (d := '\r') (by decide) mem)

theorem ofRecord?_record {a : Aggregate} (fits : format.Fits a) (finite : ∀ y ∈ a.reals, y.isFinite = true)
    (printed : ∀ y ∈ a.reals, y.isFinite = true → ReadsBack y) : ofRecord? a.record = some a := by
  have read := roundTrips a fits finite printed
  rw [Json.compact, String.toList_ofList] at read
  rw [ofRecord?, record, utf8Line?_utf8Bytes, Option.bind_some, ofLine]
  exact congrArg Except.toOption read

end Aggregate

/-- The lines of a file to which only aggregates were appended are their lines. -/
theorem byteLines_records (as : List Aggregate) :
    byteLines ((as.map Aggregate.record).flatMap (· ++ [10])) = as.map Aggregate.record := by
  induction as with
  | nil => rfl
  | cons a as ih =>
    have whole : dropLastIf 13 a.record = a.record :=
      if_neg fun last => a.return_notMem_record (List.mem_of_getLast? (eq_of_beq last))
    rw [List.map_cons, List.flatMap_cons, List.append_assoc, List.singleton_append, byteLines,
      linesWith_append_feed, splitAtEach_of_notMem a.feed_notMem_record]
    exact congrArg₂ (· :: ·) whole ih

/-! ### Sessions -/

namespace Surroundings

variable {s t : Surroundings} {file : Place} {path : String} {old : List UInt8}

theorem Leads.foldl_persist (leads : s.Leads path file) (kept : file ≠ Place.nowhere)
    (holds : s.content? file = some old) (as : List Aggregate) :
    (as.foldl (persist file) s).Leads path file ∧
      (as.foldl (persist file) s).content? file
        = some (old ++ (as.map Aggregate.record).flatMap (· ++ [10])) := by
  induction as generalizing s old with
  | nil => exact ⟨leads, holds.trans (congrArg some (List.append_nil old).symm)⟩
  | cons a as ih =>
    have next : (s.persist file a).content? file = some (old ++ (a.record ++ [10])) := by
      rw [Surroundings.persist, content?_append_self kept, holds, a.utf8Bytes_line]
      rfl
    obtain ⟨leads', holds'⟩ := ih (leads.append file _) next
    refine ⟨leads', holds'.trans (congrArg some ?_)⟩
    rw [List.map_cons, List.flatMap_cons, List.append_assoc]

/-- Each session finds the file that the one before left. -/
theorem Leads.foldlM_log (leads : s.Leads path file) (kept : file ≠ Place.nowhere)
    (holds : s.content? file = some old) (batches : List (List Aggregate)) :
    ∃ t, batches.foldlM (log? path) s = some t ∧ t.Leads path file ∧
      t.content? file = some (old ++ (batches.flatten.map Aggregate.record).flatMap (· ++ [10])) := by
  induction batches generalizing s old with
  | nil => exact ⟨s, rfl, leads, holds.trans (congrArg some (List.append_nil old).symm)⟩
  | cons as batches ih =>
    obtain ⟨leads', holds'⟩ := leads.foldl_persist kept holds as
    have session : s.log? path as = some (as.foldl (persist file) s) := by
      rw [log?, leads.open?]
      rfl
    obtain ⟨t, later, leads'', holds''⟩ := ih leads' holds'
    refine ⟨t, ?_, leads'', holds''.trans (congrArg some ?_)⟩
    · rw [List.foldlM_cons, session]
      exact later
    · rw [List.flatten_cons, List.map_append, List.flatMap_append, List.append_assoc]

/-- **A file of aggregates is read back.** Aggregates are appended to the file at a path one by one, in any
number of sessions that each open it anew. Then the file holds what it held before, and behind that one line
for each of the aggregates, whatever stands in their texts; and the line of an aggregate says that aggregate,
provided that its integers fit into their words, its doubles are finite, and the text of each of them is read
as that double. If the file ended in a line feed or was empty, its lines are the old ones and these. -/
theorem logs_read_back {batches : List (List Aggregate)} (opened : s.open? path = some (t, file))
    (kept : file ≠ Place.nowhere) (before : (s.content? file).getD [] = old)
    (whole : old = [] ∨ old.getLast? = some 10) (session : batches ≠ [])
    (fits : ∀ a ∈ batches.flatten, Aggregate.format.Fits a)
    (finite : ∀ a ∈ batches.flatten, ∀ y ∈ a.reals, y.isFinite = true)
    (printed : ∀ a ∈ batches.flatten, ∀ y ∈ a.reals, y.isFinite = true → ReadsBack y) :
    ∃ (after : Surroundings) (added : List UInt8) (lines : List (List UInt8)),
      batches.foldlM (log? path) s = some after ∧
      after.read? path = some (old ++ added) ∧
      splitAtEach 10 added = lines ++ [[]] ∧
      byteLines (old ++ added) = byteLines old ++ lines ∧
      lines.map Aggregate.ofRecord? = batches.flatten.map some := by
  have leads := leads_of_open? opened
  have holds : t.content? file = some old := before ▸ content?_of_open? opened
  obtain ⟨after, done, leads', holds'⟩ := leads.foldlM_log kept holds batches
  refine ⟨after, _, batches.flatten.map Aggregate.record, ?_, leads'.read?.trans holds', ?_, ?_, ?_⟩
  · -- The first session makes what is missing and goes on as if it had been there.
    obtain ⟨as, batches, rfl⟩ := List.exists_cons_of_ne_nil session
    have same : s.log? path as = t.log? path as := by
      rw [log?, log?, opened, leads.open?]
    rw [List.foldlM_cons] at done ⊢
    rw [same]
    exact done
  · refine splitAtEach_flatMap fun line mem => ?_
    obtain ⟨a, -, rfl⟩ := List.mem_map.1 mem
    exact a.feed_notMem_record
  · rw [byteLines, linesWith_append whole]
    exact congrArg (byteLines old ++ ·) (byteLines_records _)
  · rw [List.map_map]
    refine List.map_congr_left fun a mem => ?_
    rw [Function.comp_apply]
    exact Aggregate.ofRecord?_record (fits a mem) (finite a mem) (printed a mem)

end Surroundings

namespace Trial

def broken (value : Float) : Aggregate where
  series := ⟨"shop\n\"1\"", "visits\r\n", OrderedMap.empty.insert "clef\n" "\x01\r"⟩
  tier := .raw
  kind := .delta
  value := value
  mean := 0.1
  deviation := 0
  difference := value
  min := -value
  max := value
  isAnomaly := false
  severity := .normal
  score := 1.5
  count := 2
  timestamp := lowestInt

def folder : Surroundings := ⟨[["data"]], [(["data", "log"], [120, 10])]⟩

end Trial

/-- Two sessions append to a file that is there already, with line ends in the texts of the aggregates. -/
theorem Surroundings.logs_read_back_trial :
    ∃ (after : Surroundings) (added : List UInt8) (lines : List (List UInt8)),
      [[Trial.broken 1, Trial.broken 2], [Trial.broken 0.5]].foldlM (log? "data/log") Trial.folder
        = some after ∧
      after.read? "data/log" = some ([120, 10] ++ added) ∧
      splitAtEach 10 added = lines ++ [[]] ∧
      byteLines ([120, 10] ++ added) = byteLines [120, 10] ++ lines ∧
      lines.map Aggregate.ofRecord? = [Trial.broken 1, Trial.broken 2, Trial.broken 0.5].map some := by
  have way : wayOf "data/log" = ([], ["data", "log"]) := by decide +kernel
  have leaf : leafOf "data/log" = "log" := by rw [leafOf, way]; rfl
  have passes : Trial.folder.Passes [] ["data"] ["data"] := .on (by decide) (by decide) (.here _)
  have leads : Trial.folder.Leads "data/log" ["log", "data"] :=
    ⟨by decide +kernel, by rw [leaf]; rfl, ⟨["data"], by rw [way]; exact passes, by rw [leaf]⟩, by decide,
      by decide⟩
  have lowest : IsWord lowestInt := ⟨by decide, by decide⟩
  have fits : ∀ value, Aggregate.format.Fits (Trial.broken value) := fun _ => ⟨(by decide : 2 < 2 ^ 64), lowest⟩
  exact logs_read_back leads.open? (by decide) rfl (.inr rfl) (by decide)
    (List.forall_mem_cons.2 ⟨fits 1, List.forall_mem_cons.2 ⟨fits 2, List.forall_mem_cons.2 ⟨fits 0.5, nofun⟩⟩⟩)
    (by decide +kernel) (by decide +kernel)

end TierCascade
