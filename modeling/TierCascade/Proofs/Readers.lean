import TierCascade.Agent.Input
import TierCascade.Console.Replay
import TierCascade.Proofs.Lines
/-!
# Two readers of samples

The agent splits bytes into lines and reads each line as text; a replay reads all bytes as text and splits
that. Of a text in UTF-8 both read the same, line by line (`readers_agree`): the same samples, and the same
complaints by the same numbers. Line ends do not matter, since a carriage return before a line feed is white
space at the end of a line anyway (`Reading.ofLine_dropLastIf`), and no line has an effect on any other one
(`Reading.ofText_around`).
-/

namespace TierCascade

/-! ### Lines -/

theorem trimBlanks_append_of_isBlank {c : Char} (blank : isBlank c = true) (cs : List Char) :
    trimBlanks (cs ++ [c]) = trimBlanks cs := by
  rw [trimBlanks, trimBlanks, List.dropWhile_append]
  split
  · rename_i all
    rw [List.isEmpty_iff.1 all, List.dropWhile_cons_of_pos blank]
    rfl
  · rw [List.reverse_append, List.reverse_singleton, List.singleton_append, List.dropWhile_cons_of_pos blank]

/-- A line without line feeds gives itself up to a carriage return at its end, and what stands before it
and behind it keeps its own lines. -/
theorem textLines_around {before line after : List Char} (whole : before = [] ∨ before.getLast? = some '\n')
    (free : '\n' ∉ line) (some : line ≠ []) (ended : after = [] ∨ after.head? = Option.some '\n') :
    ∃ line', (line' = line ∨ line' = dropLastIf '\r' line) ∧
      textLines (before ++ line ++ after) = textLines before ++ line' :: textLines after.tail := by
  unfold textLines
  rw [List.append_assoc, linesWith_append whole]
  rcases ended with rfl | ended
  · refine ⟨line, .inl rfl, ?_⟩
    rw [List.append_nil, linesWith_of_notMem free some]
    rfl
  · obtain ⟨rest, rfl⟩ := List.head?_eq_some_iff.1 ended
    refine ⟨dropLastIf '\r' line, .inr rfl, ?_⟩
    rw [linesWith_append_feed, splitAtEach_of_notMem free]
    rfl

namespace Reading

/-! ### Readings -/

def ofText (text : List Char) : List Reading := (textLines text).map ofLine

theorem ofLine_eq_blank {line : List Char} : ofLine line = .blank ↔ trimBlanks line = [] := by
  unfold ofLine
  split
  · exact iff_of_true rfl ‹_›
  · rename_i some
    refine iff_of_false ?_ some
    split <;> nofun

/-- A carriage return that is left at the end of a line makes no difference. -/
theorem ofLine_dropLastIf (line : List Char) : ofLine (dropLastIf '\r' line) = ofLine line := by
  have trimmed : trimBlanks (dropLastIf '\r' line) = trimBlanks line := by
    unfold dropLastIf
    split
    · rename_i last
      obtain ⟨cs, rfl⟩ := List.getLast?_eq_some_iff.1 (eq_of_beq last)
      rw [List.dropLast_concat, trimBlanks_append_of_isBlank (by decide)]
    · rfl
  rw [ofLine, ofLine, trimmed]

/-- **No line has an effect on another one.** A line is read by itself, and what stands before it and behind
it is read as if it stood there alone. -/
theorem ofText_around {before line after : List Char} (whole : before = [] ∨ before.getLast? = some '\n')
    (free : '\n' ∉ line) (some : line ≠ []) (ended : after = [] ∨ after.head? = Option.some '\n') :
    ofText (before ++ line ++ after) = ofText before ++ ofLine line :: ofText after.tail := by
  obtain ⟨line', same, lines⟩ := textLines_around whole free some ended
  have said : ofLine line' = ofLine line := by
    rcases same with rfl | rfl
    · rfl
    · exact ofLine_dropLastIf line
  rw [ofText, lines, List.map_append, List.map_cons, said]
  rfl

/-! ### Samples and complaints -/

variable {rs : List Reading} {i : Nat}

theorem samples_append (rs ss : List Reading) : samples (rs ++ ss) = samples rs ++ samples ss :=
  List.filterMap_append

theorem samples_cons_sample (x : Sample) (rs : List Reading) :
    samples (.sample x :: rs) = x :: samples rs := rfl

/-- The sample of a line has as many samples before it as the lines before have. -/
theorem samples_getElem? {x : Sample} (said : rs[i]? = some (.sample x)) :
    (samples rs)[(samples (rs.take i)).length]? = some x := by
  obtain ⟨inside, said⟩ := List.getElem?_eq_some_iff.1 said
  have parts : rs = rs.take i ++ .sample x :: rs.drop (i + 1) := by
    rw [← said, List.getElem_cons_drop, List.take_append_drop]
  have all : samples rs = samples (rs.take i) ++ x :: samples (rs.drop (i + 1)) := by
    rw [← samples_cons_sample, ← samples_append, ← parts]
  rw [all, List.getElem?_append_right (Nat.le_refl _), Nat.sub_self, List.getElem?_cons_zero]

theorem mem_complaints {n : Nat} {message : String} :
    (n, message) ∈ complaints rs ↔ ∃ i, n = i + 1 ∧ rs[i]? = some (.malformed message) := by
  constructor
  · intro mem
    obtain ⟨⟨r, i⟩, place, said⟩ := List.mem_filterMap.1 mem
    cases r with
    | malformed m =>
      cases said
      exact ⟨i, rfl, List.mem_zipIdx_iff_getElem?.1 place⟩
    | _ => cases said
  · rintro ⟨i, rfl, said⟩
    exact List.mem_filterMap.2 ⟨(.malformed message, i), List.mem_zipIdx_iff_getElem?.2 said, rfl⟩

theorem notMem_complaints {r : Reading} (said : rs[i]? = some r) (fine : ∀ message, r ≠ .malformed message)
    (message : String) : (i + 1, message) ∉ complaints rs := fun mem => by
  obtain ⟨j, same, malformed⟩ := mem_complaints.1 mem
  obtain rfl : i = j := Nat.succ.inj same
  exact fine message (Option.some.inj (said.symm.trans malformed))

theorem length_complaints (rs : List Reading) :
    (complaints rs).length = rs.countP fun r => r matches .malformed _ := by
  rw [← List.zipIdx_map_fst 0 rs, List.countP_map, complaints, List.length_filterMap_eq_countP,
    List.zipIdx_map_fst]
  refine List.countP_congr fun p _ => ?_
  obtain ⟨r, i⟩ := p
  cases r <;> exact Iff.rfl

/-- **All that is not blank is counted, and counted once.** -/
theorem length_samples_add_length_complaints (rs : List Reading) :
    (samples rs).length + (complaints rs).length = rs.countP (· ≠ .blank) := by
  rw [length_complaints]
  induction rs with
  | nil => rfl
  | cons r rs ih =>
    cases r with
    | blank => exact ih
    | sample x =>
      rw [samples_cons_sample, List.length_cons, List.countP_cons_of_neg (by simp),
        List.countP_cons_of_pos (by simp), ← ih]
      omega
    | malformed m =>
      have skipped : samples (.malformed m :: rs) = samples rs := rfl
      rw [skipped, List.countP_cons_of_pos (by simp), List.countP_cons_of_pos (by simp), ← ih]
      omega

/-- Where the line at some place is counted: a blank one nowhere, and another one either by its sample at its
place among the samples or by its number among the complaints. -/
inductive Counted (rs : List Reading) (i : Nat) (line : List Char) : Prop
  | blank (blank : trimBlanks line = []) (quiet : ∀ message, (i + 1, message) ∉ complaints rs)
  | sample (x : Sample) (filled : trimBlanks line ≠ []) (said : ofLine line = .sample x)
      (place : (samples rs)[(samples (rs.take i)).length]? = some x)
      (quiet : ∀ message, (i + 1, message) ∉ complaints rs)
  | malformed (message : String) (filled : trimBlanks line ≠ []) (said : ofLine line = .malformed message)
      (named : (i + 1, message) ∈ complaints rs)

theorem counted {line : List Char} (said : rs[i]? = some (ofLine line)) : Counted rs i line := by
  have filled : ofLine line ≠ .blank → trimBlanks line ≠ [] := mt ofLine_eq_blank.2
  cases kind : ofLine line with
  | blank =>
    exact .blank (ofLine_eq_blank.1 kind) (notMem_complaints said fun _ => by rw [kind]; nofun)
  | sample x =>
    exact .sample x (filled (by rw [kind]; nofun)) kind (samples_getElem? (kind ▸ said))
      (notMem_complaints said fun _ => by rw [kind]; nofun)
  | malformed message =>
    exact .malformed message (filled (by rw [kind]; nofun)) kind (mem_complaints.2 ⟨i, rfl, kind ▸ said⟩)

end Reading

/-! ### Both readers -/

theorem readFixture_utf8Bytes (text : List Char) :
    Console.readFixture (utf8Bytes text) = some (Reading.ofText text) := by
  have read : Console.readFixture (utf8Bytes text) = (utf8Line? (utf8Bytes text)).map Reading.ofText := by
    rw [utf8Line?, Option.map_map]
    rfl
  rw [read, utf8Line?_utf8Bytes, Option.map_some]

theorem Inflow.ofLines_utf8Bytes (lines : List (List Char)) :
    ofLines (lines.map utf8Bytes) = ⟨lines.map .ofLine, none⟩ := by
  induction lines with
  | nil => rfl
  | cons line lines ih => simp only [List.map_cons, ofLines, utf8Line?_utf8Bytes, ih]

theorem Inflow.ofBytes_utf8Bytes (text : List Char) :
    ofBytes (utf8Bytes text) = ⟨Reading.ofText text, none⟩ := by
  rw [ofBytes, byteLines_utf8Bytes, ofLines_utf8Bytes]
  rfl

/-- **The agent and a replay read the same samples.** Of the bytes of any text the agent takes in the very
samples that a replay runs, in the same order, and complains about the same lines by the same numbers. Each
line that is not blank is counted once, as a sample or as a complaint. A line that is not empty, malformed or
not, is read by itself, and the lines before it and behind it are read as if it were not there. -/
theorem readers_agree (text : List Char) :
    ∃ readings,
      Console.readFixture (utf8Bytes text) = some readings ∧
      Inflow.ofBytes (utf8Bytes text) = ⟨readings, none⟩ ∧
      (Inflow.ofBytes (utf8Bytes text)).samples = Reading.samples readings ∧
      (Inflow.ofBytes (utf8Bytes text)).complaints = Reading.complaints readings ∧
      readings.length = (textLines text).length ∧
      (∀ i line, (textLines text)[i]? = some line → Reading.Counted readings i line) ∧
      (textLines text).countP (trimBlanks · ≠ [])
        = (Reading.samples readings).length + (Reading.complaints readings).length ∧
      ∀ before line after, text = before ++ line ++ after → (before = [] ∨ before.getLast? = some '\n') →
        '\n' ∉ line → line ≠ [] → (after = [] ∨ after.head? = some '\n') →
        readings = Reading.ofText before ++ Reading.ofLine line :: Reading.ofText after.tail := by
  refine ⟨Reading.ofText text, readFixture_utf8Bytes text, Inflow.ofBytes_utf8Bytes text, ?_, ?_,
    List.length_map _, fun i line at_ => Reading.counted ?_, ?_, ?_⟩
  · rw [Inflow.ofBytes_utf8Bytes]
    rfl
  · rw [Inflow.ofBytes_utf8Bytes]
    rfl
  · rw [Reading.ofText, List.getElem?_map, at_]
    rfl
  · rw [Reading.length_samples_add_length_complaints, Reading.ofText, List.countP_map]
    refine List.countP_congr fun line _ => ?_
    simp [Reading.ofLine_eq_blank]
  · rintro before line after rfl whole free some ended
    exact Reading.ofText_around whole free some ended

/-- A malformed line between a blank one, with a carriage return, and one without a line end. -/
theorem readers_agree_trial :
    ∃ readings,
      Console.readFixture (utf8Bytes [' ', '\r', '\n', '{', '\n', '[', ']']) = some readings ∧
      Inflow.ofBytes (utf8Bytes [' ', '\r', '\n', '{', '\n', '[', ']']) = ⟨readings, none⟩ ∧
      readings
        = Reading.ofText [' ', '\r', '\n'] ++ Reading.ofLine ['{'] :: Reading.ofText ['[', ']'] := by
  obtain ⟨readings, fixture, inflow, -, -, -, -, -, around⟩ :=
    readers_agree [' ', '\r', '\n', '{', '\n', '[', ']']
  exact ⟨readings, fixture, inflow, around [' ', '\r', '\n'] ['{'] ['\n', '[', ']'] rfl (.inr rfl) (by decide)
    (by decide) (.inr rfl)⟩

end TierCascade
