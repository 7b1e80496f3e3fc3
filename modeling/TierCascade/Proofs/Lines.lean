import Mathlib.Data.List.Basic
import Mathlib.Data.List.Induction
import TierCascade.Text.Lines
/-!
# Lines of texts and of bytes

The lines of a text depend on nothing but what stands between its line feeds: what is put behind a line
feed adds its own lines to those before (`linesWith_append_feed`).

In UTF-8 no byte of a longer character looks like one of a short one, so a text can be split before or
after it is turned into bytes: the lines of the bytes are the bytes of the lines
(`byteLines_utf8Bytes`).
-/

namespace TierCascade

/-! ### Splitting -/

section

variable {α : Type} [BEq α]

theorem splitAtEach_eq_splitOn (sep : α) (xs : List α) : splitAtEach sep xs = xs.splitOn sep := by
  induction xs with
  | nil => exact (List.splitOn_nil sep).symm
  | cons x xs ih =>
    rw [List.splitOn_cons_eq_if_modifyHead, ← ih, splitAtEach]
    cases pieces : splitAtEach sep xs with
    | nil => exact absurd (ih.symm.trans pieces) (List.splitOn_ne_nil sep xs)
    | cons piece pieces => rfl

theorem splitAtEach_ne_nil (sep : α) (xs : List α) : splitAtEach sep xs ≠ [] := by
  rw [splitAtEach_eq_splitOn]
  exact List.splitOn_ne_nil sep xs

theorem splitAtEach_cons_of_ne {sep x : α} (other : (x == sep) = false) (xs : List α) :
    splitAtEach sep (x :: xs) = (splitAtEach sep xs).modifyHead (x :: ·) := by
  simp only [splitAtEach_eq_splitOn, List.splitOn_cons_eq_if_modifyHead, other, Bool.false_eq_true, if_false]

theorem splitAtEach_append_feed [ReflBEq α] (sep : α) (xs ys : List α) :
    splitAtEach sep (xs ++ sep :: ys) = splitAtEach sep xs ++ splitAtEach sep ys := by
  simp only [splitAtEach_eq_splitOn, List.splitOn_append_cons_self]

theorem splitAtEach_cons_self [ReflBEq α] (sep : α) (xs : List α) :
    splitAtEach sep (sep :: xs) = [] :: splitAtEach sep xs :=
  splitAtEach_append_feed sep [] xs

variable [LawfulBEq α]

theorem splitAtEach_of_notMem {sep : α} {xs : List α} (free : sep ∉ xs) : splitAtEach sep xs = [xs] := by
  rw [splitAtEach_eq_splitOn, List.splitOn_eq_singleton free]

theorem splitAtEach_append_of_notMem {sep : α} {xs : List α} (free : sep ∉ xs) (ys : List α) :
    splitAtEach sep (xs ++ ys) = (splitAtEach sep ys).modifyHead (xs ++ ·) := by
  induction xs with
  | nil =>
    rw [List.nil_append]
    cases splitAtEach sep ys <;> rfl
  | cons x xs ih =>
    obtain ⟨apart, free⟩ := not_or.1 (List.mem_cons.not.1 free)
    have other : (x == sep) = false := beq_false_of_ne (Ne.symm apart)
    rw [List.cons_append, splitAtEach_cons_of_ne other, ih free, List.modifyHead_modifyHead]
    rfl

theorem splitAtEach_flatMap {sep : α} {lines : List (List α)} (free : ∀ line ∈ lines, sep ∉ line) :
    splitAtEach sep (lines.flatMap (· ++ [sep])) = lines ++ [[]] := by
  induction lines with
  | nil => rfl
  | cons line lines ih =>
    rw [List.flatMap_cons, List.append_assoc, List.singleton_append, splitAtEach_append_feed,
      splitAtEach_of_notMem (free line List.mem_cons_self), ih fun l mem => free l (List.mem_cons_of_mem _ mem)]
    rfl

end

/-! ### Lines -/

section

variable {α : Type} [BEq α] {feed ret : α}

/-- **What stands behind a line feed adds its own lines, and the text before keeps its lines.** -/
theorem linesWith_append_feed [ReflBEq α] (xs ys : List α) :
    linesWith feed ret (xs ++ feed :: ys)
      = (splitAtEach feed xs).map (dropLastIf ret) ++ linesWith feed ret ys := by
  have some := splitAtEach_ne_nil feed ys
  simp only [linesWith, splitAtEach_append_feed, List.dropLast_append_of_ne_nil some,
    List.getLast?_append_of_ne_nil _ some, List.map_append]
  split <;> simp only [List.append_assoc]

theorem linesWith_nil : linesWith feed ret [] = [] := rfl

theorem linesWith_of_notMem [LawfulBEq α] {line : List α} (free : feed ∉ line) (some : line ≠ []) :
    linesWith feed ret line = [line] := by
  cases line with
  | nil => exact absurd rfl some
  | cons x xs =>
    rw [linesWith, splitAtEach_of_notMem free]
    rfl

/-- A text that is empty or ends in a line feed can be put before any other one. -/
theorem linesWith_append [LawfulBEq α] {xs : List α} (whole : xs = [] ∨ xs.getLast? = some feed)
    (ys : List α) :
    linesWith feed ret (xs ++ ys) = linesWith feed ret xs ++ linesWith feed ret ys := by
  rcases whole with rfl | last
  · rfl
  · obtain ⟨xs, rfl⟩ := List.getLast?_eq_some_iff.1 last
    rw [List.append_assoc, List.singleton_append, linesWith_append_feed, linesWith_append_feed, linesWith_nil,
      List.append_nil]

end

/-! ### UTF-8 -/

theorem utf8Bytes_cons (c : Char) (cs : List Char) :
    utf8Bytes (c :: cs) = String.utf8EncodeChar c ++ utf8Bytes cs :=
  List.flatMap_cons ..

theorem utf8Bytes_append (cs ds : List Char) : utf8Bytes (cs ++ ds) = utf8Bytes cs ++ utf8Bytes ds :=
  List.flatMap_append ..

theorem utf8Bytes_eq_nil {cs : List Char} : utf8Bytes cs = [] ↔ cs = [] := by
  cases cs with
  | nil => exact iff_of_true rfl rfl
  | cons c cs =>
    rw [utf8Bytes_cons]
    exact iff_of_false (List.append_ne_nil_of_left_ne_nil String.utf8EncodeChar_ne_nil _) nofun

/-- **Bytes are read as a text just if they are its UTF-8.** -/
theorem utf8Line?_eq_some {bytes : List UInt8} {cs : List Char} :
    utf8Line? bytes = some cs ↔ bytes = utf8Bytes cs := by
  have written : (⟨bytes.toArray⟩ : ByteArray) = cs.utf8Encode ↔ bytes = utf8Bytes cs := by
    rw [List.utf8Encode, ByteArray.ext_iff, List.data_toByteArray]
    exact ⟨List.toArray_inj, congrArg _⟩
  rw [← written, utf8Line?, String.fromUTF8?]
  constructor
  · intro read
    obtain ⟨text, known, rfl⟩ := Option.map_eq_some_iff.1 read
    split at known
    · rename_i valid
      obtain rfl := Option.some.inj known
      exact (@String.utf8Encode_toList (String.fromUTF8 ⟨bytes.toArray⟩ valid)).symm
    · cases known
  · intro same
    rw [dif_pos (same ▸ ByteArray.isValidUTF8_utf8Encode)]
    have text : String.fromUTF8 ⟨bytes.toArray⟩ (same ▸ ByteArray.isValidUTF8_utf8Encode) = String.ofList cs :=
      String.toByteArray_inj.1 (same.trans String.toByteArray_ofList.symm)
    exact congrArg some ((congrArg String.toList text).trans String.toList_ofList)

theorem utf8Line?_utf8Bytes (cs : List Char) : utf8Line? (utf8Bytes cs) = some cs :=
  utf8Line?_eq_some.2 rfl

theorem utf8EncodeChar_cases (c : Char) :
    c.toNat < 128 ∧ String.utf8EncodeChar c = [UInt8.ofNat c.toNat] ∨
      128 ≤ c.toNat ∧ ∀ b ∈ String.utf8EncodeChar c, 128 ≤ b.toNat := by
  by_cases short : c.toNat ≤ 127
  · exact .inl ⟨by omega, if_pos short⟩
  · refine .inr ⟨by omega, ?_⟩
    have number : c.val.toNat = c.toNat := rfl
    simp only [String.utf8EncodeChar, number, if_neg short]
    split_ifs
    all_goals
      simp only [List.forall_mem_cons, UInt8.toNat_ofNat', List.not_mem_nil, false_imp_iff, implies_true, and_true]
      omega

theorem mem_utf8EncodeChar {c d : Char} (short : d.toNat < 128)
    (mem : UInt8.ofNat d.toNat ∈ String.utf8EncodeChar c) : c = d := by
  rcases utf8EncodeChar_cases c with ⟨ascii, one⟩ | ⟨-, long⟩
  · rw [one, List.mem_singleton, ← UInt8.toNat_inj, UInt8.toNat_ofNat', UInt8.toNat_ofNat'] at mem
    exact Char.toNat_inj.1 (by omega)
  · have high := long _ mem
    rw [UInt8.toNat_ofNat'] at high
    omega

theorem utf8EncodeChar_of_lt {c : Char} (short : c.toNat < 128) :
    String.utf8EncodeChar c = [UInt8.ofNat c.toNat] :=
  (utf8EncodeChar_cases c).elim And.right fun long => absurd long.1 (Nat.not_le.2 short)

/-- A text has a byte below 128 only where it has that character. -/
theorem mem_utf8Bytes {cs : List Char} {d : Char} (short : d.toNat < 128)
    (mem : UInt8.ofNat d.toNat ∈ utf8Bytes cs) : d ∈ cs := by
  obtain ⟨c, mem, byte⟩ := List.mem_flatMap.1 mem
  exact mem_utf8EncodeChar short byte ▸ mem

/-- **A text can be split at a short character before or after it is turned into bytes.** -/
theorem splitAtEach_utf8Bytes {d : Char} (short : d.toNat < 128) (cs : List Char) :
    splitAtEach (UInt8.ofNat d.toNat) (utf8Bytes cs) = (splitAtEach d cs).map utf8Bytes := by
  induction cs with
  | nil => rfl
  | cons c cs ih =>
    rw [utf8Bytes_cons]
    by_cases same : c = d
    · subst same
      rw [utf8EncodeChar_of_lt short, List.singleton_append, splitAtEach_cons_self, splitAtEach_cons_self, ih]
      rfl
    · have free : UInt8.ofNat d.toNat ∉ String.utf8EncodeChar c := fun mem => same (mem_utf8EncodeChar short mem)
      rw [splitAtEach_append_of_notMem free, ih, splitAtEach_cons_of_ne (beq_false_of_ne same)]
      cases splitAtEach d cs with
      | nil => rfl
      | cons piece pieces =>
        rw [List.map_cons, List.modifyHead_cons, List.modifyHead_cons, List.map_cons, utf8Bytes_cons]

theorem dropLastIf_utf8Bytes {d : Char} (short : d.toNat < 128) (cs : List Char) :
    dropLastIf (UInt8.ofNat d.toNat) (utf8Bytes cs) = utf8Bytes (dropLastIf d cs) := by
  cases cs using List.reverseRecOn with
  | nil => rfl
  | append_singleton cs c =>
    have one : utf8Bytes [c] = String.utf8EncodeChar c := List.append_nil _
    by_cases same : c = d
    · subst same
      have last : utf8Bytes (cs ++ [c]) = utf8Bytes cs ++ [UInt8.ofNat c.toNat] := by
        rw [utf8Bytes_append, one, utf8EncodeChar_of_lt short]
      simp [dropLastIf, last]
    · -- The last byte belongs to the last character, and that is another one.
      have other : ¬ (utf8Bytes (cs ++ [c])).getLast? = some (UInt8.ofNat d.toNat) := by
        rw [utf8Bytes_append, one, List.getLast?_append_of_ne_nil _ String.utf8EncodeChar_ne_nil]
        exact fun last => same (mem_utf8EncodeChar short (List.mem_of_getLast? last))
      rw [dropLastIf, dropLastIf, if_neg (by simpa using other), if_neg (by simpa using same)]

/-- **The lines of the bytes of a text are the bytes of its lines.** -/
theorem byteLines_utf8Bytes (cs : List Char) : byteLines (utf8Bytes cs) = (textLines cs).map utf8Bytes := by
  have pieces : splitAtEach 10 (utf8Bytes cs) = (splitAtEach '\n' cs).map utf8Bytes :=
    @splitAtEach_utf8Bytes '\n' (by decide) cs
  have ended : ∀ ls : List (List Char),
      (ls.map utf8Bytes).map (dropLastIf 13) = (ls.map (dropLastIf '\r')).map utf8Bytes := fun ls => by
    rw [List.map_map, List.map_map]
    exact List.map_congr_left fun l _ => @dropLastIf_utf8Bytes '\r' (by decide) l
  simp only [byteLines, textLines, linesWith, pieces, ← List.map_dropLast, ended, List.getLast?_map]
  cases (splitAtEach '\n' cs).getLast? with
  | none => rfl
  | some last =>
    cases last with
    | nil => rfl
    | cons c last =>
      obtain ⟨b, bytes, encoded⟩ := List.exists_cons_of_ne_nil (utf8Bytes_eq_nil.not.2 (List.cons_ne_nil c last))
      simp only [Option.map_some, encoded, List.map_append, List.map_cons, List.map_nil]

end TierCascade
