import Mathlib.Data.List.TakeWhile
import TierCascade.Json.Decoder
/-!
# Scans of what was written

A text that was written from a JSON value is scanned to the end without a flaw, and the scan tells that
value (`Scan.Tells`): its numerals as they were spelled, its strings once their escapes are joined, its
items and members in their order.

Numbers are the only values that do not end by themselves, so they need something behind them that cannot
go on with them (`Scan.Ends`).
-/

namespace TierCascade

/-! ### Digits -/

namespace Numeral

variable (n : Numeral)

theorem isDigit_of_mem_digits {c : Char} (mem : c ∈ n.digits) : c.isDigit = true := by
  rcases List.mem_append.1 mem with zero | digit
  · rw [(List.mem_replicate.1 zero).2]
    rfl
  · exact Nat.isDigit_of_mem_toDigits (by decide) le_rfl digit

theorem ofDigitChars_digits : Nat.ofDigitChars 10 n.digits 0 = n.coefficient := by
  rw [digits, Nat.ofDigitChars_append, Nat.ofDigitChars_replicate_zero, Nat.mul_zero,
    Nat.ofDigitChars_ten_toDigits]

theorem places_lt_length : n.places < n.digits.length := by
  rw [digits, List.length_append, List.length_replicate]
  omega

theorem head_toDigits_ne {c : Nat} (pos : c ≠ 0) : (Nat.toDigits 10 c).head? ≠ some '0' := by
  induction c using Nat.strongRecOn with
  | ind c ih =>
    by_cases small : c < 10
    · have digit : ∀ c < 10, c ≠ 0 → [Nat.digitChar c].head? ≠ some '0' := by decide
      rw [Nat.toDigits_of_lt_base small]
      exact digit c small pos
    · rw [Nat.toDigits_of_base_le (by decide) (not_lt.1 small), List.head?_append]
      have tens := ih (c / 10) (by omega) (by omega)
      have digits := @Nat.toDigits_ne_nil (c / 10) 10
      cases all : Nat.toDigits 10 (c / 10) with
      | nil => exact absurd all digits
      | cons d ds => rwa [all] at tens

def whole : List Char := n.digits.take (n.digits.length - n.places)

def fraction : List Char := n.digits.drop (n.digits.length - n.places)

theorem whole_append_fraction : n.whole ++ n.fraction = n.digits := List.take_append_drop ..

theorem length_fraction : n.fraction.length = n.places := by
  have long := n.places_lt_length
  rw [fraction, List.length_drop]
  omega

theorem whole_ne_nil : n.whole ≠ [] := by
  have long := n.places_lt_length
  refine List.ne_nil_of_length_pos ?_
  rw [whole, List.length_take]
  omega

theorem whole_eq_zero (zero : n.whole.head? = some '0') : n.whole = ['0'] := by
  by_cases padded : (Nat.toDigits 10 n.coefficient).length ≤ n.places + 1
  · -- Just one digit stands before the point.
    have one : n.whole.length = 1 := by
      rw [whole, List.length_take, digits, List.length_append, List.length_replicate]
      omega
    obtain ⟨d, all⟩ := List.length_eq_one_iff.1 one
    rw [all] at zero ⊢
    rw [Option.some.inj zero]
  · have own : n.digits = Nat.toDigits 10 n.coefficient := by
      rw [digits, Nat.sub_eq_zero_of_le (by omega), List.replicate_zero, List.nil_append]
    have positive : n.coefficient ≠ 0 := by
      intro none
      rw [none, Nat.toDigits_zero] at padded
      exact padded (Nat.le_add_left ..)
    have head : n.digits.head? = some '0' := by
      rw [← n.whole_append_fraction, List.head?_append, zero]
      rfl
    rw [own] at head
    exact absurd head (head_toDigits_ne positive)

end Numeral

namespace Scan

/-- What cannot go on with a number. -/
def Ends (rest : List Char) : Prop := ∀ c ∈ rest.head?, c.isDigit = false ∧ c ≠ '.' ∧ c ≠ 'e' ∧ c ≠ 'E'

theorem ends_nil : Ends [] := nofun

theorem Ends.of_cons {c : Char} (stops : c.isDigit = false ∧ c ≠ '.' ∧ c ≠ 'e' ∧ c ≠ 'E') (rest : List Char) :
    Ends (c :: rest) := by
  intro d mem
  rwa [← Option.some.inj mem]

theorem spanDigits {ds rest : List Char} (digits : ∀ c ∈ ds, c.isDigit = true)
    (stops : ∀ c ∈ rest.head?, c.isDigit = false) :
    (ds ++ rest).takeWhile Char.isDigit = ds ∧ (ds ++ rest).dropWhile Char.isDigit = rest := by
  have taken : rest.takeWhile Char.isDigit = [] ∧ rest.dropWhile Char.isDigit = rest := by
    cases rest with
    | nil => exact ⟨rfl, rfl⟩
    | cons c rest => simp [stops c rfl]
  rw [List.takeWhile_append_of_pos digits, List.dropWhile_append_of_pos digits, taken.1, taken.2,
    List.append_nil]
  exact ⟨rfl, rfl⟩

theorem scanExponent_exponentChars {n : Numeral} (plain : n.exponent = none) (e : Option Int)
    {rest : List Char} (ends : Ends rest) :
    scanExponent n (Numeral.exponentChars e ++ rest) = .number { n with exponent := e } none rest := by
  cases e with
  | none =>
    have same : { n with exponent := none } = n := by rw [← plain]
    rw [same]
    cases rest with
    | nil => rfl
    | cons c rest =>
      obtain ⟨-, -, lower, upper⟩ := ends c rfl
      simp [Numeral.exponentChars, scanExponent, lower, upper]
  | some e =>
    have digits : ∀ c ∈ Nat.toDigits 10 e.natAbs, c.isDigit = true := fun c mem =>
      Nat.isDigit_of_mem_toDigits (by decide) le_rfl mem
    obtain ⟨taken, left⟩ := spanDigits digits fun c mem => (ends c mem).1
    have sized : (e.natAbs : Int) = if e < 0 then -e else e := by omega
    simp only [Numeral.exponentChars]
    generalize e.natAbs = size at *
    by_cases minus : e < 0
    · have value : -(size : Int) = e := by omega
      simp [scanExponent, minus, taken, left, Nat.toDigits_ne_nil, Nat.ofDigitChars_ten_toDigits, value]
    · have value : (size : Int) = e := by omega
      simp [scanExponent, minus, taken, left, Nat.toDigits_ne_nil, Nat.ofDigitChars_ten_toDigits, value]

/-- A numeral is scanned as it is spelled. -/
theorem scanNumber_chars (n : Numeral) {rest : List Char} (ends : Ends rest) :
    ∃ body, n.chars = (if n.negative then ['-'] else []) ++ body ∧
      (∃ d ds, body = d :: ds ∧ d.isDigit = true) ∧
      scanNumber n.negative (body ++ rest) = .number n none rest := by
  have exponent : ∀ c ∈ (Numeral.exponentChars n.exponent ++ rest).head?, c.isDigit = false ∧ c ≠ '.' := by
    intro c mem
    cases spelled : n.exponent with
    | none =>
      rw [spelled] at mem
      exact ⟨(ends c mem).1, (ends c mem).2.1⟩
    | some e =>
      rw [spelled] at mem
      obtain rfl : 'e' = c := Option.some.inj mem
      decide
  have wholeDigits : ∀ c ∈ n.whole, c.isDigit = true := fun c mem =>
    n.isDigit_of_mem_digits (List.mem_of_mem_take mem)
  have fractionDigits : ∀ c ∈ n.fraction, c.isDigit = true := fun c mem =>
    n.isDigit_of_mem_digits (List.mem_of_mem_drop mem)
  have nothingNeedless : ¬ (n.whole.head? = some '0' ∧ n.whole ≠ ['0']) := fun zero =>
    zero.2 (n.whole_eq_zero zero.1)
  obtain ⟨d, ds, first⟩ := List.exists_cons_of_ne_nil n.whole_ne_nil
  have digit : d.isDigit = true := wholeDigits d (first ▸ List.mem_cons_self)
  by_cases none : n.places = 0
  · have all : n.whole = n.digits := by rw [Numeral.whole, none, Nat.sub_zero, List.take_length]
    have value : Nat.ofDigitChars 10 n.whole 0 = n.coefficient := by rw [all, n.ofDigitChars_digits]
    refine ⟨n.whole ++ Numeral.exponentChars n.exponent, ?_, ⟨d, _, by rw [first]; rfl, digit⟩, ?_⟩
    · simp [Numeral.chars, none, Numeral.whole]
    · obtain ⟨taken, left⟩ := spanDigits wholeDigits fun c mem => (exponent c mem).1
      rw [List.append_assoc, scanNumber]
      simp only [taken, left, if_neg n.whole_ne_nil, if_neg nothingNeedless, value]
      split
      · rename_i point
        exact absurd rfl (exponent '.' (by rw [point]; rfl)).2
      · rw [scanExponent_exponentChars rfl n.exponent ends, ← none]
  · have some : n.fraction ≠ [] := by
      refine List.ne_nil_of_length_pos ?_
      rw [n.length_fraction]
      exact Nat.pos_of_ne_zero none
    have value : Nat.ofDigitChars 10 (n.whole ++ n.fraction) 0 = n.coefficient := by
      rw [n.whole_append_fraction, n.ofDigitChars_digits]
    refine ⟨n.whole ++ '.' :: (n.fraction ++ Numeral.exponentChars n.exponent), ?_,
      ⟨d, _, by rw [first]; rfl, digit⟩, ?_⟩
    · simp [Numeral.chars, none, Numeral.whole, Numeral.fraction]
    · have point : ∀ c ∈ ('.' :: (n.fraction ++ (Numeral.exponentChars n.exponent ++ rest))).head?,
          c.isDigit = false := by
        intro c mem
        obtain rfl : '.' = c := Option.some.inj mem
        rfl
      obtain ⟨taken, left⟩ := spanDigits wholeDigits point
      obtain ⟨taken', left'⟩ := spanDigits fractionDigits fun c mem => (exponent c mem).1
      rw [List.append_assoc, List.cons_append, List.append_assoc, scanNumber]
      simp only [taken, left, taken', left', if_neg n.whole_ne_nil, if_neg nothingNeedless, if_neg some, value,
        n.length_fraction]
      rw [scanExponent_exponentChars rfl n.exponent ends]

/-! ### Strings -/

theorem hexUnit_hexDigit {n : Nat} (control : n < 32) :
    hexUnit? '0' '0' (Json.hexDigit (n / 16)) (Json.hexDigit n) = some n := by
  have all : ∀ n < 32, hexUnit? '0' '0' (Json.hexDigit (n / 16)) (Json.hexDigit n) = some n := by decide
  exact all n control

theorem scanPieces_escapeChar (c : Char) (rest : List Char) :
    ∃ p, scanPieces (Json.escapeChar c ++ rest) = (scanPieces rest).push p ∧
      (p = .char c ∨ p = .unit c.toNat ∧ c.toNat < 32) := by
  unfold Json.escapeChar
  split_ifs with quote backslash backspace feed line return_ tab control
  · exact ⟨.char c, by simp [scanPieces, unescape?, quote], .inl rfl⟩
  · exact ⟨.char c, by simp [scanPieces, unescape?, backslash], .inl rfl⟩
  · exact ⟨.char c, by simp [scanPieces, unescape?, backspace], .inl rfl⟩
  · exact ⟨.char c, by simp [scanPieces, unescape?, feed], .inl rfl⟩
  · exact ⟨.char c, by simp [scanPieces, unescape?, line], .inl rfl⟩
  · exact ⟨.char c, by simp [scanPieces, unescape?, return_], .inl rfl⟩
  · exact ⟨.char c, by simp [scanPieces, unescape?, tab], .inl rfl⟩
  · refine ⟨.unit c.toNat, ?_, .inr ⟨rfl, control⟩⟩
    simp [scanPieces, hexUnit_hexDigit control]
  · refine ⟨.char c, ?_, .inl rfl⟩
    simp [scanPieces, backslash, control]

theorem joinPieces_cons {p : Piece} {c : Char} (piece : p = .char c ∨ p = .unit c.toNat ∧ c.toNat < 32)
    (ps : List Piece) (flaw : Option Flaw) :
    joinPieces (p :: ps) flaw = (joinPieces ps flaw).map (c :: ·) := by
  rcases piece with rfl | ⟨rfl, control⟩
  · rfl
  · have plain : c.toNat < 0xD800 ∨ 0xE000 ≤ c.toNat := .inl (control.trans (by decide))
    rw [joinPieces.eq_def]
    dsimp only
    rw [if_pos plain, Char.ofNat_toNat]

/-- **A string is scanned without a flaw, and its pieces make up the string.** -/
theorem scanPieces_escaped (cs rest : List Char) :
    ∃ ps, scanPieces (cs.flatMap Json.escapeChar ++ '"' :: rest) = ⟨ps, none, rest⟩ ∧
      joinPieces ps none = .ok cs := by
  induction cs with
  | nil => exact ⟨[], by simp [scanPieces], rfl⟩
  | cons c cs ih =>
    obtain ⟨ps, scanned, joined⟩ := ih
    obtain ⟨p, first, piece⟩ := scanPieces_escapeChar c (cs.flatMap Json.escapeChar ++ '"' :: rest)
    refine ⟨p :: ps, ?_, ?_⟩
    · rw [List.flatMap_cons, List.append_assoc, first, scanned]
      rfl
    · rw [joinPieces_cons piece, joined]
      rfl

theorem scanString_quote (name : String) (rest : List Char) :
    ∃ ps, scanString (name.toList.flatMap Json.escapeChar ++ '"' :: rest) = .string ps none rest ∧
      joinPieces ps none = .ok name.toList := by
  obtain ⟨ps, scanned, joined⟩ := scanPieces_escaped name.toList rest
  exact ⟨ps, by rw [scanString, scanned], joined⟩

/-! ### Values -/

mutual

/-- A scan without a flaw tells a value. -/
inductive Tells : Scan → Json → Prop
  | null (after : List Char) : Tells (.word none none after) .null
  | bool (b : Bool) (after : List Char) : Tells (.word (some b) none after) (.bool b)
  | number (n : Numeral) (after : List Char) : Tells (.number n none after) (.number n)
  | string {ps : List Piece} {text : String} (joined : joinPieces ps none = .ok text.toList)
      (after : List Char) : Tells (.string ps none after) (.string text)
  | array {ss : List Scan} {js : List Json} (items : TellsItems ss js) (after : List Char) :
      Tells (.array ss none after) (.array js)
  | object {ss : List (Scan × Scan)} {ms : List (String × Json)} (members : TellsMembers ss ms)
      (after : List Char) : Tells (.object ss none after) (.object ms)

/-- Scans tell the items of an array, one after the other. -/
inductive TellsItems : List Scan → List Json → Prop
  | nil : TellsItems [] []
  | cons {s : Scan} {j : Json} {ss : List Scan} {js : List Json} (first : Tells s j)
      (rest : TellsItems ss js) : TellsItems (s :: ss) (j :: js)

/-- Pairs of scans tell the members of an object, one after the other. -/
inductive TellsMembers : List (Scan × Scan) → List (String × Json) → Prop
  | nil : TellsMembers [] []
  | cons {ps : List Piece} {after : List Char} {s : Scan} {name : String} {j : Json}
      {ss : List (Scan × Scan)} {ms : List (String × Json)} (named : joinPieces ps none = .ok name.toList)
      (first : Tells s j) (rest : TellsMembers ss ms) :
      TellsMembers ((.string ps none after, s) :: ss) ((name, j) :: ms)

end

theorem Tells.flaw {s : Scan} {j : Json} (tells : s.Tells j) : s.flaw = none := by
  cases tells <;> rfl

theorem isSpace_of_isDigit {d : Char} (digit : d.isDigit = true) : isSpace d = false := by
  by_contra space
  simp only [isSpace, Bool.not_eq_false, decide_eq_true_eq] at space
  rcases space with rfl | rfl | rfl | rfl <;> cases digit

theorem skipSpace_cons {c : Char} (ink : isSpace c = false) (rest : List Char) :
    skipSpace (c :: rest) = c :: rest := by
  rw [skipSpace, List.dropWhile_cons_of_neg (by simp [ink])]

theorem exists_compactChars (j : Json) :
    ∃ c cs, j.compactChars = c :: cs ∧ isSpace c = false ∧ c ≠ ']' := by
  cases j with
  | null => exact ⟨'n', _, rfl, rfl, by decide⟩
  | bool b => cases b <;> exact ⟨_, _, rfl, rfl, by decide⟩
  | string text => exact ⟨'"', _, rfl, rfl, by decide⟩
  | array js => exact ⟨'[', _, rfl, rfl, by decide⟩
  | object ms => exact ⟨'{', _, rfl, rfl, by decide⟩
  | number n =>
    obtain ⟨body, spelled, ⟨d, ds, rfl, digit⟩, -⟩ := scanNumber_chars n ends_nil
    cases negative : n.negative with
    | true => exact ⟨'-', d :: ds, by rw [Json.compactChars, spelled, negative]; rfl, rfl, by decide⟩
    | false =>
      refine ⟨d, ds, by rw [Json.compactChars, spelled, negative]; rfl, isSpace_of_isDigit digit, ?_⟩
      rintro rfl
      cases digit

theorem scanValue_digit {d : Char} (digit : d.isDigit = true) (fuel : Nat) (rest : List Char) :
    scanValue (fuel + 1) (d :: rest) = scanNumber false (d :: rest) := by
  rw [scanValue, skipSpace_cons (isSpace_of_isDigit digit)]
  split <;> rename_i same <;> cases same
  all_goals first | cases digit | exact if_pos digit

theorem scanValue_array {c : Char} (ink : isSpace c = false) (other : c ≠ ']') (fuel : Nat) (cs : List Char) :
    scanValue (fuel + 1) ('[' :: c :: cs)
      = .array (scanItems fuel (c :: cs)).parts (scanItems fuel (c :: cs)).flaw
        (scanItems fuel (c :: cs)).after := by
  rw [scanValue, skipSpace_cons (show isSpace '[' = false from rfl)]
  simp only [skipSpace_cons ink]
  split
  · rename_i same
    cases same
  · rename_i same
    exact absurd (List.cons.inj same).1 other
  · rfl

theorem scanValue_object (fuel : Nat) (cs : List Char) :
    scanValue (fuel + 1) ('{' :: '"' :: cs)
      = .object (scanMembers fuel ('"' :: cs)).parts (scanMembers fuel ('"' :: cs)).flaw
          (scanMembers fuel ('"' :: cs)).after := by
  rw [scanValue, skipSpace_cons (show isSpace '{' = false from rfl)]
  simp only [skipSpace_cons (show isSpace '"' = false from rfl)]
  rfl

theorem continueBody_comma {α : Type} {closing : Char} (other : ',' ≠ closing) (part : α) (cs : List Char)
    (more : List Char → Body α) :
    continueBody closing part none (',' :: cs) more = { more cs with parts := part :: (more cs).parts } := by
  simp only [continueBody, skipSpace_cons (show isSpace ',' = false from rfl), if_neg other, if_true]

theorem continueBody_closing {α : Type} {closing : Char} (ink : isSpace closing = false) (part : α)
    (cs : List Char) (more : List Char → Body α) :
    continueBody closing part none (closing :: cs) more = ⟨[part], none, cs⟩ := by
  simp only [continueBody, skipSpace_cons ink, if_true]

theorem exists_joinWith_compactItems (j : Json) (js : List Json) :
    ∃ c cs, Json.joinWith [','] (Json.compactItems (j :: js)) = c :: cs ∧ isSpace c = false ∧ c ≠ ']' := by
  obtain ⟨c, cs, spelled, ink, other⟩ := exists_compactChars j
  cases js with
  | nil => exact ⟨c, cs, spelled, ink, other⟩
  | cons j' js => exact ⟨c, _, congrArg (· ++ [','] ++ _) spelled, ink, other⟩

theorem exists_joinWith_compactMembers (name : String) (j : Json) (ms : List (String × Json)) :
    ∃ cs, Json.joinWith [','] (Json.compactMembers ((name, j) :: ms)) = '"' :: cs := by
  cases ms <;> exact ⟨_, rfl⟩

theorem scanMembers_quote (name : String) {j : Json} {fuel : Nat} {cs text : List Char}
    (tells : (scanValue (fuel + 1) cs).Tells j) (after : (scanValue (fuel + 1) cs).after = text) :
    ∃ ps behind, joinPieces ps none = .ok name.toList ∧
      scanMembers (fuel + 2) (Json.quote name ++ ':' :: cs)
        = continueBody '}' (.string ps none behind, scanValue (fuel + 1) cs) none text
            (scanMembers (fuel + 1)) := by
  obtain ⟨ps, scanned, joined⟩ := scanString_quote name (':' :: cs)
  have first : scanValue (fuel + 1) (Json.quote name ++ ':' :: cs) = .string ps none (':' :: cs) := by
    rw [Json.quote, List.append_assoc]
    exact scanned
  refine ⟨ps, ':' :: cs, joined, ?_⟩
  have behind : (Scan.string ps none (':' :: cs)).after = ':' :: cs := rfl
  rw [scanMembers]
  simp only [first, nameFlaw, behind, skipSpace_cons (show isSpace ':' = false from rfl), tells.flaw, after,
    Option.or_none]

-- Going into an array or an object takes two units of fuel and leaves a bracket behind, going on to the
-- next part takes one and leaves a comma behind: two for each character are enough.
mutual

/-- **The text of a value is scanned as that value**, up to whatever follows it. -/
theorem scanValue_compactChars (j : Json) (fuel : Nat) {rest : List Char} (ends : Ends rest)
    (enough : 2 * j.compactChars.length ≤ fuel) :
    (scanValue fuel (j.compactChars ++ rest)).Tells j ∧
      (scanValue fuel (j.compactChars ++ rest)).after = rest := by
  obtain ⟨c, cs, spelled, ink, -⟩ := exists_compactChars j
  obtain ⟨fuel, rfl⟩ : ∃ f, fuel = f + 1 := by
    rw [spelled, List.length_cons] at enough
    exact ⟨fuel - 1, by omega⟩
  cases j with
  | null => exact ⟨.null rest, rfl⟩
  | bool b => cases b <;> exact ⟨.bool _ rest, rfl⟩
  | number n =>
    obtain ⟨body, spelled, ⟨d, ds, rfl, digit⟩, scanned⟩ := scanNumber_chars n ends
    have all : scanValue (fuel + 1) ((Json.number n).compactChars ++ rest) = .number n none rest := by
      rw [Json.compactChars, spelled]
      cases negative : n.negative with
      | true =>
        rw [negative] at scanned
        exact scanned
      | false =>
        rw [negative] at scanned
        exact (scanValue_digit digit fuel _).trans scanned
    rw [all]
    exact ⟨.number n rest, rfl⟩
  | string text =>
    obtain ⟨ps, scanned, joined⟩ := scanString_quote text rest
    have all : scanValue (fuel + 1) ((Json.string text).compactChars ++ rest) = .string ps none rest := by
      rw [Json.compactChars, Json.quote, List.append_assoc]
      exact scanned
    rw [all]
    exact ⟨.string joined rest, rfl⟩
  | array js =>
    cases js with
    | nil => exact ⟨.array .nil rest, rfl⟩
    | cons j js =>
      rw [Json.compactChars, List.length_append, List.length_cons] at enough
      obtain ⟨ss, scanned, items⟩ := scanItems_compactItems (j :: js) nofun fuel rest (by omega)
      have all : scanValue (fuel + 1) ((Json.array (j :: js)).compactChars ++ rest) = .array ss none rest := by
        obtain ⟨c, cs, first, ink, other⟩ := exists_joinWith_compactItems j js
        rw [Json.compactChars, List.append_assoc, List.cons_append, List.singleton_append]
        rw [first, List.cons_append] at scanned ⊢
        rw [scanValue_array ink other, scanned]
      rw [all]
      exact ⟨.array items rest, rfl⟩
  | object ms =>
    cases ms with
    | nil => exact ⟨.object .nil rest, rfl⟩
    | cons m ms =>
      obtain ⟨name, j⟩ := m
      rw [Json.compactChars, List.length_append, List.length_cons] at enough
      obtain ⟨ss, scanned, members⟩ := scanMembers_compactMembers ((name, j) :: ms) nofun fuel rest (by omega)
      have all : scanValue (fuel + 1) ((Json.object ((name, j) :: ms)).compactChars ++ rest)
          = .object ss none rest := by
        obtain ⟨cs, first⟩ := exists_joinWith_compactMembers name j ms
        rw [Json.compactChars, List.append_assoc, List.cons_append, List.singleton_append]
        rw [first, List.cons_append] at scanned ⊢
        rw [scanValue_object, scanned]
      rw [all]
      exact ⟨.object members rest, rfl⟩

theorem scanItems_compactItems (js : List Json) (some : js ≠ []) (fuel : Nat) (rest : List Char)
    (enough : 2 * (Json.joinWith [','] (Json.compactItems js)).length < fuel) :
    ∃ ss, scanItems fuel (Json.joinWith [','] (Json.compactItems js) ++ ']' :: rest) = ⟨ss, none, rest⟩ ∧
      TellsItems ss js := by
  obtain ⟨fuel, rfl⟩ : ∃ f, fuel = f + 1 := ⟨fuel - 1, by omega⟩
  rcases js with - | ⟨j, - | ⟨j', js⟩⟩
  · exact absurd rfl some
  · have enough : 2 * j.compactChars.length < fuel + 1 := enough
    obtain ⟨tells, after⟩ := scanValue_compactChars j fuel
      (Ends.of_cons (by decide) rest : Ends (']' :: rest)) (by omega)
    refine ⟨[_], ?_, .cons tells .nil⟩
    rw [scanItems]
    simp only [Json.compactItems, Json.joinWith, tells.flaw, after]
    exact continueBody_closing rfl ..
  · have joined : Json.joinWith [','] (Json.compactItems (j :: j' :: js))
        = j.compactChars ++ ',' :: Json.joinWith [','] (Json.compactItems (j' :: js)) :=
      List.append_assoc ..
    rw [joined, List.length_append, List.length_cons] at enough
    obtain ⟨tells, after⟩ := scanValue_compactChars j fuel
      (Ends.of_cons (by decide) (Json.joinWith [','] (Json.compactItems (j' :: js)) ++ ']' :: rest)
        : Ends (',' :: _)) (by omega)
    obtain ⟨ss, scanned, items⟩ := scanItems_compactItems (j' :: js) nofun fuel rest (by omega)
    refine ⟨_ :: ss, ?_, .cons tells items⟩
    rw [joined, List.append_assoc, List.cons_append, scanItems]
    simp only [tells.flaw, after]
    rw [continueBody_comma (by decide), scanned]

theorem scanMembers_compactMembers (ms : List (String × Json)) (some : ms ≠ []) (fuel : Nat) (rest : List Char)
    (enough : 2 * (Json.joinWith [','] (Json.compactMembers ms)).length < fuel) :
    ∃ ss, scanMembers fuel (Json.joinWith [','] (Json.compactMembers ms) ++ '}' :: rest) = ⟨ss, none, rest⟩ ∧
      TellsMembers ss ms := by
  rcases ms with - | ⟨⟨name, j⟩, - | ⟨⟨name', j'⟩, ms⟩⟩
  · exact absurd rfl some
  · have joined : Json.joinWith [','] (Json.compactMembers [(name, j)])
        = Json.quote name ++ ':' :: j.compactChars := rfl
    rw [joined, List.length_append, List.length_cons] at enough
    obtain ⟨fuel, rfl⟩ : ∃ f, fuel = f + 2 := ⟨fuel - 2, by omega⟩
    obtain ⟨tells, after⟩ := scanValue_compactChars j (fuel + 1)
      (Ends.of_cons (by decide) rest : Ends ('}' :: rest)) (by omega)
    obtain ⟨ps, behind, named, scanned⟩ := scanMembers_quote name tells after
    refine ⟨[(.string ps none behind, _)], ?_, .cons named tells .nil⟩
    rw [joined, List.append_assoc, List.cons_append, scanned]
    exact continueBody_closing rfl ..
  · have joined : Json.joinWith [','] (Json.compactMembers ((name, j) :: (name', j') :: ms))
        = Json.quote name ++ ':' :: (j.compactChars
          ++ ',' :: Json.joinWith [','] (Json.compactMembers ((name', j') :: ms))) := by
      simp [Json.compactMembers, Json.joinWith]
    rw [joined, List.length_append, List.length_cons, List.length_append, List.length_cons] at enough
    obtain ⟨fuel, rfl⟩ : ∃ f, fuel = f + 2 := ⟨fuel - 2, by omega⟩
    obtain ⟨tells, after⟩ := scanValue_compactChars j (fuel + 1)
      (Ends.of_cons (by decide) (Json.joinWith [','] (Json.compactMembers ((name', j') :: ms)) ++ '}' :: rest)
        : Ends (',' :: _)) (by omega)
    obtain ⟨ss, others, members⟩ :=
      scanMembers_compactMembers ((name', j') :: ms) nofun (fuel + 1) rest (by omega)
    obtain ⟨ps, behind, named, scanned⟩ := scanMembers_quote name tells after
    refine ⟨(.string ps none behind, _) :: ss, ?_, .cons named tells members⟩
    rw [joined, List.append_assoc, List.cons_append, List.append_assoc, List.cons_append, scanned,
      continueBody_comma (by decide), others]

end

/-- **A text that was written from a value is scanned as that value, and nothing is left of it.** -/
theorem ofText_compactChars (j : Json) :
    (ofText j.compactChars).Tells j ∧ (ofText j.compactChars).after = [] := by
  have scanned := scanValue_compactChars j (2 * j.compactChars.length + 2) ends_nil (by omega)
  rwa [List.append_nil] at scanned

end Scan

end TierCascade
