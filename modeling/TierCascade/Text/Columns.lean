import TierCascade.Text.Columns.Table
/-!
# Columns

How many columns of a terminal a line takes. Most characters take one, those of East Asian scripts
and emoji two, and marks none. Some characters are drawn as one with those behind them, and take
columns together: emoji that are joined, coloured or framed, and letters that form a ligature.

A line is therefore read from its end. What was read says, as far as it matters, with what the text
behind a character starts.
-/

namespace TierCascade

namespace Columns

/-- Letters that form a ligature with a letter before them. -/
inductive Ligature where
  | alef
  | lamed
  | ya
  | vowelYa
  | consonant
  | joinedConsonant
  | tone
  | orkhon
  | subscript
  deriving Repr, DecidableEq

/-- What the text behind a character starts with. A ligature may have a joiner before it. Runs of
regional indicators count in pairs, and tags are letters or digits behind a flag. -/
inductive Start where
  | plain
  | ligature (l : Ligature) (joined : Bool)
  | vowelE
  | vowelAi
  | modifier
  | indicator
  | indicators
  | emoji
  | joiner
  | frame
  | firstJoined
  | evenJoined
  | oddJoined
  | tags (letters digits : Nat)
  deriving Repr, DecidableEq

/-- The style that a selector asks for. -/
inductive Selector where
  | emoji
  | text
  deriving Repr, DecidableEq

/-- What stands behind a character: perhaps a selector, and what comes then. -/
structure View where
  selector : Option Selector
  start : Start
  deriving Repr, DecidableEq

def View.plain : View := ⟨none, .plain⟩

/-- What is left of a start if a selector with nothing to select stands before it. -/
def Start.bare : Start → Start
  | .ligature l joined => .ligature l joined
  | _ => .plain

/-- What the selector of emoji leaves of what stands behind it. -/
def Start.forEmoji : Start → Start
  | .joiner => .joiner
  | .frame => .frame
  | s => s.bare

def within (low high : Nat) (c : Char) : Bool := low ≤ c.toNat && c.toNat ≤ high

/-- Marks that are drawn in no way and stand between the parts of a ligature. -/
def isHiddenMark (c : Char) : Bool :=
  c == '\u034f' || within 0x17B4 0x17B5 c || within 0x180B 0x180D c || c == '\u180f'
    || within 0xFE00 0xFE0F c || within 0xE0100 0xE01EF c

def isTifinagh (c : Char) : Bool := within 0x2D31 0x2D65 c || c == '\u2d6f'

def isAlef (c : Char) : Bool :=
  within 0x622 0x623 c || c == '\u0625' || c == '\u0627' || within 0x671 0x673 c || c == '\u0675'
    || within 0x773 0x774 c || within 0x870 0x882 c

def isLam (c : Char) : Bool :=
  c == '\u0644' || within 0x6B5 0x6B8 c || c == '\u076a' || c == '\u08a6' || c == '\u08c7'

/-- The letters of Khmer that are written below another one. -/
def isSubscript (c : Char) : Bool :=
  within 0x1780 0x1782 c || within 0x1784 0x1787 c || within 0x1789 0x178C c
    || within 0x178E 0x1793 c || within 0x1795 0x1798 c || within 0x179B 0x179D c
    || c == '\u17a0' || c == '\u17a2' || c == '\u17a7' || within 0x17AB 0x17AC c || c == '\u17af'

/-- Regional indicators; two of them are a flag. -/
def isIndicator (c : Char) : Bool := within 0x1F1E6 0x1F1FF c

def isModifier (c : Char) : Bool := within 0x1F3FB 0x1F3FF c

def isEmoji (c : Char) : Bool := inRanges emojiRanges c

/-- The columns of a character by itself, and what it is for the character before it. -/
def alone (c : Char) : Int × Start :=
  if c.toNat ≤ 0xA0 then (1, .plain)
  else if isAlef c then (1, .ligature .alef false)
  else if c = '\u05dc' then (1, .ligature .lamed false)
  else if isSubscript c then (1, .ligature .subscript false)
  else if c = '\u17d8' then (3, .plain)
  else if c = '\u1a10' then (1, .ligature .ya false)
  else if isTifinagh c then (1, .ligature .consonant false)
  else if within 0xA4FC 0xA4FD c then (1, .ligature .tone false)
  else if c.toNat = 0x10C03 then (1, .ligature .orkhon false)
  else if c.toNat = 0x16D67 then (1, .vowelE)
  else if c.toNat = 0x16D68 then (1, .vowelAi)
  else if isIndicator c then (1, .indicator)
  else if isModifier c then (2, .modifier)
  else if isEmoji c then (2, .emoji)
  else if inRanges columnlessRanges c then (0, .plain)
  else if inRanges wideRanges c then (2, .plain)
  else (1, .plain)

def beforeLigature? (c : Char) (l : Ligature) (joined : Bool) : Option (Int × Start) :=
  if l != .alef && c == '\u200d' then some (0, .ligature l true)
  else if l != .alef && isHiddenMark c then some (0, .ligature l joined)
  else
    match l, joined with
    | .alef, _ =>
      if isLam c then some (0, .plain)
      else if inRanges columnlessRanges c && !inRanges barringRanges c then some (0, .ligature l joined)
      else none
    | .lamed, true => if c = '\u05d0' then some (0, .plain) else none
    | .subscript, _ => if c = '\u17d2' then some (-1, .plain) else none
    | .ya, true => if c = '\u1a17' then some (0, .ligature .vowelYa true) else none
    | .vowelYa, _ => if c = '\u1a15' then some (0, .plain) else none
    | .consonant, _ =>
      if c = '\u2d7f' then some (1, .ligature .joinedConsonant true)
      else if joined && isTifinagh c then some (0, .plain)
      else none
    | .joinedConsonant, _ => if isTifinagh c then some (-1, .plain) else none
    | .tone, _ => if within 0xA4F8 0xA4FB c then some (0, .plain) else none
    | .orkhon, true => if c.toNat = 0x10C32 then some (0, .plain) else none
    | .lamed, false | .ya, false | .orkhon, false => none

/-- What a character does before tags: three to six letters, or three digits perhaps with letters
before the end, belong to a flag. -/
def beforeTags? (c : Char) (letters digits : Nat) : Option (Int × Start) :=
  if within 0xE0061 0xE007A c && digits == 0 && letters < 6 then some (0, .tags (letters + 1) 0)
  else if within 0xE0030 0xE0039 c && letters < 5 && digits < 3 then some (0, .tags letters (digits + 1))
  else if c.toNat == 0x1F3F4 && (digits == 3 || digits == 0 && 3 ≤ letters) then some (0, .emoji)
  else none

def beforeJoiner? (c : Char) : Option (Int × Start) :=
  if c = '\u20e3' then some (0, .frame)
  else if isIndicator c then some (1, .firstJoined)
  else if isModifier c then some (0, .modifier)
  else if c.toNat = 0xE007F then some (0, .tags 0 0)
  else if isEmoji c then some (0, .emoji)
  else none

def together? (c : Char) : Start → Option (Int × Start)
  | .plain | .frame => none
  | .ligature l joined => beforeLigature? c l joined
  | .vowelE =>
    if c.toNat = 0x16D63 then some (0, .plain)
    else if c.toNat = 0x16D67 then some (0, .vowelAi)
    else if c.toNat = 0x16D68 then some (1, .vowelE)
    else if c.toNat = 0x16D69 then some (0, .plain)
    else none
  | .vowelAi => if c.toNat = 0x16D63 then some (0, .plain) else none
  | .modifier =>
    if inRanges modifiedRanges c then some (0, .emoji)
    else if c = '\u200d' then some (0, .joiner)
    else none
  | .emoji => if c = '\u200d' then some (0, .joiner) else none
  | .indicator => if isIndicator c then some (1, .indicators) else none
  | .indicators =>
    if isIndicator c then some (1, .indicators)
    else if c = '\u200d' then some (0, .joiner)
    else none
  | .joiner => beforeJoiner? c
  | .firstJoined => if isIndicator c then some (-1, .evenJoined) else none
  | .evenJoined =>
    if isIndicator c then some (3, .oddJoined)
    else if c = '\u200d' then some (0, .joiner)
    else none
  | .oddJoined =>
    if isIndicator c then some (-1, .evenJoined)
    else if c = '\u200d' then some (0, .joiner)
    else none
  | .tags letters digits => beforeTags? c letters digits

/-- What a character adds in view of a start with no selector before it. -/
def unselected (c : Char) (s : Start) : Int × View :=
  let (columns, start) := (together? c s).getD (alone c)
  (columns, ⟨none, start⟩)

/-- What a character adds to the columns of the text behind it, and the view with it. -/
def add (c : Char) (v : View) : Int × View :=
  let start := if v.selector.isSome then v.start.bare else v.start
  if c = '\ufe0f' then (0, ⟨some .emoji, start.forEmoji⟩)
  else if c = '\ufe0e' then (0, ⟨some .text, start.bare⟩)
  else if v.selector = some .emoji ∧ inRanges styledRanges c then
    (if v.start = .joiner ∨ v.start = .frame then 0 else 2, ⟨none, .emoji⟩)
  else if v.selector = some .text ∧ inRanges plainedRanges c then (1, .plain)
  else unselected c start

/-- The columns of a text, and the view of it from before. -/
def measure (cs : List Char) (v : View) : Int × View :=
  cs.foldr (fun c m => let (columns, view) := add c m.2; (columns + m.1, view)) (0, v)

end Columns

def columns (cs : List Char) : Nat := (Columns.measure cs .plain).1.toNat

/-- A line with blanks behind it, so that it takes `width` columns. -/
def padColumns (width : Nat) (cs : List Char) : List Char := cs ++ List.replicate (width - columns cs) ' '

namespace Columns

theorem measure_blanks (n : Nat) : measure (List.replicate n ' ') .plain = ((n : Int), .plain) := by
  induction n with
  | zero => rfl
  | succ n ih =>
    have step : add ' ' .plain = (1, .plain) := by decide
    simp only [measure, List.replicate_succ, List.foldr_cons] at ih ⊢
    rw [ih]
    simp only [step, Prod.mk.injEq, and_true]
    omega

/-- What stands before a text takes the columns it takes in view of that text. -/
theorem measure_append (cs ds : List Char) (v : View) :
    measure (cs ++ ds) v =
      ((measure cs (measure ds v).2).1 + (measure ds v).1, (measure cs (measure ds v).2).2) := by
  induction cs with
  | nil => simp [measure]
  | cons c cs ih =>
    simp only [measure, List.cons_append, List.foldr_cons] at ih ⊢
    rw [ih]
    simp only [Prod.mk.injEq, and_true]
    omega

/-! ### No line takes less than no column -/

/-- What a start may still take back of the columns behind it. -/
def Start.debt : Start → Int
  | .ligature .subscript _ | .ligature .joinedConsonant _ | .firstJoined | .oddJoined => 1
  | _ => 0

/-- Whether a character and what stands behind it, of which `left` columns may be taken back, take
enough columns for all that may be taken back of them. -/
def Covers (left : Int) (r : Int × Start) : Prop := r.2.debt ≤ r.1 + left

theorem covers_ite {p : Prop} [Decidable p] {left : Int} {r s : Int × Start} (hr : Covers left r)
    (hs : Covers left s) : Covers left (if p then r else s) := by
  split <;> assumption

theorem debt_nonneg (s : Start) : 0 ≤ s.debt := by
  cases s with
  | ligature l joined => cases l <;> simp [Start.debt]
  | _ => simp [Start.debt]

theorem debt_bare (s : Start) : s.bare.debt ≤ s.debt := by
  cases s with
  | ligature l joined => cases l <;> simp [Start.bare, Start.debt]
  | _ => simp [Start.bare, Start.debt]

theorem debt_forEmoji (s : Start) : s.forEmoji.debt ≤ s.debt := by
  cases s with
  | ligature l joined => cases l <;> simp [Start.forEmoji, Start.bare, Start.debt]
  | _ => simp [Start.forEmoji, Start.bare, Start.debt]

theorem covers_alone (c : Char) : Covers 0 (alone c) := by
  unfold alone
  repeat' apply covers_ite
  all_goals simp [Covers, Start.debt]

theorem covers_together {c : Char} {s : Start} {r : Int × Start} (h : together? c s = some r) :
    Covers s.debt r := by
  unfold Covers
  cases s with
  | ligature l joined =>
    simp only [together?, beforeLigature?] at h
    cases l <;> cases joined <;> simp only [] at h <;> repeat' split at h
    all_goals first | (cases h; done) | (cases h; simp [Start.debt])
  | tags l d =>
    simp only [together?, beforeTags?] at h
    repeat' split at h
    all_goals first | (cases h; done) | (cases h; simp [Start.debt])
  | joiner =>
    simp only [together?, beforeJoiner?] at h
    repeat' split at h
    all_goals first | (cases h; done) | (cases h; simp [Start.debt])
  | _ =>
    simp only [together?] at h
    repeat' split at h
    all_goals first | (cases h; done) | (cases h; simp [Start.debt])

theorem debt_unselected (c : Char) (s : Start) :
    (unselected c s).2.start.debt ≤ (unselected c s).1 + s.debt := by
  have nonneg := debt_nonneg s
  unfold unselected
  cases h : together? c s with
  | none =>
    have alone := covers_alone c
    simp only [Covers, Option.getD_none] at alone ⊢
    omega
  | some r => exact covers_together h

theorem debt_add (c : Char) (v : View) : (add c v).2.start.debt ≤ (add c v).1 + v.start.debt := by
  have nonneg := debt_nonneg v.start
  have bare := debt_bare v.start
  have emoji := debt_forEmoji v.start
  have bareEmoji := debt_forEmoji v.start.bare
  have bareBare := debt_bare v.start.bare
  have unsel := debt_unselected c v.start
  have unselBare := debt_unselected c v.start.bare
  have noneEmoji : Start.emoji.debt = 0 := rfl
  have nonePlain : Start.plain.debt = 0 := rfl
  unfold add
  cases v.selector with
  | none =>
    simp only [Option.isSome_none, Bool.false_eq_true, if_false, reduceCtorEq, false_and]
    split
    · simp only; omega
    · split
      · simp only; omega
      · exact unsel
  | some s =>
    simp only [Option.isSome_some, if_true, Option.some.injEq]
    split
    · simp only; omega
    · split
      · simp only; omega
      · split
        · split <;> simp only <;> omega
        · split
          · simp only [View.plain]; omega
          · omega

/-- A line never takes fewer columns than may be taken back of them, nor then less than none. -/
theorem debt_measure (cs : List Char) :
    (measure cs .plain).2.start.debt ≤ (measure cs .plain).1 := by
  induction cs with
  | nil => decide
  | cons c cs ih =>
    have step := debt_add c (measure cs .plain).2
    simp only [measure, List.foldr_cons] at ih step ⊢
    omega

end Columns

/-- A line that is not too wide fills its columns exactly. -/
theorem columns_padColumns {width : Nat} {cs : List Char} (h : columns cs ≤ width) :
    columns (padColumns width cs) = width := by
  have whole := Columns.measure_append cs (List.replicate (width - columns cs) ' ') .plain
  have sound := Columns.debt_measure cs
  have nonneg := Columns.debt_nonneg (Columns.measure cs .plain).2.start
  rw [Columns.measure_blanks] at whole
  rw [columns, padColumns, whole]
  simp only [columns] at h ⊢
  omega

end TierCascade
