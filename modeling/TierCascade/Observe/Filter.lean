import TierCascade.Observe.Event
import TierCascade.Text.Lines
/-!
# Filters of reports

A filter says down to which level reports are let through. It is a list of rules between commas,
each for all reports or for those of one reporter; of the rules that speak of a reporter, the one
with the longest name counts. A filter with a rule that makes no sense is not used at all.
-/

namespace TierCascade

/-- A rule: the reporters that it speaks of, by the start of their names, and the rank down to which
it lets their reports through. A rule for what happens within a span speaks of no reporter. -/
structure FilterRule where
  reporter : Option (List Char)
  limit : Nat
  inSpan : Bool
  deriving Repr, DecidableEq

namespace FilterRule

/-- The rank that lets everything through. -/
def everything : Nat := 5

def rank? (word : List Char) : Option Nat :=
  match String.ofList (word.map Char.toLower) with
  | "off" => some 0
  | "error" => some 1
  | "warn" => some 2
  | "info" => some 3
  | "debug" => some 4
  | "trace" => some everything
  | _ =>
    let rank := Nat.ofDigitChars 10 word 0
    if !word.isEmpty && word.all Char.isDigit && rank ≤ everything then some rank else none

/-- The characters that the name of a reporter starts with. -/
def startsName (c : Char) : Bool := c.isAlphanum || "_:-".toList.contains c || 0x7F < c.toNat

/-- Reads a rule: the name of a reporter, a span in brackets, an equals sign and a rank, as far as
they are there. A rank may stand alone. No rule holds a blank. -/
def ofText? (cs : List Char) : Option FilterRule := do
  let name := cs.takeWhile fun c => c != '=' && c != '['
  let rest := cs.drop name.length
  let inSpan := rest.head? = some '['
  let rest := if inSpan then rest.dropWhile (· != ']') else rest
  let isNamed := if name.isEmpty then inSpan else name.head?.any startsName
  if !isNamed ∨ cs.contains ' ' ∨ (inSpan ∧ rest.isEmpty) then none
  match if inSpan then rest.tail else rest with
  | [] =>
    match if inSpan then none else rank? name with
    | some limit => return ⟨none, limit, inSpan⟩
    | none => return ⟨some name, everything, inSpan⟩
  | ['='] => return ⟨some name, everything, inSpan⟩
  | '=' :: word => return ⟨some name, ← rank? word, inSpan⟩
  | _ => none

def weight? (rule : FilterRule) (reporter : List Char) : Option Nat :=
  if rule.inSpan then none
  else
    match rule.reporter with
    | none => some 0
    | some name => if name.isPrefixOf reporter then some (name.length + 1) else none

end FilterRule

structure Filter where
  rules : List FilterRule
  deriving Repr, DecidableEq

namespace Filter

/-- The filter that lets everything through but what only matters to those who mend the program. -/
def standard : Filter := ⟨[⟨none, Level.info.rank, false⟩]⟩

/-- Reads a filter. Without any rules only errors are let through. -/
def ofText (text : String) : Filter :=
  let texts := (splitAtEach ',' text.toList).filter (!·.isEmpty)
  match texts.mapM FilterRule.ofText? with
  | none => standard
  | some [] => ⟨[⟨none, Level.error.rank, false⟩]⟩
  | some rules => ⟨rules⟩

/-- The rank down to which the reports of a reporter are let through. Of rules that speak of it
equally exactly, the last counts. -/
def limit (filter : Filter) (reporter : String) : Nat :=
  let better (best : Option (Nat × Nat)) (rule : FilterRule) : Option (Nat × Nat) :=
    match rule.weight? reporter.toList, best with
    | none, best => best
    | some weight, none => some (weight, rule.limit)
    | some weight, some (most, limit) =>
      if most ≤ weight then some (weight, rule.limit) else some (most, limit)
  ((filter.rules.foldl better none).map (·.2)).getD 0

def passes (filter : Filter) (reporter : String) (level : Level) : Bool :=
  level.rank ≤ filter.limit reporter

end Filter

def cascadeReporter : String := "cascade_lib::observability"

end TierCascade
