import TierCascade.Options.Tree
import TierCascade.Wire.Settings
/-!
# Reading options

An option is read generously: a number may be spelled out as text, a truth value counts as a number,
and the letters of a name may have any case. What still makes no sense is refused without a reason.
-/

namespace TierCascade

abbrev Reader (α : Type) := Tree → Option α

namespace Reader

def switch? (s : String) : Option Nat :=
  if ["true", "on", "yes"].contains s.toLower then some 1
  else if ["false", "off", "no"].contains s.toLower then some 0
  else none

/-- A natural number of 64 bits. A real is rounded, and what lies out of range comes to the nearest
number in it. -/
def wide : Reader Nat
  | .integer n => if 0 ≤ n then some n.toNat else none
  | .text s => (switch? s).or (readNat? 64 s.toList)
  | .flag b => some b.toNat
  | .real x => some x.round.toUInt64.toNat
  | .nothing | .list _ | .table _ => none

/-- A natural number of fewer bits. -/
def narrow (bits : Nat) : Reader Nat := fun t => (wide t).filter (· < Nat.pow 2 bits)

def real : Reader Float
  | .real x => some x
  | .text s => ((switch? s).map Float.ofNat).or (readFloat? s.toList)
  | .integer n => some (Numeral.ofInt n).nearest
  | .flag b => some (if b then 1 else 0)
  | .nothing | .list _ | .table _ => none

def text : Reader String
  | .text s => some s
  | .flag b => some (toString b)
  | .integer n => some (toString n)
  | .real x => some (messageText x)
  | .nothing | .list _ | .table _ => none

def option {α : Type} (read : Reader α) : Reader (Option α)
  | .nothing => some none
  | t => (read t).map some

/-- One of some values, by its name: a text, or the only entry of a table. -/
def named {α : Type} (all : List α) (name : α → String) : Reader α := fun t =>
  let find? (s : String) : Option α := all.find? fun a => name a == smallLetters s
  match t with
  | .text s => find? s
  | .table [(s, _)] => find? s
  | _ => none

/-- The field of a record: an entry of a table, or an item of a list by its number. -/
def field {α : Type} (t : Tree) (index : Nat) (name : String) (read : Reader α) (standard : α) :
    Option α :=
  match t with
  | .table _ => ((t.entry? name).map read).getD (some standard)
  | .list ts => ((ts[index]?).map read).getD (some standard)
  | _ => none

def tierSet : Reader (PerTier Bool)
  | .list ts =>
    (ts.mapM (named Tier.all Tier.name)).map (·.foldl (fun p t => p.set t true) (.all false))
  | _ => none

def tierMap {α : Type} (read : Reader α) : Reader (PerTier (Option α))
  | .table es => do
    let values ← es.mapM fun e => do
      return (← named Tier.all Tier.name (.text e.1), ← read e.2)
    return values.foldl (fun p e => p.set e.1 (some e.2)) (.all none)
  | _ => none

def bands : Reader Bands := fun t => do
  let standard := Bands.standard
  return ⟨← field t 0 "moderate" real standard.moderate, ← field t 1 "high" real standard.high⟩

def tuning : Reader Tuning := fun t => do
  let standard := Tuning.standard
  return {
    warmup := ← field t 0 "warmup_samples" wide standard.warmup
    cooldown := ← field t 1 "snooze_cooldown" (narrow 32) standard.cooldown
    bands := ← field t 2 "thresholds" bands standard.bands
    smoothing := ← field t 3 "smoothing_alpha" (option real) standard.smoothing
    floor := ← field t 4 "std_dev_floor" real standard.floor }

def callBudget : Reader CallBudget := fun t => do
  let standard := CallBudget.standard
  return {
    timeout := ← field t 0 "call_timeout_ms" wide standard.timeout
    retries := ← field t 1 "max_retries" (narrow 32) standard.retries
    delay := ← field t 2 "retry_delay_ms" wide standard.delay }

def redeliveryBudget : Reader RedeliveryBudget := fun t => do
  let standard := RedeliveryBudget.standard
  return {
    attempts := ← field t 0 "max_attempts" (narrow 32) standard.attempts
    delay := ← field t 1 "redelivery_delay_ms" wide standard.delay }

def settings : Reader Settings := fun t => do
  let standard := Settings.standard
  return {
    tuning := ← field t 0 "engine" tuning standard.tuning
    stored := ← field t 1 "persist_granularities" tierSet standard.stored
    workers := ← field t 2 "parallelism" (tierMap wide) standard.workers
    grouping := ← field t 3 "grouping" (tierMap (named Grouping.all Grouping.name)) standard.grouping
    capacity := ← field t 4 "channel_capacity" wide standard.capacity
    calls := ← field t 5 "sink" callBudget standard.calls
    redelivery := ← field t 6 "redelivery" redeliveryBudget standard.redelivery }

end Reader

end TierCascade
