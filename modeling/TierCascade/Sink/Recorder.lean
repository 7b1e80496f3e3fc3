import TierCascade.Sink.Dispatch
/-!
# Recorders

A recorder plays both collaborators and keeps what it is given. It can be made to fail or to hang:
each rule says which calls it concerns and how often, and a call follows the first rule that
concerns it.
-/

namespace TierCascade

/-- What a call does that a rule concerns. -/
inductive Mishap where
  | fails (fault : SinkFault)
  | hangs (ms : Nat)
  deriving Repr, DecidableEq

/-- A rule for the calls of a recorder. Without a number of times it holds for good. -/
structure Rule where
  times : Option Nat
  sink : Sink
  tier : Option Tier
  timestamp : Option Int
  mishap : Mishap
  deriving Repr, DecidableEq

def Rule.concerns (r : Rule) (sink : Sink) (a : Aggregate) : Bool :=
  r.times != some 0 && r.sink == sink && r.tier.all (· == a.tier) && r.timestamp.all (· == a.timestamp)

def Rule.used (r : Rule) : Rule := { r with times := r.times.map (· - 1) }

/-- A recorder: its rules, the number of attempts made, and what it keeps, newest first. -/
structure Recorder where
  rules : List Rule
  calls : Nat
  stored : List Aggregate
  notified : List Aggregate
  deriving DecidableEq

namespace Recorder

def new (rules : List Rule) : Recorder := ⟨rules, 0, [], []⟩

def useRule (sink : Sink) (a : Aggregate) : List Rule → List Rule × Option Mishap
  | [] => ([], none)
  | r :: rest =>
    if r.concerns sink a then (r.used :: rest, some r.mishap)
    else
      let (rest, mishap) := useRule sink a rest
      (r :: rest, mishap)

def start (sink : Sink) (a : Aggregate) (r : Recorder) : Recorder × Plan :=
  let (rules, mishap) := useRule sink a r.rules
  let plan : Plan := match mishap with
    | none => ⟨0, .ok ()⟩
    | some (.fails fault) => ⟨0, .error fault⟩
    | some (.hangs ms) => ⟨ms, .ok ()⟩
  ({ r with rules, calls := r.calls + 1 }, plan)

def record (sink : Sink) (a : Aggregate) (r : Recorder) : Recorder :=
  match sink with
  | .store => { r with stored := a :: r.stored }
  | .notifier => { r with notified := a :: r.notified }

def collaborator : Collaborator Recorder := fun sink a => ⟨start sink a, record sink a⟩

end Recorder

end TierCascade
