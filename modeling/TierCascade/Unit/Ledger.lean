import TierCascade.Data.OrderedMap
import TierCascade.Observe.Event
import TierCascade.Observe.Meter
import TierCascade.Unit.Budget
import TierCascade.Unit.Ticket
/-!
# The ledger of units of work

A sample that comes in is a unit of work. The ledger tracks it from its first delivery until one of
its deliveries is acknowledged or until it is given up. A delivery that failed is followed by
another one, which has to reach the coarsest tier at which any delivery of the unit failed so far.

What the ledger decides about an outcome is a `Settlement`; from it follow the events that are
reported and the counters that rise.
-/

namespace TierCascade

/-- One delivery of a unit of work into the cascade. `replay` is the tier that it has to reach. -/
structure Delivery where
  ticket : Ticket
  sample : Sample
  replay : Option Tier
  deriving DecidableEq, Inhabited

def Delivery.isRedelivery (d : Delivery) : Bool := 1 < d.ticket.attempt

/-- A unit of work that is neither acknowledged nor given up. -/
structure OpenUnit where
  sample : Sample
  attempt : Nat
  replay : Option Tier
  deriving DecidableEq

/-- What the ledger decided about an outcome. -/
inductive Settlement where
  | acked
  | redeliver (delivery : Delivery) (reason : String)
  | deadLettered (unitId attempts : Nat) (series : Series) (reason : String)
  | unknown
  deriving DecidableEq

structure Tally where
  emitted : Nat
  acked : Nat
  failed : Nat
  redelivered : Nat
  deadLettered : Nat
  inFlight : Nat
  deriving Repr, DecidableEq

/-- The units of work in flight, and what was counted so far. -/
structure Ledger where
  budget : RedeliveryBudget
  nextUnit : Nat
  flight : OrderedMap Nat OpenUnit
  emitted : Nat
  acked : Nat
  failed : Nat
  redelivered : Nat
  deadLettered : Nat
  deriving DecidableEq

def OrderedMap.erase {κ υ : Type} [Ord κ] (m : OrderedMap κ υ) (k : κ) : OrderedMap κ υ :=
  ⟨m.entries.filter fun e => compare k e.1 != .eq, m.ascending.filter _⟩

/-- The coarser of two tiers, either of which may be missing. -/
def coarserReplay : Option Tier → Tier → Tier
  | none, t => t
  | some s, t => s.coarser t

namespace Ledger

/-- A ledger without units; they are numbered from one. -/
def new (budget : RedeliveryBudget) : Ledger := ⟨budget, 1, .empty, 0, 0, 0, 0, 0⟩

def pending (l : Ledger) : Nat := l.flight.entries.length

def tally (l : Ledger) : Tally :=
  ⟨l.emitted, l.acked, l.failed, l.redelivered, l.deadLettered, l.pending⟩

def emit (l : Ledger) (x : Sample) : Ledger × Delivery :=
  ({ l with
      nextUnit := l.nextUnit + 1
      flight := l.flight.insert l.nextUnit ⟨x, 1, none⟩
      emitted := l.emitted + 1 },
    ⟨⟨l.nextUnit, 1⟩, x, none⟩)

/-- Settles that a delivery failed: the unit is delivered again or, if its budget is spent, given
up. -/
def settleFailure (l : Ledger) (unitId : Nat) (u : OpenUnit) (tier : Tier) (reason : String) :
    Ledger × Settlement :=
  let l := { l with failed := l.failed + 1 }
  if l.budget.attempts ≤ u.attempt then
    ({ l with flight := l.flight.erase unitId, deadLettered := l.deadLettered + 1 },
      .deadLettered unitId u.attempt u.sample.series reason)
  else
    let replay := some (coarserReplay u.replay tier)
    let u : OpenUnit := { u with attempt := u.attempt + 1, replay }
    ({ l with flight := l.flight.insert unitId u, redelivered := l.redelivered + 1 },
      .redeliver ⟨⟨unitId, u.attempt⟩, u.sample, u.replay⟩ reason)

/-- Settles an outcome. An outcome of a unit that is not tracked changes nothing. -/
def settle (l : Ledger) (o : Outcome) : Ledger × Settlement :=
  match l.flight.get? o.unitId, o with
  | none, _ => (l, .unknown)
  | some _, .acked unitId =>
    ({ l with flight := l.flight.erase unitId, acked := l.acked + 1 }, .acked)
  | some u, .failed unitId tier reason => l.settleFailure unitId u tier reason

end Ledger

namespace Settlement

def name : Settlement → String
  | acked => "acked"
  | redeliver .. => "redeliver"
  | deadLettered .. => "dead_lettered"
  | unknown => "unknown"

def counters : Settlement → List Counter
  | acked => [.acked]
  | redeliver .. => [.failed, .redelivered]
  | deadLettered .. => [.failed, .deadLettered]
  | unknown => []

def events : Settlement → List Event
  | redeliver d reason => [.redelivered d.ticket.unitId d.ticket.attempt reason]
  | deadLettered unitId attempts series reason =>
    [.deadLettered unitId attempts series.canonical reason]
  | acked | unknown => []

def reissue (s : Settlement) (ts : Tickets) : Tickets :=
  match s with
  | redeliver d _ => ts.issue d.ticket
  | _ => ts

end Settlement

def Meter.gauge (m : Meter) (l : Ledger) : Meter := m.set .inFlight l.pending

end TierCascade
