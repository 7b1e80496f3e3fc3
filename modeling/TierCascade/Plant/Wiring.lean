import TierCascade.Settings
/-!
# Wiring

A plant is laid out coarsest tier first, so that the workers of each tier can be given the gate of the
tier ahead of them. The stations that were laid out last, the finest, stand first in the line, and from
outside a tier is found in it by its index.
-/

namespace TierCascade

/-- The way into a tier: how it spreads series, and how many queues it has to spread them over. -/
structure Gate where
  tier : Tier
  routing : Routing
  queues : Nat
  deriving Repr, DecidableEq

/-- A tier as it is laid out: its own gate, and the one through which its workers hand samples on. -/
structure Station where
  gate : Gate
  ahead : Option Gate
  deriving Repr, DecidableEq

namespace Settings

/-- Lays out a tier in front of the coarser ones. -/
def lay (s : Settings) (line : List Station) (t : Tier) : Except Failure (List Station) := do
  let routing ← Routing.make (s.workersOf t) (s.groupingOf t)
  return ⟨⟨t, routing, s.workersOf t⟩, line.head?.map (·.gate)⟩ :: line

/-- The stations of all tiers, finest first. -/
def line (s : Settings) : Except Failure (List Station) := Tier.all.reverse.foldlM s.lay []

def findGate (s : Settings) (t : Tier) : Except Failure Gate := do
  let stations ← s.line
  match stations[t.index]? with
  | some station => return station.gate
  | none => throw (.routing t t.index stations.length)

end Settings

end TierCascade
