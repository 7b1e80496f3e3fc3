import TierCascade.Tier
/-!
# Tickets

A ticket stands for one delivery of a unit of work. Every sample derived from the unit holds it, and
anyone who holds it can say that the delivery failed; of several who do, the first counts. When the
last holder lets go, the delivery is over and its outcome is reported: failed if anyone said so, and
acknowledged otherwise.

`Tickets` keeps the tickets that are held and the outcomes that nobody has read yet, oldest first.
-/

namespace TierCascade

/-- One delivery of a unit of work. -/
structure Ticket where
  unitId : Nat
  attempt : Nat
  deriving Repr, DecidableEq, Inhabited

inductive Outcome where
  | acked (unitId : Nat)
  | failed (unitId : Nat) (tier : Tier) (reason : String)
  deriving Repr, DecidableEq

def Outcome.unitId : Outcome → Nat
  | acked u | failed u .. => u

/-- The first thing that went wrong with a delivery. -/
structure Mark where
  tier : Tier
  reason : String
  deriving Repr, DecidableEq

structure Held where
  ticket : Ticket
  holders : Nat
  mark : Option Mark
  deriving Repr, DecidableEq

namespace Held

def issue (t : Ticket) : Held := ⟨t, 1, none⟩

def share (h : Held) : Held := { h with holders := h.holders + 1 }

/-- Says that the delivery failed. What was said first stays. -/
def fail (h : Held) (tier : Tier) (reason : String) : Held :=
  { h with mark := h.mark <|> some ⟨tier, reason⟩ }

/-- How the delivery ends if nobody says anything more. -/
def outcome (h : Held) : Outcome :=
  match h.mark with
  | some m => .failed h.ticket.unitId m.tier m.reason
  | none => .acked h.ticket.unitId

/-- One holder less. If it was the last one, the ticket is gone and the outcome is known. -/
def release (h : Held) : Except Outcome Held :=
  if h.holders ≤ 1 then .error h.outcome else .ok { h with holders := h.holders - 1 }

end Held

/-- The tickets that are held and the outcomes not read yet, oldest first. -/
structure Tickets where
  held : List Held
  outcomes : List Outcome
  deriving Repr, DecidableEq

namespace Tickets

def empty : Tickets := ⟨[], []⟩

instance : Inhabited Tickets := ⟨empty⟩

def find? (ts : Tickets) (t : Ticket) : Option Held := ts.held.find? fun h => h.ticket == t

def change (ts : Tickets) (t : Ticket) (f : Held → Held) : Tickets :=
  { ts with held := ts.held.map fun h => if h.ticket = t then f h else h }

def issue (ts : Tickets) (t : Ticket) : Tickets := { ts with held := .issue t :: ts.held }

def share (ts : Tickets) (t : Ticket) : Tickets := ts.change t .share

def fail (ts : Tickets) (t : Ticket) (tier : Tier) (reason : String) : Tickets :=
  ts.change t fun h => h.fail tier reason

/-- One holder less of a ticket. -/
def release (ts : Tickets) (t : Ticket) : Tickets :=
  match ts.find? t with
  | none => ts
  | some h =>
    match h.release with
    | .ok h => ts.change t fun _ => h
    | .error outcome =>
      ⟨ts.held.filter fun h => h.ticket != t, ts.outcomes ++ [outcome]⟩

/-- The oldest outcome not read yet. -/
def read? (ts : Tickets) : Option (Outcome × Tickets) :=
  match ts.outcomes with
  | [] => none
  | o :: rest => some (o, { ts with outcomes := rest })

end Tickets

end TierCascade
