import TierCascade.Health.Condition
import TierCascade.Routing
/-!
# Reporting the collaborators' health

The workers report every failure and every success of a collaborator, but the board is only written
when something changes: a flag for each collaborator says whether its last call failed, and only a
call that turns the flag over leads to a note on the board. Turning the flag and writing the note
are two steps (`Reporter.turn`, `Note.post`), because workers report at the same time.
-/

namespace TierCascade

/-- Something to be put up on the board. -/
structure Note where
  part : String
  status : Status
  message : Option String
  deriving Repr, DecidableEq

def Note.post (n : Note) (now : Int) (b : Board) : Board :=
  b.update n.part ⟨n.status, n.message, now⟩

/-- A flag for each collaborator: whether its last call failed. -/
structure Reporter where
  storeFailing : Bool
  notifierFailing : Bool
  deriving Repr, DecidableEq

namespace Reporter

def fresh : Reporter := ⟨false, false⟩

/-- The collaborator whose flag stands for a part. Parts that are none of them share the store's. -/
def flagged (part : String) : Sink := if part = Part.notifier.name then .notifier else .store

def failing (r : Reporter) : Sink → Bool
  | .store => r.storeFailing
  | .notifier => r.notifierFailing

/-- Sets the flag of a collaborator and says whether that turned it over. -/
def turn (r : Reporter) (sink : Sink) (failing : Bool) : Reporter × Bool :=
  (match sink with
    | .store => { r with storeFailing := failing }
    | .notifier => { r with notifierFailing := failing },
    r.failing sink != failing)

/-- A call that spent its budget: the flag, and the note if the call before had not failed. -/
def fault (r : Reporter) (f : SinkFault) : Reporter × Option Note :=
  let (r, turned) := r.turn f.sink true
  (r, if turned then some ⟨f.sink.part.name, .degraded, some ("Retries exhausted: " ++ f.message)⟩
    else none)

/-- A call that succeeded: the flag, and the note if the call before had failed. -/
def success (r : Reporter) (part : String) : Reporter × Option Note :=
  let (r, turned) := r.turn (flagged part) false
  (r, if turned then some ⟨part, .healthy, none⟩ else none)

end Reporter

/-- The note on a worker that broke down: its series get no more samples. -/
def Note.workerStopped (tier : Tier) (worker : Nat) (reason : String) : Note :=
  ⟨Part.topology.name, .unhealthy,
    some (tier.name ++ " " ++ workerName worker ++ " stopped: " ++ reason)⟩

/-- The flags together with the board they lead to. -/
structure HealthDesk where
  reporter : Reporter
  board : Board
  deriving DecidableEq

namespace HealthDesk

def new (b : Board) : HealthDesk := ⟨.fresh, b⟩

/-- Takes over a reporter and puts up its note. -/
def apply (d : HealthDesk) (now : Int) (r : Reporter × Option Note) : HealthDesk :=
  ⟨r.1, match r.2 with | some n => n.post now d.board | none => d.board⟩

/-- Reports a call that spent its budget. -/
def fault (d : HealthDesk) (now : Int) (f : SinkFault) : HealthDesk := d.apply now (d.reporter.fault f)

def success (d : HealthDesk) (now : Int) (part : String) : HealthDesk :=
  d.apply now (d.reporter.success part)

def workerStopped (d : HealthDesk) (now : Int) (tier : Tier) (worker : Nat) (reason : String) :
    HealthDesk :=
  { d with board := (Note.workerStopped tier worker reason).post now d.board }

end HealthDesk

end TierCascade
