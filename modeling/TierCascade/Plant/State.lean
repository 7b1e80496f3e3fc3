import TierCascade.Health.Reporter
import TierCascade.Plant.Wiring
import TierCascade.Sink.Dispatch
import TierCascade.Stage.Basic
/-!
# The plant

The running cascade as one state: a pool of workers for each tier, each worker with a bounded queue
and its share of the states; the ledger and the tickets; the collaborators; and the loop that takes
samples in and settles outcomes. What moves it is in `Plant.Step`, one step at a time, so that every
order in which workers and loop can take turns is a run of the same machine.

Lists that only grow are kept newest first.
-/

namespace TierCascade

/-- What a worker finds in its queue: a sample with the ticket of its delivery, or the order to
stop. -/
inductive Command where
  | process (d : Delivery)
  | halt
  deriving DecidableEq

/-- What a worker is doing with the sample it took: the store and then the notifier are called, the
window is looked at, and what moves on waits for room in the queue it goes to. Once it is there, the
next tier may already be at work on it while the worker here still holds its ticket (`parting`). -/
inductive Activity where
  | idle
  | storing (d : Delivery) (a : Aggregate)
  | notifying (d : Delivery) (a : Aggregate) (stored : Bool)
  | closing (d : Delivery) (a : Aggregate) (receipt : Receipt)
  | forwarding (d onward : Delivery) (gate : Gate)
  | parting (d : Delivery)
  | stopped
  deriving DecidableEq

/-- A worker: its share of the states, its queue, what it is doing, and the gate of the tier ahead, if
there is one. -/
structure Worker where
  stage : Stage
  queue : List Command
  activity : Activity
  ahead : Option Gate
  deriving DecidableEq

namespace Worker

def new (tier : Tier) (tuning : Tuning) (ahead : Option Gate) : Worker :=
  ⟨.new tier tuning, [], .idle, ahead⟩

def isStopped (w : Worker) : Bool :=
  match w.activity with
  | .stopped => true
  | _ => false

def push (w : Worker) (c : Command) : Worker := { w with queue := w.queue ++ [c] }

end Worker

/-- Why a run of the loop ended. -/
inductive Exit where
  | drained
  | interrupted
  deriving Repr, DecidableEq

def Exit.text : Exit → String
  | .drained => "input drained"
  | .interrupted => "shutdown requested"

/-- The loop that takes samples in. A failed unit waits out its delay (`waiting`, with the run that
put it there) and then stands ready to be delivered again; `submitting` is the delivery that waits
for room at the finest tier. -/
structure Loop where
  run : Nat
  running : Bool
  inputOpen : Bool
  submitting : Option Delivery
  ready : List Delivery
  waiting : List (Nat × Delivery)
  exit : Option Exit
  deriving DecidableEq

def Loop.fresh : Loop := ⟨0, false, false, none, [], [], none⟩

/-- How far the plant is shut down. Tiers are stopped one after the other, each worker by an order
at the end of its queue. -/
inductive Closing where
  | notYet
  | halting (tier : Tier) (sent : Nat)
  | closed
  deriving Repr, DecidableEq

/-- The running cascade. -/
structure Plant (σ : Type) where
  pools : PerTier (List Worker)
  sinks : σ
  ledger : Ledger
  tickets : Tickets
  desk : HealthDesk
  now : Int
  meter : Meter
  journal : List Event
  loop : Loop
  closing : Closing

namespace Plant

variable {σ : Type}

def opened (s : Settings) (pools : PerTier (List Worker)) (sinks : σ) (board : Board) (now : Int) :
    Plant σ :=
  { pools
    sinks
    ledger := .new s.redelivery
    tickets := .empty
    desk := .new board
    now
    meter := .zero
    journal := []
    loop := .fresh
    closing := .notYet }

/-- Puts new workers behind the gates of a line, one for each queue. -/
def man (s : Settings) (line : List Station) : PerTier (List Worker) :=
  line.foldl (fun pools station =>
    let new := Worker.new station.gate.tier s.tuning station.ahead
    pools.set station.gate.tier (List.replicate station.gate.queues new)) (.all [])

/-- Starts a plant, unless its settings cannot be used. -/
def start (s : Settings) (sinks : σ) (board : Board) (now : Int) : Except Failure (Plant σ) := do
  s.check.mapError .settings
  let line ← s.line
  return opened s (man s line) sinks board now

def worker? (p : Plant σ) (t : Tier) (i : Nat) : Option Worker := (p.pools.get t)[i]?

def setWorker (p : Plant σ) (t : Tier) (i : Nat) (w : Worker) : Plant σ :=
  { p with pools := p.pools.modify t fun ws => ws.set i w }

def report (p : Plant σ) (e : Event) : Plant σ := { p with journal := e :: p.journal }

def count (p : Plant σ) (c : Counter) : Plant σ := { p with meter := p.meter.count c }

def channelName (t : Tier) (i : Nat) : String := t.name ++ " " ++ workerName i

/-- The worker that a series goes to behind a gate, if it still works. -/
def behind (p : Plant σ) (gate : Gate) (x : Series) : Except Failure (Nat × Worker) :=
  let i := gate.routing.route x
  match if i < gate.queues then p.worker? gate.tier i else none with
  | none => .error (.routing gate.tier i gate.queues)
  | some w => if w.isStopped then .error (.closed (channelName gate.tier i)) else .ok (i, w)

def target (s : Settings) (p : Plant σ) (t : Tier) (x : Series) : Except Failure (Nat × Worker) := do
  p.behind (← s.findGate t) x

/-! ### Looking in -/

def inspect (s : Settings) (p : Plant σ) (t : Tier) (x : Series) : Except Failure (Option SeriesState) :=
  (p.target s t x).map fun (_, w) => w.stage.inspect x

/-- The number of states in a pool; the first worker that has stopped cannot answer. -/
def poolStates (t : Tier) : List Worker → Nat → Except Failure Nat
  | [], _ => .ok 0
  | w :: ws, i =>
    if w.isStopped then .error (.closed (channelName t i))
    else (poolStates t ws (i + 1)).map (w.stage.census + ·)

def census (p : Plant σ) : Except Failure (List TierCensus) :=
  Tier.all.mapM fun t => do
    let pool := p.pools.get t
    return ⟨t, pool.length, ← poolStates t pool 0⟩

end Plant

end TierCascade
