import TierCascade.Plant.Step
/-!
# Schedules

One way to run the plant: whenever there is a choice, the finest tier and the first worker go first,
and a unit is taken in only when the one before it is settled. Since the steps are those of
`Plant.step`, a schedule is a run like any other.

Schedules are bounded by the work that is left, so they end by themselves.
-/

namespace TierCascade

def version : String := "0.1.0"

namespace Plant

variable {σ : Type}

/-! ### Workers -/

/-- The workers of a plant, finest tier first. -/
def places (p : Plant σ) : List (Tier × Nat) :=
  Tier.all.flatMap fun t => (List.range (p.pools.get t).length).map fun i => (t, i)

/-- Lets every worker that can move take one step; says whether any could. -/
def turn (s : Settings) (c : Collaborator σ) (p : Plant σ) : Plant σ × Bool :=
  p.places.foldl (fun (p, moved) (t, i) =>
    match p.work s c t i with
    | some p => (p, true)
    | none => (p, moved)) (p, false)

/-- Lets the workers work until none of them can move, at most `turns` times. -/
def workFor (s : Settings) (c : Collaborator σ) : Nat → Plant σ → Plant σ
  | 0, p => p
  | turns + 1, p =>
    match p.turn s c with
    | (p, true) => workFor s c turns p
    | (p, false) => p

def load (p : Plant σ) : Nat :=
  Tier.all.foldl (fun n t => (p.pools.get t).foldl (fun n w => n + w.queue.length + 1) n) 0

/-- Lets the workers work until none of them can move. A sample passes six tiers in six steps
each. -/
def drain (s : Settings) (c : Collaborator σ) (p : Plant σ) : Plant σ := workFor s c (36 * p.load) p

/-! ### One delivery at a time -/

/-- What became of a delivery: whether it was refused at once, and how it was settled. -/
structure Passage where
  refused : Option Failure
  outcome : Outcome
  settlement : Settlement

/-- Hands in the delivery that is being submitted, lets the workers work, and settles the
outcome. -/
def pass (s : Settings) (c : Collaborator σ) (p : Plant σ) : Plant σ × Option Passage :=
  let refused := match p.loop.submitting with
    | none => none
    | some d => match p.target s .raw d.sample.series with
      | .ok _ => none
      | .error failure => some failure
  let p := ((p.enter s).getD p).drain s c
  match p.settle with
  | some (p, outcome, settlement) => (p, some ⟨refused, outcome, settlement⟩)
  | none => (p, none)

def resume (p : Plant σ) (unitId : Nat) : Option (Plant σ × Delivery) := do
  let i ← p.loop.waiting.findIdx? fun w => w.2.ticket.unitId == unitId
  let (_, d) ← p.loop.waiting[i]?
  let loop := { p.loop with waiting := p.loop.waiting.eraseIdx i, submitting := some d }
  return ({ p with loop }, d)

/-! ### Whole runs -/

def attemptAll (s : Settings) (c : Collaborator σ) (p : Plant σ) (as : List Action) : Plant σ :=
  as.foldl (fun p a => (p.step s c a).getD p) p

/-- Whether as many deliveries have failed as a run is to bear. -/
def isSpent (limit : Option Nat) (p : Plant σ) : Bool :=
  match limit with
  | some n => n ≤ p.ledger.failed
  | none => false

/-- Delivers until nothing waits any more, at most `attempts` times, and leaves the run once it is
spent. -/
def serve (s : Settings) (c : Collaborator σ) (limit : Option Nat) : Nat → Plant σ → Plant σ
  | 0, p => p
  | attempts + 1, p =>
    let p := ((p.attemptAll s c [.enter]).drain s c).attemptAll s c [.settle]
    if p.isSpent limit then p.attemptAll s c [.interrupt]
    else if p.loop.waiting.isEmpty then p
    else serve s c limit attempts (p.attemptAll s c [.wake 0, .resubmit])

/-- Runs the loop over some samples. With a limit the run is interrupted once that many deliveries
have failed, or else behind the last sample; without one the input is closed and the run drains. -/
def run (s : Settings) (c : Collaborator σ) (limit : Option Nat) (xs : List Sample) (p : Plant σ) :
    Plant σ :=
  let p := xs.foldl (fun p x =>
    if p.loop.running then serve s c limit (s.redelivery.attempts + 1) (p.attemptAll s c [.receive x])
    else p) (p.attemptAll s c [.begin])
  match limit with
  | some _ => p.attemptAll s c [.interrupt]
  | none => p.attemptAll s c [.closeInput, .finish]

/-! ### Starting and stopping -/

def launch (s : Settings) (sinks : σ) (board : Board) (now : Int) : Except Failure (Plant σ) :=
  (start s sinks board now).map fun p => p.report (.started version s.totalWorkers)

/-- Shuts the plant down, letting the workers work in between. -/
def shutdownFor (s : Settings) (c : Collaborator σ) : Nat → Plant σ → Plant σ
  | 0, p => p
  | steps + 1, p =>
    let p := p.drain s c
    match p.shutdown s with
    | some p => shutdownFor s c steps p
    | none => p

/-- Shuts the plant down: one step for each worker, and two for each tier. -/
def closeDown (s : Settings) (c : Collaborator σ) (p : Plant σ) : Plant σ :=
  shutdownFor s c (s.totalWorkers + 2 * Tier.all.length + 1) p

def conclude (s : Settings) (c : Collaborator σ) (p : Plant σ) (exit : Exit) : Plant σ :=
  (p.report (.stopping exit.text p.ledger.pending)).closeDown s c

end Plant

end TierCascade
