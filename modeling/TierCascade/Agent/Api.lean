import TierCascade.Plant.State
import TierCascade.Wire.Report
/-!
# The interface of a running cascade

What a running cascade answers over HTTP: its health, whether it is ready, its counters, and what it
is doing. Asking for the health also brings the condition of the ledger up to date.
-/

namespace TierCascade.Api

/-- A request, as far as it matters. -/
structure Request where
  method : String
  target : String
  deriving Repr, DecidableEq

/-- What an answer holds. The exposition of the counters has a form of its own. -/
inductive Body where
  | empty
  | json (j : Json)
  | exposition (m : Meter)

def Body.contentType : Body → Option String
  | .empty => none
  | .json _ => some "application/json"
  | .exposition _ => some "text/plain; charset=utf-8"

structure Response where
  status : Nat
  contentType : Option String
  body : Body

def Response.of (status : Nat) (body : Body) : Response := ⟨status, body.contentType, body⟩

def Response.bare (status : Nat) : Response := .of status .empty

/-- The answer to a request for the head alone. -/
def Response.head (r : Response) : Response := { r with body := .empty }

inductive Route where
  | health
  | readiness
  | metrics
  | stats
  deriving Repr, DecidableEq

/-- What stands behind the first `://`, if only a scheme stands before it. -/
def behindScheme? : List Char → Option (List Char)
  | ':' :: '/' :: '/' :: rest => some rest
  | c :: rest =>
    if c.isAlphanum || c == '+' || c == '-' || c == '.' then behindScheme? rest else none
  | [] => none

/-- The path that a target names, without its query and its fragment. A target that starts with no
stroke is a whole address; without a scheme it names no path. -/
def pathOf (target : List Char) : List Char :=
  let endsPath (c : Char) : Bool := c == '?' || c == '#'
  if target.head? = some '/' then target.takeWhile (!endsPath ·)
  else
    let behindHost := ((behindScheme? target).getD []).dropWhile fun c => c != '/' && !endsPath c
    behindHost.takeWhile (!endsPath ·)

def Route.ofTarget? (target : String) : Option Route :=
  match String.ofList (pathOf target.toList) with
  | "/healthz" => some .health
  | "/readyz" => some .readiness
  | "/metrics" => some .metrics
  | "/api/v1/stats" => some .stats
  | _ => none

variable {σ : Type}

def refresh (p : Plant σ) : Plant σ :=
  let board := p.desk.board.update Part.source.name (.ofTally p.ledger.tally p.now)
  { p with desk := { p.desk with board } }

/-- The answer about the health: a degraded cascade still works. -/
def healthResponse (b : Board) : Response :=
  .of (if b.report.status.isOperational then 200 else 503) (.json b.report.json)

def readinessResponse (b : Board) : Response :=
  .of (if b.readiness.ready then 200 else 503) (.json b.readiness.json)

def statsResponse (name : String) (p : Plant σ) : Response :=
  match p.census with
  | .ok census => .of 200 (.json (StatsReport.json ⟨name, p.ledger.tally, census⟩))
  | .error failure => .of 503 (.json (.object [("error", .string failure.message)]))

def answer (name : String) (p : Plant σ) : Route → Plant σ × Response
  | .health => let p := refresh p; (p, healthResponse p.desk.board)
  | .readiness => (p, readinessResponse p.desk.board)
  | .metrics => (p, .of 200 (.exposition p.meter))
  | .stats => (p, statsResponse name p)

/-- Answers a request. Everything is only there to be read. -/
def respond (name : String) (p : Plant σ) (r : Request) : Plant σ × Response :=
  match Route.ofTarget? r.target with
  | none => (p, .bare 404)
  | some route =>
    if r.method = "GET" then answer name p route
    else if r.method = "HEAD" then
      let (p, response) := answer name p route
      (p, response.head)
    else (p, .bare 405)

end TierCascade.Api
