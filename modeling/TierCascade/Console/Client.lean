import TierCascade.Console.Address
import TierCascade.Console.Display
import TierCascade.Wire.Report
/-!
# Asking an agent

The questions put to a running agent, and what its answers mean. A health report is worth reading
with any status, all other answers only with one of success.
-/

namespace TierCascade.Console

structure Request where
  place : String
  path : String
  deriving Repr, DecidableEq

def Request.line (r : Request) : String := "GET " ++ r.path ++ " HTTP/1.1"

/-- What came back for a request: it could not be sent, its answer broke off, or there is an
answer. -/
inductive Reply where
  | unsent
  | broken
  | answer (status : Nat) (body : String)
  deriving Repr, DecidableEq

def statusPhrases : List (Nat × String) :=
  [(100, "Continue"), (101, "Switching Protocols"), (102, "Processing"), (200, "OK"), (201, "Created"),
    (202, "Accepted"), (203, "Non Authoritative Information"), (204, "No Content"),
    (205, "Reset Content"), (206, "Partial Content"), (207, "Multi-Status"), (208, "Already Reported"),
    (226, "IM Used"), (300, "Multiple Choices"), (301, "Moved Permanently"), (302, "Found"),
    (303, "See Other"), (304, "Not Modified"), (305, "Use Proxy"), (307, "Temporary Redirect"),
    (308, "Permanent Redirect"), (400, "Bad Request"), (401, "Unauthorized"), (402, "Payment Required"),
    (403, "Forbidden"), (404, "Not Found"), (405, "Method Not Allowed"), (406, "Not Acceptable"),
    (407, "Proxy Authentication Required"), (408, "Request Timeout"), (409, "Conflict"), (410, "Gone"),
    (411, "Length Required"), (412, "Precondition Failed"), (413, "Payload Too Large"),
    (414, "URI Too Long"), (415, "Unsupported Media Type"), (416, "Range Not Satisfiable"),
    (417, "Expectation Failed"), (418, "I'm a teapot"), (421, "Misdirected Request"),
    (422, "Unprocessable Entity"), (423, "Locked"), (424, "Failed Dependency"),
    (426, "Upgrade Required"), (428, "Precondition Required"), (429, "Too Many Requests"),
    (431, "Request Header Fields Too Large"), (451, "Unavailable For Legal Reasons"),
    (500, "Internal Server Error"), (501, "Not Implemented"), (502, "Bad Gateway"),
    (503, "Service Unavailable"), (504, "Gateway Timeout"), (505, "HTTP Version Not Supported"),
    (506, "Variant Also Negotiates"), (507, "Insufficient Storage"), (508, "Loop Detected"),
    (510, "Not Extended"), (511, "Network Authentication Required")]

def statusText (status : Nat) : String :=
  toString status ++ " " ++ ((statusPhrases.lookup status).getD "<unknown status code>")

def isSuccess (status : Nat) : Bool := status / 100 == 2

inductive Question where
  | health
  | stats
  deriving Repr, DecidableEq

def Question.page : Question → String
  | .health => "healthz"
  | .stats => "api/v1/stats"

def Question.request (q : Question) (address : Address) : Except Complaint Request :=
  match address.page? q.page with
  | some path => .ok ⟨address.place, path⟩
  | none => .error ⟨"Invalid path", []⟩

def agentAddress (text : String) : Except Complaint Address :=
  match Address.ofText? text with
  | some address => .ok address
  | none => .error ⟨"Invalid API URL", []⟩

def Reply.read : Reply → Except Complaint (Nat × String)
  | .unsent => .error ⟨"Failed to send request", []⟩
  | .broken => .error ⟨"Failed to read response", []⟩
  | .answer status body => .ok (status, body)

def Reply.health (r : Reply) : Except Complaint (Nat × HealthReport) := do
  let (status, body) ← r.read
  match decodeText HealthReport.decoder body.toList with
  | .ok report => return (status, report)
  | .error _ => throw ⟨"Failed to parse response (" ++ statusText status ++ ")", []⟩

def Reply.stats (r : Reply) : Except Complaint StatsReport := do
  let (status, body) ← r.read
  if !isSuccess status then throw ⟨"API error (" ++ statusText status ++ "): " ++ body, []⟩
  match decodeText StatsReport.decoder body.toList with
  | .ok report => return report
  | .error _ => throw ⟨"Failed to parse response", []⟩

/-! ### Showing an answer -/

def healthLines (ink : Ink) (r : HealthReport) : List String :=
  ["Overall: " ++ ink.paint .strong (ink.status r.status.name), ""]
    ++ rowsLines ink ["Component", "Status", "Message"] (r.parts.entries.map fun e =>
      [e.1, ink.status e.2.status.name, e.2.message.getD ""])

def statsLines (ink : Ink) (r : StatsReport) : List String :=
  heading ink "Pipeline Statistics" ++
    ["Instance:      " ++ ink.paint (.colored .cyan) r.name,
      "Emitted:       " ++ toString r.tally.emitted,
      "Acked:         " ++ toString r.tally.acked,
      "Failed:        " ++ toString r.tally.failed,
      "Redelivered:   " ++ toString r.tally.redelivered,
      "Dead-lettered: " ++ toString r.tally.deadLettered,
      "In flight:     " ++ toString r.tally.inFlight]
    ++ (if 0 < r.tally.deadLettered then
      [ink.warning "Some units exhausted their redelivery attempts"] else [])
    ++ [""]
    ++ rowsLines ink ["Tier", "Workers", "Streams"] (r.census.map fun c =>
      [c.tier.name, toString c.workers, toString c.states])

def Question.display (q : Question) (ink : Ink) (format : Format) (reply : Reply) : Display :=
  match q with
  | .health =>
    match reply.health, format with
    | .error complaint, _ => ⟨[], some complaint⟩
    | .ok (_, r), .json => .shown (jsonLines r.json)
    | .ok (_, r), .table => .shown (healthLines ink r)
  | .stats =>
    match reply.stats, format with
    | .error complaint, _ => ⟨[], some complaint⟩
    | .ok r, .json => .shown (jsonLines r.json)
    | .ok r, .table => .shown (statsLines ink r)

end TierCascade.Console
