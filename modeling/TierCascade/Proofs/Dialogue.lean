import TierCascade.Agent.Api
import TierCascade.Console.Client
import TierCascade.Proofs.Boards
import TierCascade.Proofs.WireFormats
/-!
# Questions and answers

What the agent answers to a question is what the client that put it understands, when the status and the
text of an answer reach the client as they are (`Api.answers_understood`). The two treat a status of failure
in different ways: a report of bad health is read with its status, and a report about work that could not be
made is not taken for one.
-/

namespace TierCascade

/-! ### Health -/

theorem Condition.status_ofTally (t : Tally) (now : Int) :
    (ofTally t now).status = if 0 < t.deadLettered then .degraded else .healthy := by
  unfold ofTally
  split <;> rfl

theorem Condition.checkedAt_ofTally (t : Tally) (now : Int) : (ofTally t now).checkedAt = now := by
  unfold ofTally
  split <;> rfl

/-! ### Counters -/

/-- Where a function makes something of which its argument can be told, a list made with it tells of all. -/
theorem map_eq_of_mapM {ε α β : Type} {make : α → Except ε β} {origin : β → α}
    (own : ∀ a b, make a = .ok b → origin b = a) {as : List α} {bs : List β} (made : as.mapM make = .ok bs) :
    bs.map origin = as := by
  induction as generalizing bs with
  | nil =>
    cases made
    rfl
  | cons a as ih =>
    rw [List.mapM_cons] at made
    cases first : make a with
    | error e => simp [first, bind, Except.bind] at made
    | ok b =>
      cases rest : as.mapM make with
      | error e => simp [first, rest, bind, Except.bind] at made
      | ok bs' =>
        simp only [first, rest, bind, Except.bind, pure, Except.pure, Except.ok.injEq] at made
        rw [← made, List.map_cons, own a b first, ih rest]

theorem Plant.tiers_census {σ : Type} {p : Plant σ} {census : List TierCensus} (counted : p.census = .ok census) :
    census.map (·.tier) = Tier.all := by
  refine map_eq_of_mapM (fun t c made => ?_) counted
  cases states : poolStates t (p.pools.get t) 0 with
  | error f => simp [states, bind, Except.bind] at made
  | ok n =>
    simp only [states, bind, Except.bind, pure, Except.pure, Except.ok.injEq] at made
    rw [← made]

namespace Api

variable {σ : Type} (expose : Meter → String) (name : String) (p : Plant σ)

/-! ### Answers and what is made of them -/

def Body.text : Body → String
  | .empty => ""
  | .json j => j.compact
  | .exposition m => expose m

/-- An answer as it reaches the one who asked, if nothing is changed on the way. -/
def Response.reply (r : Response) : Console.Reply := .answer r.status (r.body.text expose)

theorem respond_health : respond name p ⟨"GET", "/" ++ Console.Question.health.page⟩
    = (refresh p, healthResponse (refresh p).desk.board) := rfl

theorem respond_stats :
    respond name p ⟨"GET", "/" ++ Console.Question.stats.page⟩ = (p, statsResponse name p) := rfl

theorem respond_readiness : respond name p ⟨"GET", "/readyz"⟩ = (p, readinessResponse p.desk.board) := rfl

theorem status_healthResponse (b : Board) :
    (healthResponse b).status = if b.report.status = .unhealthy then 503 else 200 := by
  have status : (healthResponse b).status = if b.report.status.isOperational then 200 else 503 := rfl
  rw [status]
  cases b.report.status <;> rfl

theorem status_readinessResponse (b : Board) : (readinessResponse b).status
    = if b.ready = true ∧ b.report.status ≠ .unhealthy then 200 else 503 := by
  have status : (readinessResponse b).status = if b.readiness.ready then 200 else 503 := rfl
  simp only [status, Board.readiness_ready]

theorem health_reply {b : Board} (fits : HealthReport.format.Fits b.report) :
    ((healthResponse b).reply expose).health = .ok ((healthResponse b).status, b.report) := by
  have read : decodeText HealthReport.decoder b.report.json.compact.toList = .ok b.report :=
    HealthReport.roundTrips b.report fits nofun nofun
  have reply : (healthResponse b).reply expose = .answer (healthResponse b).status b.report.json.compact := rfl
  rw [reply, Console.Reply.health, Console.Reply.read]
  simp only [bind, Except.bind, read, pure, Except.pure]

theorem stats_reply {census : List TierCensus} (counted : p.census = .ok census)
    (fits : StatsReport.format.Fits ⟨name, p.ledger.tally, census⟩) :
    (statsResponse name p).status = 200 ∧
      ((statsResponse name p).reply expose).stats = .ok ⟨name, p.ledger.tally, census⟩ := by
  have response : statsResponse name p = .of 200 (.json (StatsReport.json ⟨name, p.ledger.tally, census⟩)) := by
    rw [statsResponse, counted]
  have read := StatsReport.roundTrips ⟨name, p.ledger.tally, census⟩ fits nofun nofun
  refine ⟨by rw [response]; rfl, ?_⟩
  have reply : (statsResponse name p).reply expose
      = .answer 200 (StatsReport.json ⟨name, p.ledger.tally, census⟩).compact := by
    rw [response]
    rfl
  have success : Console.isSuccess 200 = true := by decide
  rw [reply, Console.Reply.stats, Console.Reply.read]
  simp only [bind, Except.bind, success, Bool.not_true, Bool.false_eq_true, if_false, pure, Except.pure]
  simp only [StatsReport.format] at read
  rw [read]

theorem stats_reply_of_error {failure : Failure} (uncounted : p.census = .error failure) :
    (statsResponse name p).status = 503 ∧
      ∃ complaint, ((statsResponse name p).reply expose).stats = .error complaint := by
  have response :
      statsResponse name p = .of 503 (.json (.object [("error", .string failure.message)])) := by
    rw [statsResponse, uncounted]
  have failed : Console.isSuccess 503 = false := by decide
  rw [response]
  refine ⟨rfl, ?_⟩
  simp only [Response.reply, Response.of, Console.Reply.stats, Console.Reply.read, bind, Except.bind, failed,
    Bool.not_false, if_true]
  exact ⟨_, rfl⟩

/-! ### Bringing the ledger up to date -/

theorem refresh_board :
    (refresh p).desk.board = p.desk.board.update Part.source.name (.ofTally p.ledger.tally p.now) := rfl

/-- A question about the health changes what is said of the ledger, and nothing else. -/
theorem get?_refresh :
    (∃ c, (refresh p).desk.board.parts.get? Part.source.name = some c ∧
      c.status = if 0 < p.ledger.tally.deadLettered then .degraded else .healthy) ∧
    ∀ part, part ≠ Part.source.name →
      (refresh p).desk.board.parts.get? part = p.desk.board.parts.get? part :=
  ⟨⟨_, OrderedMap.get?_insert_self .., Condition.status_ofTally ..⟩,
    fun _ apart => OrderedMap.get?_insert_of_ne _ _ apart⟩

theorem fits_refresh (now : IsWord p.now) (checked : ∀ e ∈ p.desk.board.parts.entries, IsWord e.2.checkedAt) :
    HealthReport.format.Fits (refresh p).desk.board.report := fun e mem => by
  rcases OrderedMap.mem_insertEntry mem with rfl | mem
  · rwa [Condition.checkedAt_ofTally]
  · exact checked e mem

/-- The answer about the health is one of failure just if a part other than the ledger has broken down. -/
theorem status_refresh :
    (healthResponse (refresh p).desk.board).status = 503 ↔
      ∃ part c, part ≠ Part.source.name ∧ p.desk.board.parts.get? part = some c ∧ c.status = .unhealthy := by
  have works : (Condition.ofTally p.ledger.tally p.now).status ≠ .unhealthy := by
    rw [Condition.status_ofTally]
    split <;> nofun
  rw [status_healthResponse, refresh_board, ← Board.status_update_eq_unhealthy works]
  split <;> simp [*]

/-! ### Both ends -/

/-- **What the agent answers is what the client understands.** Whatever is on the board, in the ledger and in
the pools of a plant, as long as its integers fit into their words:

* A question about the health brings the condition of the ledger up to date and nothing else on the board. The
  status of the answer is one of failure just if a part other than the ledger has broken down, and the client
  has that status and the whole report.
* A question about the work gives the client the name, the counts and the census of the six tiers. If there is
  no census, the client has none either.
* The plant is said to be ready just if it was set up and is not reported to have broken down. -/
theorem answers_understood (now : IsWord p.now) (checked : ∀ e ∈ p.desk.board.parts.entries, IsWord e.2.checkedAt)
    (counters : p.ledger.tally.Fits)
    (sizes : ∀ census, p.census = .ok census → ∀ c ∈ census, c.workers < 2 ^ 64 ∧ c.states < 2 ^ 64) :
    (∃ r, respond name p ⟨"GET", "/" ++ Console.Question.health.page⟩ = (refresh p, r) ∧
      (r.status = 503 ↔ ∃ part c, part ≠ Part.source.name ∧ p.desk.board.parts.get? part = some c ∧
        c.status = .unhealthy) ∧
      (r.status = 200 ∨ r.status = 503) ∧
      (r.reply expose).health = .ok (r.status, (refresh p).desk.board.report)) ∧
    ((∃ c, (refresh p).desk.board.parts.get? Part.source.name = some c ∧
        c.status = if 0 < p.ledger.tally.deadLettered then .degraded else .healthy) ∧
      ∀ part, part ≠ Part.source.name →
        (refresh p).desk.board.parts.get? part = p.desk.board.parts.get? part) ∧
    (∃ r, respond name p ⟨"GET", "/" ++ Console.Question.stats.page⟩ = (p, r) ∧
      match p.census with
      | .ok census => census.map (·.tier) = Tier.all ∧ r.status = 200 ∧
          (r.reply expose).stats = .ok ⟨name, p.ledger.tally, census⟩
      | .error _ => r.status = 503 ∧ ∃ complaint, (r.reply expose).stats = .error complaint) ∧
    ∃ r, respond name p ⟨"GET", "/readyz"⟩ = (p, r) ∧
      (r.status = 200 ↔ p.desk.board.ready = true ∧ p.desk.board.report.status ≠ .unhealthy) ∧
      (r.status = 200 ∨ r.status = 503) := by
  refine ⟨⟨_, respond_health name p, status_refresh p, ?_, health_reply expose (fits_refresh p now checked)⟩,
    get?_refresh p, ⟨_, respond_stats name p, ?_⟩, ⟨_, respond_readiness name p, ?_, ?_⟩⟩
  · rw [status_healthResponse]
    split <;> simp
  · cases counted : p.census with
    | error failure => exact stats_reply_of_error expose name p counted
    | ok census =>
      exact ⟨Plant.tiers_census counted, stats_reply expose name p counted ⟨counters, sizes census counted⟩⟩
  · rw [status_readinessResponse]
    split <;> simp [*]
  · rw [status_readinessResponse]
    split <;> simp

namespace Trial

def troubled : Plant Unit :=
  let topology : Condition := ⟨.unhealthy, some "raw worker-0 stopped", 7⟩
  .opened Settings.standard (.of fun t => [.new t .standard none]) ()
    ⟨OrderedMap.empty.insert Part.topology.name topology, true⟩ 9

end Trial

/-- The client learns that all is lost, and what the counters are. -/
theorem answers_understood_trial :
    (∃ r, respond "shop" Trial.troubled ⟨"GET", "/" ++ Console.Question.health.page⟩
        = (refresh Trial.troubled, r) ∧
      (r.reply fun _ => "").health = .ok (503, (refresh Trial.troubled).desk.board.report)) ∧
    ∃ r, respond "shop" Trial.troubled ⟨"GET", "/" ++ Console.Question.stats.page⟩ = (Trial.troubled, r) ∧
      (r.reply fun _ => "").stats = .ok ⟨"shop", ⟨0, 0, 0, 0, 0, 0⟩, Tier.all.map fun t => ⟨t, 1, 0⟩⟩ := by
  have census : Trial.troubled.census = .ok (Tier.all.map fun t => ⟨t, 1, 0⟩) := rfl
  have sizes : ∀ census, Trial.troubled.census = .ok census →
      ∀ c ∈ census, c.workers < 2 ^ 64 ∧ c.states < 2 ^ 64 := by
    intro other counted
    obtain rfl := Except.ok.inj (census.symm.trans counted)
    decide
  have checked : ∀ e ∈ Trial.troubled.desk.board.parts.entries, IsWord e.2.checkedAt :=
    List.forall_mem_singleton.2 ⟨by decide, by decide⟩
  have counters : Trial.troubled.ledger.tally.Fits :=
    ⟨by decide, by decide, by decide, by decide, by decide, by decide⟩
  obtain ⟨⟨r, asked, status, -, health⟩, -, ⟨r', asked', stats⟩, -⟩ :=
    answers_understood (fun _ => "") "shop" Trial.troubled ⟨by decide, by decide⟩ checked counters sizes
  have down : r.status = 503 := status.2 ⟨Part.topology.name, _, by decide, rfl, rfl⟩
  rw [census] at stats
  exact ⟨⟨r, asked, down ▸ health⟩, r', asked', stats.2.2⟩

end Api

end TierCascade
