import TierCascade.Proofs.Rounds
/-!
# Rounds one after another

As long as workers go on their rounds one after another, the board shows the notifier as its last call left it. The
store it shows as the last of its calls left it that was reported (`Serial.shown_between_rounds`): if the store works
again in a round in which the notifier then fails, nobody hears of it, and it stays up that the store fails.
-/

namespace TierCascade

namespace Plant

variable {σ : Type} {s : Settings} {c : Collaborator σ} {p q : Plant σ}

/-- The rounds that are over, those under way, what was reported, and what the desk made of it. -/
structure Tallies (b : Board) (done current : List Round) (rs : List (Int × Report)) (h : History) (p : Plant σ) :
    Prop where
  rounds : h.rounds = done ++ current
  underway : p.underway = (current : Multiset Round)
  few : current.length ≤ 1
  ended : ∀ r ∈ done, r.Ended
  desk : p.desk = (HealthDesk.new b).hearAll rs
  told : ∀ sink, (Report.calls sink rs).map (·.2) = Round.outcomes sink (done.flatMap Round.told)

namespace Tallies

variable {b : Board} {done current : List Round} {rs rs' : List (Int × Report)} {h ds : History}

theorem current_eq (tallies : Tallies b done current rs h p) {round : Round} {rest : Multiset Round}
    (before : p.underway = {round} + rest) : current = [round] ∧ rest = 0 := by
  have all := tallies.underway.symm.trans before
  have size := congrArg Multiset.card all
  rw [Multiset.coe_card, Multiset.card_add, Multiset.card_singleton] at size
  obtain rfl : rest = 0 := Multiset.card_eq_zero.1 (by have few := tallies.few; omega)
  exact ⟨List.perm_singleton.1 (Multiset.coe_eq_coe.1 (all.trans (add_zero _))), rfl⟩

theorem told_concat (tallies : Tallies b done current rs h p) {round : Round}
    (tells : ∀ sink, (Report.calls sink rs').map (·.2) = Round.outcomes sink round.told) (sink : Sink) :
    (Report.calls sink (rs ++ rs')).map (·.2) = Round.outcomes sink ((done ++ [round]).flatMap Round.told) := by
  rw [Report.calls_append, List.map_append, tallies.told, tells, List.flatMap_append, List.flatMap_singleton,
    Round.outcomes_append]

theorem ended_concat (tallies : Tallies b done current rs h p) {round : Round} (ended : round.Ended) :
    ∀ r ∈ done ++ [round], r.Ended := by
  intro r mem
  rcases List.mem_append.1 mem with before | last
  · exact tallies.ended r before
  · rwa [List.mem_singleton.1 last]

theorem step (tallies : Tallies b done current rs h p) (attends : p.Attends ds q) (few : q.underway.card ≤ 1) :
    ∃ done' current' rs', Tallies b done' current' rs' (h ++ ds) q := by
  obtain ⟨rs', tends, desk⟩ := attends
  have rounds : (h ++ ds).rounds = ds.marks.foldl Round.add (done ++ current) := by
    rw [History.rounds_append, tallies.rounds]
  have heard : q.desk = (HealthDesk.new b).hearAll (rs ++ rs') := by
    rw [desk, tallies.desk, HealthDesk.hearAll_append]
  generalize ds.marks = marks at tends rounds
  cases tends with
  | aside same silent =>
    refine ⟨done, current, rs ++ rs', rounds, same.trans tallies.underway, tallies.few, tallies.ended, heard,
      fun sink => ?_⟩
    have none : Report.calls sink rs' = [] := List.filterMap_eq_nil_iff.2 fun r mem => by rw [silent r mem sink]; rfl
    rw [Report.calls_append, none, List.append_nil]
    exact tallies.told sink
  | begin more =>
    rw [more, tallies.underway, Multiset.card_add, Multiset.card_singleton, Multiset.coe_card] at few
    obtain rfl : current = [] := List.eq_nil_of_length_eq_zero (by omega)
    rw [List.append_nil] at rounds heard
    exact ⟨done, [[]], rs, rounds, more.trans (by rw [tallies.underway]; rfl), Nat.le_refl 1, tallies.ended, heard,
      tallies.told⟩
  | @call round rest sink made before after =>
    obtain ⟨rfl, rfl⟩ := tallies.current_eq before
    rw [List.append_nil] at heard
    refine ⟨done, [round ++ Round.went sink made], rs, ?_, after, Nat.le_refl 1, tallies.ended, heard,
      tallies.told⟩
    rw [rounds]
    cases made with
    | false => simp [Round.went]
    | true => simp [Round.went, Round.add]
  | @fail round rest sink fault before after well ended own =>
    obtain ⟨rfl, rfl⟩ := tallies.current_eq before
    refine ⟨done ++ [round ++ [(sink, .error fault)]], [], _, ?_, after, Nat.zero_le 1, tallies.ended_concat ended,
      heard, tallies.told_concat fun about => ?_⟩
    · rw [rounds]
      simp [Round.add]
    · rw [Round.told_of_fault well, ← own]
      by_cases same : fault.sink = about
      · simp [Report.calls, Report.call?, Round.outcomes, same]
      · simp [Report.calls, Report.call?, Round.outcomes, same]
  | @close receipt rest before after =>
    obtain ⟨rfl, rfl⟩ := tallies.current_eq before
    exact ⟨done ++ [receipt.round], [], _, rounds.trans (List.append_nil _).symm, after, Nat.zero_le 1,
      tallies.ended_concat (.well receipt.stored receipt.notified), heard,
      tallies.told_concat (receipt.calls_reports p.now)⟩

end Tallies

end Plant

/-- The runs of a plant in which workers go on their rounds one after another, each with its history. No
collaborator is shown as degraded at the start. Apart from that anything may happen in between. -/
inductive Serial {σ : Type} (s : Settings) (c : Collaborator σ) : History → Plant σ → Prop where
  | launch {sinks : σ} {board : Board} {now : Int} {p : Plant σ} (start : Plant.launch s sinks board now = .ok p)
      (well : ∀ sink, ¬ board.Degraded sink) : Serial s c [] p
  | step {h : History} {p q : Plant σ} {a : Action} (serial : Serial s c h p) (move : p.step s c a = some q)
      (few : q.underway.card ≤ 1) : Serial s c (h ++ p.deeds s c a) q

namespace Serial

variable {σ : Type} {s : Settings} {c : Collaborator σ} {h : History} {p : Plant σ}

theorem wired (serial : Serial s c h p) : p.Wired s := by
  induction serial with
  | launch start => exact .of_launch start
  | step _ move _ ih => exact ih.step move

theorem tallies (serial : Serial s c h p) (honest : c.Honest) : ∃ b done current rs,
    (∀ sink, ¬ b.Degraded sink) ∧ p.Tallies b done current rs h := by
  induction serial with
  | @launch sinks board now p start well =>
    obtain ⟨usable, j, rfl⟩ := Plant.launch_eq_ok start
    have none : (Plant.new s sinks board now).underway = 0 :=
      Plant.total_eq_zero fun here => by rw [Plant.eq_new_of_worker? here]; rfl
    exact ⟨board, [], [], [], well, rfl, none, Nat.zero_le 1, nofun, rfl, fun _ => rfl⟩
  | step serial move few ih =>
    obtain ⟨b, done, current, rs, well, tallies⟩ := ih
    obtain ⟨done', current', rs', after⟩ :=
      tallies.step (Plant.attends_of_step honest serial.wired move) few
    exact ⟨b, done', current', rs', well, after⟩

/-- **What the board shows between two rounds**: the notifier as its last call left it, and the store as the last
of its calls that was reported left it. That is its last call, unless the notifier failed in the same round. -/
theorem shown_between_rounds (serial : Serial s c h p) (honest : c.Honest) (rest : p.underway = 0) :
    (p.desk.board.Degraded .notifier ↔ Round.LastFailed .notifier h.calls) ∧
      (p.desk.board.Degraded .store ↔ Round.LastFailed .store (h.rounds.flatMap Round.told)) ∧
      ((∀ fault, (h.rounds.filter (Round.calls .store)).getLast? ≠
          some [(.store, .ok ()), (.notifier, .error fault)]) →
        (p.desk.board.Degraded .store ↔ Round.LastFailed .store h.calls)) := by
  obtain ⟨b, done, current, rs, well, tallies⟩ := serial.tallies honest
  obtain rfl : current = [] := Multiset.coe_eq_zero _ |>.1 (tallies.underway.symm.trans rest)
  have rounds : h.rounds = done := tallies.rounds.trans (List.append_nil _)
  subst rounds
  have shown : ∀ sink, p.desk.board.Degraded sink ↔ Round.LastFailed sink (h.rounds.flatMap Round.told) := by
    intro sink
    rw [tallies.desk, (HealthDesk.hearAll_told b sink rs).degraded_iff fun degraded =>
      well sink (Board.degraded_iff.2 degraded), Round.LastFailed, ← tallies.told sink, List.getLast?_map]
    simp only [Option.map_eq_some_iff, Prod.exists, exists_eq_right]
    exact exists_comm
  refine ⟨?_, shown .store, fun last => ?_⟩
  · rw [shown, Round.LastFailed, Round.outcomes_notifier tallies.ended, History.flatten_rounds]
    rfl
  · rw [shown, Round.lastFailed_store tallies.ended last, History.flatten_rounds]

/-- Whether at most one round is under way after each of some actions. -/
def singly (s : Settings) (c : Collaborator σ) : List Action → Plant σ → Bool
  | [], _ => true
  | a :: as, p =>
    match p.step s c a with
    | some q => q.underway.card ≤ 1 && singly s c as q
    | none => true

theorem follow (serial : Serial s c h p) {as : List Action} (few : singly s c as p = true) {h' : History}
    {q : Plant σ} (moves : Plant.follow s c as (h, p) = some (h', q)) : Serial s c h' q := by
  induction as generalizing h p with
  | nil =>
    cases moves
    exact serial
  | cons a as ih =>
    rw [Plant.follow] at moves
    rw [singly] at few
    cases move : p.step s c a with
    | none =>
      rw [move] at moves
      cases moves
    | some mid =>
      rw [move] at moves few
      obtain ⟨first, later⟩ := Bool.and_eq_true_iff.1 few
      exact ih (serial.step move (of_decide_eq_true first)) later moves

theorem follow_get (serial : Serial s c h p) {as : List Action} (few : singly s c as p = true)
    (reached : (Plant.follow s c as (h, p)).isSome = true) :
    Serial s c ((Plant.follow s c as (h, p)).get reached).1 ((Plant.follow s c as (h, p)).get reached).2 :=
  serial.follow few (Option.some_get reached).symm

namespace Trial

def answer : Sink → Option String → Except SinkFault Unit
  | _, none => .ok ()
  | .store, some reason => .error (.persistence reason)
  | .notifier, some reason => .error (.notification reason)

/-- Collaborators that go by a script, in which the reasons stand for which their calls go wrong. -/
def scripted : Collaborator (List (Option String)) := fun sink _ =>
  { start := fun script => (script.tail, ⟨0, answer sink script.head?.join⟩)
    record := id }

theorem honest : scripted.Honest := by
  intro sink a script fault failed
  have failed : answer sink script.head?.join = .error fault := failed
  cases sink <;> cases reason : script.head?.join <;> rw [reason] at failed <;> cases failed <;> rfl

/-- From the second sample on, everything is out of the ordinary. -/
def settings : Settings := { TierCascade.Trial.settings with tuning := { Tuning.standard with warmup := 0 } }

def sample (timestamp : Int) (value : Float) : Sample :=
  ⟨.plain "shop" "visits", .absolute, timestamp, value, none⟩

/-- The store fails for the first sample. For the second it works, but then the notifier fails. -/
def script : List (Option String) := [some "disk full", none, some "no route"]

def actions : List Action := List.flatten
  [[.begin, .receive (sample 0 1), .enter], List.replicate 2 (.work .raw 0),
    [.settle, .receive (sample 1000 2), .enter], List.replicate 3 (.work .raw 0)]

def start : Plant (List (Option String)) :=
  (Plant.new settings script ⟨.empty, true⟩ 0).report (.started version settings.totalWorkers)

theorem reach_isSome : (Plant.follow settings scripted actions ([], start)).isSome = true := by
  decide +kernel

def history : History := ((Plant.follow settings scripted actions ([], start)).get reach_isSome).1

def final : Plant (List (Option String)) :=
  ((Plant.follow settings scripted actions ([], start)).get reach_isSome).2

theorem serial : Serial settings scripted history final := by
  have launched : Plant.launch settings script ⟨.empty, true⟩ 0 = .ok start := by
    rw [Plant.launch, Plant.start_eq_ok (by decide +kernel)]
    rfl
  have well : ∀ sink, ¬ (⟨.empty, true⟩ : Board).Degraded sink := by
    rintro sink ⟨c, found, -⟩
    cases found
  exact follow_get (.launch launched well) (by decide +kernel) reach_isSome

theorem rests : final.underway = 0 := by
  decide +kernel

end Trial

/-- The theorem applies, and both are shown as degraded in the end. -/
theorem shown_between_rounds_trial : Trial.scripted.Honest ∧
    Serial Trial.settings Trial.scripted Trial.history Trial.final ∧ Trial.final.underway = 0 ∧
    Trial.final.desk.board.Degraded .notifier ∧ Trial.final.desk.board.Degraded .store := by
  obtain ⟨notifier, store, -⟩ := shown_between_rounds Trial.serial Trial.honest Trial.rests
  exact ⟨Trial.honest, Trial.serial, Trial.rests,
    notifier.2 ⟨.notification "no route", by decide +kernel⟩,
    store.2 ⟨.persistence "disk full", by decide +kernel⟩⟩

/-- The store works again, and is shown as degraded all the same. -/
theorem unreported_trial : Serial Trial.settings Trial.scripted Trial.history Trial.final ∧
    Trial.final.underway = 0 ∧ ¬ Round.LastFailed .store Trial.history.calls ∧
    Trial.final.desk.board.Degraded .store := by
  have well : (Round.outcomes .store Trial.history.calls).getLast? = some none := by decide +kernel
  refine ⟨Trial.serial, Trial.rests, ?_, by decide +kernel⟩
  rintro ⟨fault, failed⟩
  cases well.symm.trans failed

end Serial

end TierCascade
