import TierCascade.Proofs.Accounts
import TierCascade.Sink.Recorder
/-!
# What holds all along a run

The invariants put together: workers, tickets and accounts are in order at every point of an
undisturbed run (`Run.sound`), so every step of a run is a turn, and `Run.by_turns` proves
something of all runs by looking at turns.
-/

namespace TierCascade

/-- All that is in order in a run: the workers, the loop, the tickets and the accounts. -/
structure Plant.Sound {σ : Type} (s : Settings) (h : History) (p : Plant σ) : Prop where
  orderly : p.Orderly s
  fresh : ∀ e ∈ p.loop.waiting, p.loop.running = true ∧ e.1 = p.loop.run
  traffic : p.traffic.Sound s h

namespace Plant

variable {σ : Type} {s : Settings} {c : Collaborator σ} {h : History} {p q : Plant σ}

theorem total_eq_zero {M : Type} [AddCommMonoid M] {f : Tier → Worker → M}
    (none : ∀ {t i w}, p.worker? t i = some w → f t w = 0) : p.total f = 0 := by
  apply List.sum_eq_zero
  intro x mem
  obtain ⟨t, -, rfl⟩ := List.mem_map.1 mem
  apply List.sum_eq_zero
  intro y there
  obtain ⟨w, here, rfl⟩ := List.mem_map.1 there
  obtain ⟨i, found⟩ := List.getElem?_of_mem here
  exact none found

theorem sound_of_launch {sinks : σ} {board : Board} {now : Int}
    (start : Plant.launch s sinks board now = .ok p) : p.Sound s [] := by
  obtain ⟨usable, j, rfl⟩ := launch_eq_ok start
  have orderly := orderly_new usable sinks board now
  -- All workers are new, so nothing is on its way and nobody has stayed behind.
  have heads : (new s sinks board now).heads = 0 := by
    rw [Plant.heads, total_eq_zero fun here => by rw [eq_new_of_worker? here]; rfl]
    rfl
  have tails : (new s sinks board now).tails = 0 :=
    total_eq_zero fun here => by rw [eq_new_of_worker? here]; rfl
  refine ⟨orderly.of_pools rfl, fun e mem => absurd mem List.not_mem_nil, fun k => ?_, ?_⟩
  · change Standing s k [] (Traffic.headsOf (new s sinks board now).heads k)
      ((new s sinks board now).tails.count k) none
    rw [heads, tails]
    exact .absent
  · constructor
    case channel => rfl
    case single => exact List.nodup_nil
    case known => exact fun d mem => absurd mem List.not_mem_nil
    case flight =>
      intro i u found
      cases found
    case awaits =>
      rintro k (held | ⟨o, unsettled⟩)
      · cases held
      · cases unsettled
    case warranted => exact fun d mem => absurd mem List.not_mem_nil

theorem Sound.loop_at_rest (sound : p.Sound s h) (settled : p.ledger.pending = 0) :
    p.loop.submitting = none ∧ p.loop.ready = [] ∧ p.loop.waiting = [] := by
  have none : p.heads = 0 := (sound.traffic.at_rest settled).1
  have part : p.loop.heads ≤ p.heads := Multiset.le_add_right ..
  have loop : p.loop.heads = 0 := Multiset.le_zero.1 (none ▸ part)
  have empty := List.map_eq_nil_iff.1 (Multiset.coe_eq_zero _ |>.1 loop)
  obtain ⟨first, waiting⟩ := List.append_eq_nil_iff.1 empty
  obtain ⟨submitting, ready⟩ := List.append_eq_nil_iff.1 first
  exact ⟨Option.toList_eq_nil_iff.1 submitting, ready, List.map_eq_nil_iff.1 waiting⟩

theorem Sound.turn (sound : p.Sound s h) {a : Action} (calm : a.disturbs = false)
    (move : p.step s c a = some q) : Turn s c p (p.deeds s c a) q :=
  turn_of_step sound.orderly sound.fresh (fun settled => (sound.loop_at_rest settled).2.1) calm move

theorem Sound.fresh_turn {ds : History} (sound : p.Sound s h) (turn : Turn s c p ds q) :
    ∀ e ∈ q.loop.waiting, q.loop.running = true ∧ e.1 = q.loop.run := by
  cases turn with
  | begin rests =>
    intro e mem
    rw [(sound.fresh e mem).1] at rests
    cases rests
  | receive => exact sound.fresh
  | closeInput => exact sound.fresh
  | settle ready settled =>
    obtain ⟨tickets, meter, journal, read, rfl, rfl⟩ := settle_eq_some settled
    intro e mem
    rcases List.mem_append.1 mem with old | new
    · exact sound.fresh e old
    · obtain ⟨d, -, rfl⟩ := List.mem_map.1 new
      simp only [loopIdle, Bool.and_eq_true] at ready
      exact ⟨ready.1, rfl⟩
  | wake =>
    intro e mem
    exact sound.fresh e (List.mem_of_mem_eraseIdx mem)
  | resubmit => exact sound.fresh
  | enter => exact sound.fresh
  | finish ready settled none =>
    intro e mem
    rw [(sound.loop_at_rest settled).2.2] at mem
    cases mem
  | reject => rw [(p.take_frame ..).loop]; exact sound.fresh
  | fold => rw [(p.take_frame ..).loop]; exact sound.fresh
  | call => exact sound.fresh
  | fault => exact sound.fresh
  | keep => rw [(p.close_frame ..).loop]; exact sound.fresh
  | move => rw [(p.close_frame ..).loop]; exact sound.fresh
  | hand => exact sound.fresh
  | part => exact sound.fresh

theorem Sound.after {ds : History} (sound : p.Sound s h) (turn : Turn s c p ds q) :
    q.Sound s (h ++ ds) :=
  ⟨turn.orderly sound.orderly, sound.fresh_turn turn, (turn.traffic sound.orderly).sound sound.traffic⟩

end Plant

/-- **Everything is in order at every point of a run.** -/
theorem Run.sound {σ : Type} {s : Settings} {c : Collaborator σ} {h : History} {p : Plant σ}
    (run : Run s c h p) : p.Sound s h := by
  induction run with
  | launch start => exact Plant.sound_of_launch start
  | step _ calm move ih => exact ih.after (ih.turn calm move)

/-- What holds of every plant that was started, and is kept by every turn of a run, holds all along
every run. -/
theorem Run.by_turns {σ : Type} {s : Settings} {c : Collaborator σ} {P : History → Plant σ → Prop}
    (launch : ∀ {sinks board now p}, Plant.launch s sinks board now = .ok p → P [] p)
    (turn : ∀ {h p ds q}, Run s c h p → Turn s c p ds q → P h p → P (h ++ ds) q)
    {h : History} {p : Plant σ} (run : Run s c h p) : P h p := by
  induction run with
  | launch start => exact launch start
  | step run calm move ih => exact turn run (run.sound.turn calm move) ih

/-- The same for the runs whose history is of a kind, if every history of that kind began as one. -/
theorem Run.by_turns_of {σ : Type} {s : Settings} {c : Collaborator σ} {P : History → Plant σ → Prop}
    {Q : History → Prop} (began : ∀ {h ds}, Q (h ++ ds) → Q h)
    (launch : ∀ {sinks board now p}, Plant.launch s sinks board now = .ok p → P [] p)
    (turn : ∀ {h p ds q}, Run s c h p → Q (h ++ ds) → Turn s c p ds q → P h p → P (h ++ ds) q)
    {h : History} {p : Plant σ} (run : Run s c h p) (kind : Q h) : P h p := by
  refine Run.by_turns (P := fun h p => Q h → P h p) (fun start _ => launch start) ?_ run kind
  intro h p ds q run now ih kind
  exact turn run kind now (ih (began kind))

/-! ### The end of a run -/

theorem Plant.running_of_idle {σ : Type} {p : Plant σ} (ready : p.loopIdle = true) :
    p.loop.running = true := by
  simp only [loopIdle, Bool.and_eq_true] at ready
  exact ready.1

/-- A run that has drained is over, and has settled everything. -/
theorem Run.settled_of_drained {σ : Type} {s : Settings} {c : Collaborator σ} {h : History}
    {p : Plant σ} (run : Run s c h p) :
    p.loop.exit = some .drained → p.loop.running = false ∧ p.ledger.pending = 0 := by
  refine Run.by_turns (P := fun _ p => p.loop.exit = some .drained →
    p.loop.running = false ∧ p.ledger.pending = 0) ?_ ?_ run
  · intro sinks board now p start
    obtain ⟨-, j, rfl⟩ := Plant.launch_eq_ok start
    nofun
  · intro h p ds q run turn ih
    -- Whatever the loop does, it does while it runs; then no run has drained yet.
    have absurd_of_idle : p.loopIdle = true → p.loop.exit ≠ some .drained := by
      intro ready drained
      have running := Plant.running_of_idle ready
      rw [(ih drained).1] at running
      cases running
    cases turn with
    | begin => nofun
    | receive x ready => exact fun drained => absurd drained (absurd_of_idle ready)
    | closeInput ready => exact fun drained => absurd drained (absurd_of_idle ready)
    | settle ready settled =>
      obtain ⟨tickets, meter, journal, read, rfl, rfl⟩ := Plant.settle_eq_some settled
      exact fun drained => absurd drained (absurd_of_idle ready)
    | wake => exact ih
    | resubmit ready => exact fun drained => absurd drained (absurd_of_idle ready)
    | enter => exact ih
    | finish ready settled => exact fun _ => ⟨rfl, settled⟩
    | reject => rw [(p.take_frame ..).loop, (p.take_frame ..).ledger]; exact ih
    | fold => rw [(p.take_frame ..).loop, (p.take_frame ..).ledger]; exact ih
    | call => exact ih
    | fault => exact ih
    | keep => rw [(p.close_frame ..).loop, (p.close_frame ..).ledger]; exact ih
    | move => rw [(p.close_frame ..).loop, (p.close_frame ..).ledger]; exact ih
    | hand => exact ih
    | part => exact ih

/-! ### Short runs -/

namespace Trial

def start (s : Settings) (rules : List Rule) : Plant Recorder :=
  (Plant.new s (.new rules) ⟨.empty, true⟩ 0).report (.started version s.totalWorkers)

def reach (s : Settings) (rules : List Rule) (actions : List Action) :
    Option (History × Plant Recorder) :=
  Plant.follow s Recorder.collaborator actions ([], start s rules)

theorem launch_eq {s : Settings} (usable : s.check = .ok ()) (rules : List Rule) :
    Plant.launch s (.new rules) ⟨.empty, true⟩ 0 = .ok (start s rules) := by
  rw [Plant.launch, Plant.start_eq_ok usable]
  rfl

theorem follow_of_reach {s : Settings} {rules : List Rule} {actions : List Action}
    (reached : (reach s rules actions).isSome = true) :
    Plant.follow s Recorder.collaborator actions ([], start s rules)
      = some (((reach s rules actions).get reached).1, ((reach s rules actions).get reached).2) :=
  (Option.some_get reached).symm

theorem run_of_reach {s : Settings} {rules : List Rule} {actions : List Action}
    (usable : s.check = .ok ()) (calm : ∀ a ∈ actions, a.disturbs = false)
    (reached : (reach s rules actions).isSome = true) :
    Run s Recorder.collaborator ((reach s rules actions).get reached).1
      ((reach s rules actions).get reached).2 :=
  Run.follow calm (.launch (launch_eq usable rules)) (follow_of_reach reached)

/-- One worker a tier; every aggregate is stored, and every call is made once. -/
def settings : Settings :=
  { Settings.standard with
    stored := .all true
    workers := .all (some 1)
    grouping := .all (some .global)
    capacity := 4
    calls := ⟨1000, 0, 0⟩
    redelivery := ⟨3, 0⟩ }

def sample (timestamp : Int) : Sample := ⟨.plain "shop" "visits", .absolute, timestamp, 1, none⟩

/-- The store fails once, at the second tier. -/
def rules : List Rule := [⟨some 1, .store, some .minute, none, .fails (.persistence "disk full")⟩]

/-- The first sample stays at the finest tier. The second moves on, fails there because the store is out
of order, and is delivered again: by then the window of the finest tier starts at its own timestamp, so
it moves on only because it has to. -/
def actions : List Action := List.flatten
  [[.begin, .receive (sample 0), .enter], List.replicate 4 (.work .raw 0),
    [.settle, .receive (sample 1000), .enter], List.replicate 6 (.work .raw 0),
    List.replicate 2 (.work .minute 0), [.settle, .wake 0, .resubmit, .enter],
    List.replicate 6 (.work .raw 0), List.replicate 4 (.work .minute 0),
    [.settle, .closeInput, .finish]]

theorem reach_isSome : (reach settings rules actions).isSome = true := by
  decide +kernel

def history : History := ((reach settings rules actions).get reach_isSome).1

def final : Plant Recorder := ((reach settings rules actions).get reach_isSome).2

theorem run : Run settings Recorder.collaborator history final :=
  run_of_reach (by decide +kernel) (by decide) reach_isSome

end Trial

end TierCascade
