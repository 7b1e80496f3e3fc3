import TierCascade.Proofs.Bench
/-!
# Where the next window starts

A look at the window of a sample that a stage has taken in changes nothing but the start of the next window of its
series, and this only forwards, if the difference of the two times is a word: to the time of the sample, a whole
period or more behind the start before (`Stage.Looks`). What has to be replayed farther on passes and leaves the start alone, and the last tier lets
nothing through. Whatever a stage is asked, and however often it is asked about the same sample, it stays so
(`Bench.anchors`).

The cases are those of the rule of the window; of the past of a stage only one thing is needed, that no sample is
later than what the state of its series shows (`Bench.Sound`).
-/

namespace TierCascade

theorem Tier.next_eq_none_iff {t : Tier} : t.next = none ↔ t = .month := by
  cases t <;> decide

/-- What a look at the window of a sample comes to: what moves on, and the state of its series before and after.
The difference of the time of the sample and the start of the window is taken at its word only where it is one. -/
structure Stage.Looks (st : Stage) (x : Sample) (replay : Option Tier) (moved : Option Sample) (after : Stage)
    (old new : SeriesState) : Prop where
  before : st.inspect x.series = some old
  now : after.inspect x.series = some new
  others : ∀ k, k ≠ x.series → after.inspect k = st.inspect k
  rest : after.tier = st.tier ∧ after.tuning = st.tuning ∧ after.census = st.census
  mark : new = { old with lastEmitted := new.lastEmitted }
  raised : new.lastEmitted ≠ old.lastEmitted → new.lastEmitted = some x.timestamp ∧
    x.timestamp ≤ new.lastTimestamp ∧ (IsWord (x.timestamp - old.anchor) →
      (∀ e, old.lastEmitted = some e → e < x.timestamp) ∧ old.anchor + st.tier.period ≤ x.timestamp)
  sample : ∀ y, moved = some y → y = x.bare
  last : st.tier = .month → moved = none ∧ new = old
  replayed : st.tier ≠ .month → (∃ target, replay = some target ∧ st.tier < target) →
    moved = some x.bare ∧ new = old
  decided : st.tier ≠ .month → (¬ ∃ target, replay = some target ∧ st.tier < target) →
    (IsWord (x.timestamp - old.anchor) →
      (moved = some x.bare ↔ old.anchor + st.tier.period ≤ x.timestamp)) ∧
    (moved = some x.bare → new.lastEmitted = some x.timestamp)

namespace Window

variable {t : Tier} {replay : Option Tier} {a : Aggregate} {old new : SeriesState} {v : Verdict}

theorem raised (rule : Window t replay a old v new) (moved : new.lastEmitted ≠ old.lastEmitted) :
    new.lastEmitted = some a.timestamp ∧ t.period ≤ old.elapsed a.timestamp := by
  cases rule with
  | closed _ _ due => exact ⟨rfl, due⟩
  | _ => exact absurd rfl moved

theorem last_stays (rule : Window t replay a old v new) (final : t.next = none) : v = .kept ∧ new = old := by
  cases rule with
  | last => exact ⟨rfl, rfl⟩
  | _ next => cases final.symm.trans next

theorem replay_moves (rule : Window t replay a old v new) (onward : t.next ≠ none)
    (forced : Stage.replays t replay = true) : v ≠ .kept ∧ new = old := by
  cases rule with
  | last final => exact absurd final onward
  | replayed => exact ⟨nofun, rfl⟩
  | kept _ free => cases forced.symm.trans free
  | closed _ free => cases forced.symm.trans free

theorem marks_of_moves (rule : Window t replay a old v new) (free : Stage.replays t replay = false)
    (moves : v ≠ .kept) : new.lastEmitted = some a.timestamp := by
  cases rule with
  | closed => rfl
  | replayed _ forced => cases forced.symm.trans free
  | _ => exact absurd rfl moves

end Window

theorem SeriesState.lastEmitted_lt {st : SeriesState} {t : Tier} {now e : Int} (emitted : st.lastEmitted = some e)
    (due : st.anchor + t.period ≤ now) : e < now := by
  rw [anchor_of_lastEmitted emitted] at due
  have period := t.period_pos
  omega

namespace Stage

/-- **A look at the window of a sample**, for a sample that is no later than what the state of its series
shows. -/
theorem exists_looks {st : Stage} {x : Sample} {a : Aggregate} {old : SeriesState} (stands : a.Of x)
    (known : st.inspect x.series = some old) (late : x.timestamp ≤ old.lastTimestamp) (replay : Option Tier) :
    ∃ new, st.Looks x replay (st.closeWindow a replay).1 (st.closeWindow a replay).2 old new := by
  have series : a.series = x.series := stands.1
  have timestamp : a.timestamp = x.timestamp := stands.2.2.1
  rw [← series] at known
  obtain ⟨new, rule, known', moved⟩ := closeWindow_window replay known
  rw [stands.toSample] at moved
  have passes : (st.closeWindow a replay).1 = some x.bare ↔ st.verdict a replay ≠ .kept := by
    rw [moved]
    split <;> simp [*]
  refine ⟨new, ?_⟩
  constructor
  case before => exact series ▸ known
  case now => exact series ▸ known'
  case others => exact fun k apart => st.get?_closeWindow_of_ne replay (series ▸ apart)
  case rest => exact ⟨st.closeWindow_tier a replay, st.closeWindow_tuning a replay, st.census_closeWindow a replay⟩
  case mark => exact rule.mark
  case raised =>
    intro raised
    obtain ⟨emitted, due⟩ := rule.raised raised
    rw [timestamp] at emitted due
    have shown : new.lastTimestamp = old.lastTimestamp := by rw [rule.mark]
    refine ⟨emitted, shown ▸ late, fun word => ?_⟩
    rw [SeriesState.elapsed_of_isWord word] at due
    have apart : old.anchor + st.tier.period ≤ x.timestamp := by omega
    exact ⟨fun e before => SeriesState.lastEmitted_lt before apart, apart⟩
  case sample =>
    intro y moves
    rw [moved] at moves
    split at moves <;> cases moves
    rfl
  case last =>
    intro month
    obtain ⟨kept, same⟩ := rule.last_stays (Tier.next_eq_none_iff.2 month)
    exact ⟨moved.trans (if_pos kept), same⟩
  case replayed =>
    intro onward needed
    obtain ⟨moves, same⟩ := rule.replay_moves (mt Tier.next_eq_none_iff.1 onward) (replays_iff.2 needed)
    exact ⟨passes.2 moves, same⟩
  case decided =>
    intro onward unneeded
    have free : replays st.tier replay = false := Bool.eq_false_iff.2 (mt replays_iff.1 unneeded)
    have next : st.tier.next.isSome = true := Option.ne_none_iff_isSome.1 (mt Tier.next_eq_none_iff.1 onward)
    refine ⟨fun word => ?_, fun moves => ?_⟩
    · rw [passes, rule.moves_iff free, timestamp, and_iff_right next, SeriesState.elapsed_of_isWord word]
      omega
    · rw [rule.marks_of_moves free (passes.1 moves), timestamp]

end Stage

namespace Bench

theorem lastEmitted_take (b : Bench) (x : Sample) {k : Series} {new : SeriesState}
    (known : (b.serve (.take x)).stage.inspect k = some new) :
    new.lastEmitted = (b.stage.inspect k).bind (·.lastEmitted) := by
  rcases b.serve_take x with ⟨-, taken⟩ | ⟨-, stays⟩
  · rw [taken] at known
    by_cases own : k = x.series
    · subst own
      rw [Stage.inspect_taken_self, Option.some_inj] at known
      rw [← known, Stage.absorbed_eq]
      cases b.stage.inspect x.series <;> rfl
    · rw [Stage.inspect_taken_of_ne _ own] at known
      rw [known]
      rfl
  · rw [stays] at known
    rw [known]
    rfl

/-- **Where the next window starts.** A stage may be asked to take in any samples and to look at any windows, in
any order. From then on nothing that matters to a window goes back, whatever it is asked, as long as each
difference that this asks for is a word. Taking a sample in makes an aggregate of it, if its value is finite, and
moves no window. A look at the window of a sample of which an aggregate was made comes to what `Stage.Looks` says,
whatever the sample has to be replayed to and however often the stage has looked before. -/
theorem anchors (st : Stage) (m : Meter) (rs : List Stage.Request) :
    let b := serveAll ⟨st, m, []⟩ rs
    (∀ rs' k old, b.stage.inspect k = some old →
      ∃ new, (b.serveAll rs').stage.inspect k = some new ∧ (b.AllFit rs' → old.Onward new)) ∧
    (∀ x, x.value.isFinite = true → ∃ a, b.stage.process x = .ok (a, (b.serve (.take x)).stage) ∧
      (b.serve (.take x)).made = b.made ++ [(x, a)]) ∧
    (∀ x k new, (b.serve (.take x)).stage.inspect k = some new →
      new.lastEmitted = (b.stage.inspect k).bind (·.lastEmitted)) ∧
    ∀ x a, (x, a) ∈ b.made → ∀ replay, ∃ old new,
      b.stage.Looks x replay (b.stage.closeWindow a replay).1 (b.stage.closeWindow a replay).2 old new := by
  intro b
  refine ⟨fun rs' k old known => serveAll_known rs' known, fun x finite => ?_, fun x k new => b.lastEmitted_take x,
    fun x a mem replay => ?_⟩
  · rcases b.serve_take x with ⟨-, taken⟩ | ⟨infinite, -⟩
    · rw [taken]
      exact ⟨_, b.stage.process_of_finite finite, rfl⟩
    · cases finite.symm.trans infinite
  · obtain ⟨stands, old, known, late⟩ := serveAll_sound rfl rs x a mem
    exact ⟨old, Stage.exists_looks stands known late replay⟩

end Bench

end TierCascade
