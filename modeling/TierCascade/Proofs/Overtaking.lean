import TierCascade.Proofs.Reports
/-!
# Notes that overtake each other

Workers report at the same time. Turning a flag and putting up the note that this leads to are two steps, and
between them other workers take theirs, so notes need not go up in the order in which they were written. All of
them do go up (`Crew.Tracked`), and the flag stands as the note says that was written last, but the board as
the one says that went up last. Once all workers are done the two agree if and only if these two notes do
(`Crew.degraded_iff_flag`), and they do if nobody takes a report down before the note of the last one is up
(`Crew.Ordered`).
-/

namespace TierCascade

/-- What a worker has still to do: to put up the note in its hand, and then to report some more. -/
structure Shift where
  hand : Option Note
  reports : List Report
  deriving DecidableEq

/-- Workers that share a desk, the notes they wrote so far, and the notes they put up. -/
structure Crew where
  desk : HealthDesk
  shifts : List Shift
  turned : List Note
  posted : List Note
  deriving DecidableEq

def Note.about (sink : Sink) (notes : List Note) : List Note := notes.filter (·.part == sink.part.name)

namespace Crew

def start (b : Board) (reports : List (List Report)) : Crew := ⟨.new b, reports.map (⟨none, ·⟩), [], []⟩

/-- One step of a worker: it puts up the note in its hand, or else takes down its next report. -/
def step (w : Crew) (now : Int) (worker : Nat) : Crew :=
  match w.shifts[worker]? with
  | some ⟨some n, rest⟩ =>
    { w with
      desk := ⟨w.desk.reporter, n.post now w.desk.board⟩
      shifts := w.shifts.set worker ⟨none, rest⟩
      posted := w.posted ++ [n] }
  | some ⟨none, r :: rest⟩ =>
    let taken := w.desk.reporter.take r
    { w with
      desk := ⟨taken.1, w.desk.board⟩
      shifts := w.shifts.set worker ⟨taken.2, rest⟩
      turned := w.turned ++ taken.2.toList }
  | _ => w

/-- The workers take steps in some order, each step at its time. -/
def run (w : Crew) (schedule : List (Int × Nat)) : Crew := schedule.foldl (fun w e => w.step e.1 e.2) w

def hands (w : Crew) : List Note := w.shifts.filterMap (·.hand)

/-- All workers are done. -/
def AtRest (w : Crew) : Prop := ∀ s ∈ w.shifts, s = ⟨none, []⟩

instance (w : Crew) : Decidable w.AtRest := inferInstanceAs (Decidable (∀ s ∈ w.shifts, s = ⟨none, []⟩))

/-! ### One step -/

variable {w : Crew} {now : Int} {worker : Nat}

/-- What a step can do. -/
theorem step_cases (w : Crew) (now : Int) (worker : Nat) :
    w.step now worker = w ∨
    (∃ before n rest after, w.shifts = before ++ ⟨some n, rest⟩ :: after ∧
      w.step now worker = ⟨⟨w.desk.reporter, n.post now w.desk.board⟩, before ++ ⟨none, rest⟩ :: after,
        w.turned, w.posted ++ [n]⟩) ∨
    (∃ before r rest after, w.shifts = before ++ ⟨none, r :: rest⟩ :: after ∧
      w.shifts[worker]? = some ⟨none, r :: rest⟩ ∧
      w.step now worker = ⟨⟨(w.desk.reporter.take r).1, w.desk.board⟩,
        before ++ ⟨(w.desk.reporter.take r).2, rest⟩ :: after,
        w.turned ++ (w.desk.reporter.take r).2.toList, w.posted⟩) := by
  cases turn : w.shifts[worker]? with
  | none => exact .inl (by rw [step, turn])
  | some s =>
    obtain ⟨inside, rfl⟩ := List.getElem?_eq_some_iff.1 turn
    have split : ∀ s', ∃ before after, w.shifts = before ++ w.shifts[worker] :: after ∧
        w.shifts.set worker s' = before ++ s' :: after := fun s' => by
      obtain ⟨before, after, shifts, -, set⟩ := List.exists_of_set inside
      exact ⟨before, after, shifts, set⟩
    cases shift : w.shifts[worker] with
    | mk hand reports =>
      rw [shift] at turn split
      match hand, reports with
      | none, [] => exact .inl (by rw [step, turn])
      | some n, rest =>
        obtain ⟨before, after, shifts, set⟩ := split ⟨none, rest⟩
        exact .inr (.inl ⟨before, n, rest, after, shifts, by rw [step, turn, ← set]⟩)
      | none, r :: rest =>
        obtain ⟨before, after, shifts, set⟩ := split ⟨(w.desk.reporter.take r).2, rest⟩
        exact .inr (.inr ⟨before, r, rest, after, shifts, rfl, by rw [step, turn, ← set]⟩)

theorem hands_split {before after : List Shift} {s : Shift} (shifts : w.shifts = before ++ s :: after) :
    w.hands = before.filterMap (·.hand) ++ (s.hand.toList ++ after.filterMap (·.hand)) := by
  rw [hands, shifts, List.filterMap_append, List.filterMap_cons]
  cases s.hand <;> rfl

/-- What holds between the steps: which notes are still on their way, and that the flag stands as the last note
that was written says, and the board as the last one that went up does. -/
structure Tracked (sink : Sink) (b : Board) (w : Crew) : Prop where
  hands : (w.posted ++ w.hands).Perm w.turned
  flag : w.desk.reporter.failing sink = (Note.about sink w.turned).getLast?.any (·.status == .degraded)
  shown : (w.desk.board.parts.get? sink.part.name).map (·.status) =
    ((Note.about sink w.posted).getLast?.map (·.status)).or ((b.parts.get? sink.part.name).map (·.status))

variable {sink : Sink} {b : Board}

theorem hands_start (b : Board) (reports : List (List Report)) : (start b reports).hands = [] := by
  rw [hands, start, List.filterMap_map, List.filterMap_eq_nil_iff]
  exact fun _ _ => rfl

theorem tracked_start (sink : Sink) (b : Board) (reports : List (List Report)) :
    Tracked sink b (start b reports) where
  hands := by
    rw [hands_start]
    exact .refl _
  flag := by cases sink <;> rfl
  shown := rfl

theorem about_concat_own {notes : List Note} {n : Note} (own : n.part = sink.part.name) :
    Note.about sink (notes ++ [n]) = Note.about sink notes ++ [n] := by
  rw [Note.about, List.filter_append, List.filter_singleton, own, beq_self_eq_true]
  rfl

theorem about_concat_other {notes : List Note} {n : Note} (other : n.part ≠ sink.part.name) :
    Note.about sink (notes ++ [n]) = Note.about sink notes := by
  rw [Note.about, List.filter_append, List.filter_singleton, beq_false_of_ne other]
  exact List.append_nil _

theorem flag_take (reporter : Reporter) (r : Report) {turned : List Note}
    (flag : reporter.failing sink = (Note.about sink turned).getLast?.any (·.status == .degraded)) :
    (reporter.take r).1.failing sink =
      (Note.about sink (turned ++ (reporter.take r).2.toList)).getLast?.any (·.status == .degraded) := by
  cases call : r.call? sink with
  | some o =>
    rw [reporter.take_call call]
    dsimp only
    rw [Reporter.failing_turn, if_pos rfl]
    by_cases same : reporter.failing sink = o.isSome
    · rw [if_pos same, ← same, flag, Option.toList_none, List.append_nil]
    · have own : (Report.note sink o).part = sink.part.name := by
        cases o <;> rfl
      rw [if_neg same, Option.toList_some, about_concat_own own, List.getLast?_concat]
      cases o <;> rfl
  | none =>
    rw [reporter.failing_take call, flag]
    cases taken : (reporter.take r).2 with
    | none => rw [Option.toList_none, List.append_nil]
    | some n =>
      have other : n.part ≠ sink.part.name := by
        rw [reporter.take_part taken]
        exact (Report.name_ne_part call).symm
      rw [Option.toList_some, about_concat_other other]

theorem shown_post (n : Note) (now : Int) {board : Board} {posted : List Note}
    (shown : (board.parts.get? sink.part.name).map (·.status) =
      ((Note.about sink posted).getLast?.map (·.status)).or ((b.parts.get? sink.part.name).map (·.status))) :
    ((n.post now board).parts.get? sink.part.name).map (·.status) =
      ((Note.about sink (posted ++ [n])).getLast?.map (·.status)).or
        ((b.parts.get? sink.part.name).map (·.status)) := by
  by_cases own : n.part = sink.part.name
  · have up : (n.post now board).parts.get? sink.part.name = some ⟨n.status, n.message, now⟩ := by
      rw [← own]
      exact OrderedMap.get?_insert_self ..
    rw [up, about_concat_own own, List.getLast?_concat]
    rfl
  · have kept : (n.post now board).parts.get? sink.part.name = board.parts.get? sink.part.name :=
      OrderedMap.get?_insert_of_ne _ _ (Ne.symm own)
    rw [kept, shown, about_concat_other own]

theorem Tracked.step (tracked : Tracked sink b w) (now : Int) (worker : Nat) :
    Tracked sink b (w.step now worker) := by
  obtain same | ⟨before, n, rest, after, shifts, post⟩ | ⟨before, r, rest, after, shifts, -, take⟩ :=
    w.step_cases now worker
  · rw [same]
    exact tracked
  · rw [post]
    refine ⟨?_, tracked.flag, shown_post n now tracked.shown⟩
    have hands := tracked.hands
    rw [hands_split shifts] at hands
    rw [hands_split rfl, List.append_assoc]
    have moved : (n :: (before.filterMap (·.hand) ++ after.filterMap (·.hand))).Perm
        (before.filterMap (·.hand) ++ n :: after.filterMap (·.hand)) := List.perm_middle.symm
    exact (moved.append_left w.posted).trans hands
  · rw [take]
    refine ⟨?_, flag_take w.desk.reporter r tracked.flag, tracked.shown⟩
    have hands := tracked.hands
    rw [hands_split shifts] at hands
    rw [hands_split rfl]
    refine .trans ?_ (hands.append_right (w.desk.reporter.take r).2.toList)
    rw [List.append_assoc, List.append_assoc]
    exact (List.perm_append_comm.append_left _).append_left _

theorem tracked_run (sink : Sink) (b : Board) (reports : List (List Report)) (schedule : List (Int × Nat)) :
    Tracked sink b ((start b reports).run schedule) := by
  induction schedule using List.reverseRecOn with
  | nil => exact tracked_start sink b reports
  | append_singleton schedule e ih =>
    rw [run, List.foldl_append]
    exact ih.step e.1 e.2

theorem Tracked.flag_iff (tracked : Tracked sink b w) : w.desk.reporter.failing sink = true ↔
    ∃ n, (Note.about sink w.turned).getLast? = some n ∧ n.status = .degraded := by
  simp only [tracked.flag, Option.any_eq_true, beq_iff_eq]

theorem Tracked.degraded_iff (tracked : Tracked sink b w) (well : ¬ b.Degraded sink) : w.desk.board.Degraded sink ↔
    ∃ n, (Note.about sink w.posted).getLast? = some n ∧ n.status = .degraded := by
  rw [Board.degraded_iff] at well ⊢
  rw [tracked.shown]
  cases (Note.about sink w.posted).getLast? with
  | none => exact iff_of_false well nofun
  | some n => simp

/-! ### One report at a time -/

/-- Nobody takes a report down as long as a note is waiting. -/
def InTurn (w : Crew) : List (Int × Nat) → Prop
  | [] => True
  | (now, worker) :: rest =>
    ((∃ r reports, w.shifts[worker]? = some ⟨none, r :: reports⟩) → w.hands = []) ∧
      (w.step now worker).InTurn rest

/-- The notes go up in the order in which they are written, and at most one is waiting. -/
def Ordered (w : Crew) : Prop := w.posted ++ w.hands = w.turned ∧ w.hands.length ≤ 1

theorem ordered_start (b : Board) (reports : List (List Report)) : (start b reports).Ordered := by
  rw [Ordered, hands_start]
  exact ⟨rfl, Nat.zero_le 1⟩

theorem Ordered.step (ordered : w.Ordered) (now : Int) (worker : Nat)
    (clear : (∃ r reports, w.shifts[worker]? = some ⟨none, r :: reports⟩) → w.hands = []) :
    (w.step now worker).Ordered := by
  obtain ⟨order, few⟩ := ordered
  obtain same | ⟨before, n, rest, after, shifts, post⟩ | ⟨before, r, rest, after, shifts, turn, take⟩ :=
    w.step_cases now worker
  · rw [same]
    exact ⟨order, few⟩
  · -- The note in the hand of the worker is the only one that is waiting.
    rw [hands_split shifts] at order few
    simp only [List.length_append, Option.toList_some, List.length_singleton] at few
    have first : before.filterMap (·.hand) = [] := List.eq_nil_of_length_eq_zero (by omega)
    have last : after.filterMap (·.hand) = [] := List.eq_nil_of_length_eq_zero (by omega)
    rw [first, last] at order
    rw [post, Ordered, hands_split rfl, first, last]
    exact ⟨(List.append_nil _).trans order, Nat.zero_le 1⟩
  · have none := clear ⟨r, rest, turn⟩
    rw [none, List.append_nil] at order
    rw [hands_split shifts] at none
    obtain ⟨first, -, last⟩ : _ ∧ _ ∧ _ := by simpa only [List.append_eq_nil_iff] using none
    rw [take, Ordered, hands_split rfl, first, last, ← order]
    refine ⟨by rw [List.nil_append, List.append_nil], ?_⟩
    cases (w.desk.reporter.take r).2 with
    | none => exact Nat.zero_le 1
    | some => exact Nat.le_refl 1

theorem Ordered.run (ordered : w.Ordered) {schedule : List (Int × Nat)} (inTurn : w.InTurn schedule) :
    (w.run schedule).Ordered := by
  induction schedule generalizing w with
  | nil => exact ordered
  | cons e schedule ih => exact ih (ordered.step e.1 e.2 inTurn.1) inTurn.2

/-! ### At rest -/

theorem AtRest.hands (rest : w.AtRest) : w.hands = [] := by
  refine List.filterMap_eq_nil_iff.2 fun s mem => ?_
  rw [rest s mem]

/-- Whatever order the steps of the workers come in, all notes are up in the end, the flag stands as the last
note that was written says, and the board as the last one that went up does. So the two agree if these are the
same note, as they are if nobody takes a report down as long as a note is waiting. -/
theorem degraded_iff_flag (b : Board) (sink : Sink) (well : ¬ b.Degraded sink) (reports : List (List Report))
    (schedule : List (Int × Nat)) (rest : ((start b reports).run schedule).AtRest) :
    let w := (start b reports).run schedule
    let written := (Note.about sink w.turned).getLast?
    let up := (Note.about sink w.posted).getLast?
    w.posted.Perm w.turned ∧
      (w.desk.reporter.failing sink = true ↔ ∃ n, written = some n ∧ n.status = .degraded) ∧
      (w.desk.board.Degraded sink ↔ ∃ n, up = some n ∧ n.status = .degraded) ∧
      (up = written → (w.desk.board.Degraded sink ↔ w.desk.reporter.failing sink = true)) ∧
      ((start b reports).InTurn schedule → (w.desk.board.Degraded sink ↔ w.desk.reporter.failing sink = true)) := by
  intro w written up
  have tracked : Tracked sink b w := tracked_run sink b reports schedule
  have all : w.posted.Perm w.turned := by
    have hands := tracked.hands
    rwa [rest.hands, List.append_nil] at hands
  have flag := tracked.flag_iff
  have shown := tracked.degraded_iff well
  have agree (same : up = written) : w.desk.board.Degraded sink ↔ w.desk.reporter.failing sink = true := by
    rw [shown, flag]
    exact iff_of_eq (congrArg (fun last => ∃ n, last = some n ∧ n.status = .degraded) same)
  refine ⟨all, flag, shown, agree, fun inTurn => agree ?_⟩
  have ordered : w.Ordered := (ordered_start b reports).run inTurn
  have order : w.posted = w.turned := by
    have order := ordered.1
    rwa [rest.hands, List.append_nil] at order
  exact congrArg (fun notes => (Note.about sink notes).getLast?) order

namespace Trial

/-- The store fails one worker, and serves another one well twice. -/
def reports : List (List Report) :=
  [[.failed (.persistence "disk full")], [.succeeded .store, .succeeded .store]]

/-- The first worker puts its note up before the second one takes anything down. -/
def calm : List (Int × Nat) := [(1, 0), (2, 0), (3, 1), (4, 1), (5, 1)]

/-- The second worker takes its report down before the note of the first one is up, and overtakes it. -/
def hasty : List (Int × Nat) := [(1, 0), (2, 1), (3, 1), (4, 0), (5, 1)]

end Trial

theorem degraded_iff_flag_trial : ¬ Board.empty.Degraded .store ∧
    ((start .empty Trial.reports).run Trial.calm).AtRest ∧
    ¬ ((start .empty Trial.reports).run Trial.calm).desk.board.Degraded .store := by
  have well : ¬ Board.empty.Degraded .store := by decide
  have rest : ((start .empty Trial.reports).run Trial.calm).AtRest := by decide
  obtain ⟨-, flag, -, agree, -⟩ := degraded_iff_flag .empty .store well Trial.reports Trial.calm rest
  refine ⟨well, rest, fun degraded => ?_⟩
  have up := (agree (by decide)).1 degraded
  revert up
  decide

/-- A note that is overtaken stays up: the flag is down again, and the last call went well, but the store is shown
as degraded. -/
theorem overtaken_trial : ((start .empty Trial.reports).run Trial.hasty).AtRest ∧
    ((start .empty Trial.reports).run Trial.hasty).desk.reporter.failing .store = false ∧
    ((start .empty Trial.reports).run Trial.hasty).desk.board.Degraded .store := by
  decide

end Crew

end TierCascade
