import TierCascade.Proofs.Tickets
/-!
# The clones of a ticket

A ticket goes from hand to hand in clones, and nobody but a holder of a clone can share it, fail it or let go
of it. Here each clone has a name, so that the number of holders that a ticket keeps can be compared with the
clones that are alive (`Circle.Sound`): they agree whatever the holders do and in whatever order. Letting go of
the last clone reports one outcome, which is that of the first failure that any holder told; nothing is
reported before or after (`Circle.resolves_once`).

The reader of the outcomes may go away at any time. What is reported then is lost, and the holders do not
notice (`Circle.Alike`).
-/

namespace TierCascade

/-- What the holder of a clone does with it, or the reader of the outcomes. -/
inductive Use where
  | share (who heir : Nat)
  | fail (who : Nat) (tier : Tier) (reason : String)
  | release (who : Nat)
  | read
  | hangUp
  deriving DecidableEq

namespace Use

def isHolders : Use → Bool
  | share .. | fail .. | release _ => true
  | read | hangUp => false

def fault? : Use → Option Mark
  | fail _ tier reason => some ⟨tier, reason⟩
  | _ => none

def firstFault (uses : List Use) : Option Mark := uses.findSome? fault?

end Use

/-- How a delivery ends of which `fault` is the first failure that was told, if any was. -/
def Ticket.ending (k : Ticket) (fault : Option Mark) : Outcome :=
  match fault with
  | some m => .failed k.unitId m.tier m.reason
  | none => .acked k.unitId

/-- The holders of a ticket by name, and what the reader of the outcomes has read so far; it is gone if that
is missing. -/
structure Circle where
  tickets : Tickets
  clones : List Nat
  heard : Option (List Outcome)

namespace Circle

def first (ts : Tickets) (k : Ticket) : Circle := ⟨ts.issue k, [0], some []⟩

/-- Lets go of one clone. What is reported to a reader that is gone is lost. -/
def letGo (c : Circle) (k : Ticket) : Tickets :=
  match c.heard with
  | some _ => c.tickets.release k
  | none => { c.tickets.release k with outcomes := [] }

/-- What becomes of it if a clone of a ticket is used, or `none` if nobody can use it so. -/
def step (k : Ticket) (c : Circle) : Use → Option Circle
  | .share who heir =>
    if who ∈ c.clones ∧ heir ∉ c.clones then
      some { c with tickets := c.tickets.share k, clones := heir :: c.clones }
    else none
  | .fail who tier reason =>
    if who ∈ c.clones then some { c with tickets := c.tickets.fail k tier reason } else none
  | .release who =>
    if who ∈ c.clones then some { c with tickets := c.letGo k, clones := c.clones.erase who } else none
  | .read =>
    match c.heard, c.tickets.read? with
    | some heard, some (o, ts) => some { c with tickets := ts, heard := some (heard ++ [o]) }
    | some _, none => some c
    | none, _ => none
  | .hangUp => some { c with tickets := { c.tickets with outcomes := [] }, heard := none }

def follow (k : Ticket) (uses : List Use) (c : Circle) : Option Circle := uses.foldlM (step k) c

variable {k : Ticket} {ts : Tickets} {c c' d : Circle} {u : Use} {uses : List Use} {fault : Option Mark}

/-! ### What a ticket keeps -/

/-- What holds of a ticket that was issued when the tickets were `ts`, if `fault` is the first failure that was
told since. -/
structure Sound (k : Ticket) (ts : Tickets) (fault : Option Mark) (c : Circle) : Prop where
  distinct : c.clones.Nodup
  record : c.tickets.find? k = if c.clones = [] then none else some ⟨k, c.clones.length, fault⟩
  reported : ∀ heard ∈ c.heard, heard ++ c.tickets.outcomes
    = ts.outcomes ++ if c.clones = [] then [k.ending fault] else []
  lost : c.heard = none → c.tickets.outcomes = []
  others : ∀ j, j ≠ k → c.tickets.find? j = ts.find? j

theorem sound_first (k : Ticket) (ts : Tickets) : Sound k ts none (first ts k) := by
  refine ⟨by simp [first], ts.find?_issue_self k, ?_, nofun, fun j apart => ts.find?_issue_of_ne apart⟩
  intro heard here
  cases here
  exact (List.append_nil ts.outcomes).symm

theorem Sound.share (sound : c.Sound k ts fault) {who heir : Nat} (holds : who ∈ c.clones)
    (new : heir ∉ c.clones) :
    Sound k ts fault { c with tickets := c.tickets.share k, clones := heir :: c.clones } := by
  have some : c.clones ≠ [] := List.ne_nil_of_mem holds
  refine ⟨List.nodup_cons.2 ⟨new, sound.distinct⟩, ?_, ?_, sound.lost, ?_⟩
  · show (c.tickets.share k).find? k = _
    rw [Tickets.find?_share_self, sound.record, if_neg some, if_neg (List.cons_ne_nil _ _)]
    rfl
  · intro heard here
    have reported := sound.reported heard here
    rw [if_neg some] at reported
    rw [if_neg (List.cons_ne_nil _ _)]
    exact reported
  · intro j apart
    exact (Tickets.find?_share_of_ne _ apart).trans (sound.others j apart)

theorem Sound.fail (sound : c.Sound k ts fault) {who : Nat} (holds : who ∈ c.clones) (tier : Tier)
    (reason : String) :
    Sound k ts (fault <|> some ⟨tier, reason⟩) { c with tickets := c.tickets.fail k tier reason } := by
  have some : c.clones ≠ [] := List.ne_nil_of_mem holds
  refine ⟨sound.distinct, ?_, ?_, sound.lost, ?_⟩
  · show (c.tickets.fail k tier reason).find? k = _
    rw [Tickets.find?_fail_self, sound.record, if_neg some, if_neg some]
    rfl
  · intro heard here
    have reported := sound.reported heard here
    rw [if_neg some] at reported
    rw [if_neg some]
    exact reported
  · intro j apart
    exact (Tickets.find?_fail_of_ne _ _ _ apart).trans (sound.others j apart)

theorem letGo_held (c : Circle) (k : Ticket) : (c.letGo k).held = (c.tickets.release k).held := by
  unfold letGo
  split <;> rfl

theorem erase_cases {who : Nat} (holds : who ∈ c.clones) :
    (1 < c.clones.length ∧ c.clones.erase who ≠ []) ∨ c.clones = [who] ∧ c.clones.erase who = [] := by
  have length := List.length_erase_of_mem holds
  by_cases last : c.clones.length = 1
  · obtain ⟨i, one⟩ := List.length_eq_one_iff.1 last
    rw [one] at holds
    obtain rfl := List.mem_singleton.1 holds
    right
    exact ⟨one, by rw [one, List.erase_cons_head]⟩
  · have pos := List.length_pos_of_mem holds
    left
    refine ⟨by omega, List.ne_nil_of_length_pos ?_⟩
    omega

theorem Sound.release (sound : c.Sound k ts fault) {who : Nat} (holds : who ∈ c.clones) :
    Sound k ts fault { c with tickets := c.letGo k, clones := c.clones.erase who } := by
  have some : c.clones ≠ [] := List.ne_nil_of_mem holds
  have record := sound.record
  rw [if_neg some] at record
  have find : ∀ j, (c.letGo k).find? j = (c.tickets.release k).find? j := by
    intro j
    rw [Tickets.find?, Tickets.find?, letGo_held]
  refine ⟨sound.distinct.erase who, ?_, ?_, ?_, ?_⟩
  · show (c.letGo k).find? k = _
    rw [find]
    rcases erase_cases holds with ⟨shared, left⟩ | ⟨last, none⟩
    · rw [Tickets.find?_release_of_shared _ record shared, if_neg left, List.length_erase_of_mem holds]
    · rw [if_pos none]
      apply Tickets.find?_release_of_last _ record
      show c.clones.length ≤ 1
      rw [last]
      exact Nat.le_refl 1
  · intro heard here
    have reported := sound.reported heard here
    rw [if_neg some, List.append_nil] at reported
    have reader : c.letGo k = c.tickets.release k := by
      rw [letGo, show c.heard = _ from here]
    show heard ++ (c.letGo k).outcomes = _
    rw [reader, Tickets.outcomes_release, ← List.append_assoc, reported, Tickets.farewell, record]
    congr 1
    rcases erase_cases holds with ⟨shared, left⟩ | ⟨last, none⟩
    · rw [if_neg left, Option.bind_some, if_neg (by simpa using shared)]
      rfl
    · rw [if_pos none, Option.bind_some, if_pos (by rw [last]; exact Nat.le_refl 1)]
      cases fault <;> rfl
  · intro gone
    show (c.letGo k).outcomes = []
    rw [letGo, show c.heard = none from gone]
  · intro j apart
    exact (find j).trans ((Tickets.find?_release_of_ne _ apart).trans (sound.others j apart))

theorem Sound.read {o : Outcome} {left : Tickets} {heard : List Outcome} (sound : c.Sound k ts fault)
    (reader : c.heard = some heard) (next : c.tickets.read? = some (o, left)) :
    Sound k ts fault { c with tickets := left, heard := some (heard ++ [o]) } := by
  obtain ⟨outcomes, same⟩ := Tickets.read?_eq_some next
  refine ⟨sound.distinct, (same k).trans sound.record, ?_, nofun, ?_⟩
  · intro heard' here
    cases here
    have reported := sound.reported heard reader
    rw [outcomes] at reported
    rw [List.append_assoc]
    exact reported
  · intro j apart
    exact (same j).trans (sound.others j apart)

/-- **One use of a clone keeps the account of its ticket.** -/
theorem Sound.step (sound : c.Sound k ts fault) (move : c.step k u = some d) :
    d.Sound k ts (fault <|> u.fault?) := by
  have same : (fault <|> none) = fault := by cases fault <;> rfl
  cases u with
  | share who heir =>
    simp only [Circle.step, Option.ite_none_right_eq_some, Option.some.injEq] at move
    obtain ⟨⟨holds, new⟩, rfl⟩ := move
    rw [show (fault <|> (Use.share who heir).fault?) = fault from same]
    exact sound.share holds new
  | fail who tier reason =>
    simp only [Circle.step, Option.ite_none_right_eq_some, Option.some.injEq] at move
    obtain ⟨holds, rfl⟩ := move
    exact sound.fail holds tier reason
  | release who =>
    simp only [Circle.step, Option.ite_none_right_eq_some, Option.some.injEq] at move
    obtain ⟨holds, rfl⟩ := move
    rw [show (fault <|> (Use.release who).fault?) = fault from same]
    exact sound.release holds
  | read =>
    rw [show (fault <|> Use.read.fault?) = fault from same]
    simp only [Circle.step] at move
    split at move
    · rename_i reader next
      cases move
      exact sound.read reader next
    · cases move
      exact sound
    · cases move
  | hangUp =>
    rw [show (fault <|> Use.hangUp.fault?) = fault from same]
    cases move
    exact ⟨sound.distinct, sound.record, nofun, fun _ => rfl, sound.others⟩

theorem Sound.follow (sound : c.Sound k ts fault) (run : c.follow k uses = some d) :
    d.Sound k ts (fault <|> Use.firstFault uses) := by
  induction uses generalizing c fault with
  | nil =>
    cases run
    cases fault <;> exact sound
  | cons u uses ih =>
    rw [Circle.follow, List.foldlM_cons] at run
    obtain ⟨mid, move, later⟩ := Option.bind_eq_some_iff.1 run
    have after := ih (sound.step move) later
    have joined : ((fault <|> u.fault?) <|> Use.firstFault uses) = (fault <|> Use.firstFault (u :: uses)) := by
      rw [Use.firstFault, Use.firstFault, List.findSome?_cons]
      cases fault <;> cases u.fault? <;> rfl
    rwa [joined] at after

/-! ### What the holders notice -/

/-- Two circles that no holder can tell apart. -/
structure Alike (c c' : Circle) : Prop where
  clones : c'.clones = c.clones
  held : c'.tickets.held = c.tickets.held

theorem held_release {ts ts' : Tickets} (same : ts'.held = ts.held) (k : Ticket) :
    (ts'.release k).held = (ts.release k).held := by
  have find : ts'.find? k = ts.find? k := by rw [Tickets.find?, same, ← Tickets.find?]
  rw [Tickets.release, Tickets.release, find]
  split
  · exact same
  · split
    · rw [Tickets.change, Tickets.change, same]
    · rw [same]

theorem Alike.step (alike : c.Alike c') (holders : u.isHolders = true) (move : c.step k u = some d) :
    ∃ d', c'.step k u = some d' ∧ d.Alike d' := by
  obtain ⟨clones, held⟩ := alike
  cases u with
  | share who heir =>
    simp only [Circle.step, Option.ite_none_right_eq_some, Option.some.injEq] at move
    obtain ⟨able, rfl⟩ := move
    refine ⟨{ c' with tickets := c'.tickets.share k, clones := heir :: c'.clones }, ?_, ?_, ?_⟩
    · rw [Circle.step, clones, if_pos able]
    · rw [clones]
    · show (c'.tickets.share k).held = (c.tickets.share k).held
      rw [Tickets.share, Tickets.share, Tickets.change, Tickets.change, held]
  | fail who tier reason =>
    simp only [Circle.step, Option.ite_none_right_eq_some, Option.some.injEq] at move
    obtain ⟨able, rfl⟩ := move
    refine ⟨{ c' with tickets := c'.tickets.fail k tier reason }, ?_, clones, ?_⟩
    · rw [Circle.step, clones, if_pos able]
    · show (c'.tickets.fail k tier reason).held = (c.tickets.fail k tier reason).held
      rw [Tickets.fail, Tickets.fail, Tickets.change, Tickets.change, held]
  | release who =>
    simp only [Circle.step, Option.ite_none_right_eq_some, Option.some.injEq] at move
    obtain ⟨able, rfl⟩ := move
    refine ⟨{ c' with tickets := c'.letGo k, clones := c'.clones.erase who }, ?_, ?_, ?_⟩
    · rw [Circle.step, clones, if_pos able]
    · rw [clones]
    · show (c'.letGo k).held = (c.letGo k).held
      rw [letGo_held, letGo_held, held_release held]
  | read => cases holders
  | hangUp => cases holders

theorem alike_of_reader (reader : u.isHolders = false) (move : c.step k u = some d) : d.Alike c := by
  cases u with
  | read =>
    simp only [step] at move
    split at move
    · rename_i next
      cases move
      refine ⟨rfl, ?_⟩
      unfold Tickets.read? at next
      split at next
      · cases next
      · cases next
        rfl
    · cases move
      exact ⟨rfl, rfl⟩
    · cases move
  | hangUp =>
    cases move
    exact ⟨rfl, rfl⟩
  | _ => cases reader

/-- **The holders do not notice the reader.** Whatever it reads and whenever it goes, the uses of the holders
alone come to the same. -/
theorem Alike.follow (alike : c.Alike c') (run : c.follow k uses = some d) :
    ∃ d', c'.follow k (uses.filter Use.isHolders) = some d' ∧ d.Alike d' := by
  induction uses generalizing c c' with
  | nil =>
    cases run
    exact ⟨c', rfl, alike⟩
  | cons u uses ih =>
    rw [Circle.follow, List.foldlM_cons] at run
    obtain ⟨mid, move, later⟩ := Option.bind_eq_some_iff.1 run
    cases holders : u.isHolders with
    | true =>
      obtain ⟨mid', move', alike'⟩ := alike.step holders move
      obtain ⟨d', later', last⟩ := ih alike' later
      refine ⟨d', ?_, last⟩
      rw [List.filter_cons_of_pos holders, Circle.follow, List.foldlM_cons, move']
      exact later'
    | false =>
      have back := alike_of_reader holders move
      rw [List.filter_cons_of_neg (by rw [holders]; exact Bool.false_ne_true)]
      exact ih ⟨alike.clones.trans back.clones, alike.held.trans back.held⟩ later

/-- **A ticket resolves exactly once.** A ticket is issued; then its holders share it, fail it and let go of it
in any order, and the reader of the outcomes reads, or goes away. All along, the ticket counts as many holders
as there are clones, and knows the first failure that any of them told. What has been reported to the reader,
read or unread, is what had been reported before, and, just if no clone is left, one outcome for the unit of
the ticket: failed with the tier and reason of the first failure, or acknowledged if none was told. If the
reader is gone, nothing waits to be read. Other tickets stay as they are. Whoever holds a clone can use it,
and nobody else; and all that holders can see is as if there had been no reader. -/
theorem resolves_once (run : (first ts k).follow k uses = some c) :
    (c.clones.Nodup ∧ c.tickets.find? k
      = if c.clones = [] then none else some ⟨k, c.clones.length, Use.firstFault uses⟩) ∧
    (∀ heard, c.heard = some heard → heard ++ c.tickets.outcomes
      = ts.outcomes ++ if c.clones = [] then [k.ending (Use.firstFault uses)] else []) ∧
    (c.heard = none → c.tickets.outcomes = []) ∧
    (∀ j, j ≠ k → c.tickets.find? j = ts.find? j) ∧
    (∀ who, ((c.step k (.release who)).isSome ↔ who ∈ c.clones) ∧
      (∀ tier reason, (c.step k (.fail who tier reason)).isSome ↔ who ∈ c.clones) ∧
      ∀ heir, heir ∉ c.clones → ((c.step k (.share who heir)).isSome ↔ who ∈ c.clones)) ∧
    ∃ c', (first ts k).follow k (uses.filter Use.isHolders) = some c' ∧ c'.clones = c.clones ∧
      c'.tickets.held = c.tickets.held := by
  have sound : c.Sound k ts (Use.firstFault uses) := (sound_first k ts).follow run
  have alike : (first ts k).Alike (first ts k) := ⟨rfl, rfl⟩
  obtain ⟨c', run', clones, held⟩ := alike.follow run
  refine ⟨⟨sound.distinct, sound.record⟩, sound.reported, sound.lost, sound.others, fun who => ?_,
    c', run', clones, held⟩
  refine ⟨?_, fun tier reason => ?_, fun heir new => ?_⟩ <;>
    simp only [step, Option.isSome_ite]
  exact and_iff_left new

end Circle

/-- Three clones are let go of one after the other. The second one to go tells a failure after the third did,
and then the reader goes away before the last clone does, or it does not. -/
theorem Circle.resolves_once_trial :
    ∃ c c', (first ⟨[], [.acked 1]⟩ ⟨3, 1⟩).follow ⟨3, 1⟩ [.share 0 1, .read, .share 0 2, .release 0,
        .fail 2 .hour "disk full", .fail 1 .raw "later", .release 2, .release 1] = some c ∧
      (first ⟨[], [.acked 1]⟩ ⟨3, 1⟩).follow ⟨3, 1⟩ [.share 0 1, .read, .share 0 2, .release 0,
        .fail 2 .hour "disk full", .fail 1 .raw "later", .release 2, .hangUp] = some c' ∧
      c.tickets.find? ⟨3, 1⟩ = none ∧
      [.acked 1] ++ c.tickets.outcomes = [.acked 1, .failed 3 .hour "disk full"] ∧
      c'.tickets.find? ⟨3, 1⟩ = some ⟨⟨3, 1⟩, 1, some ⟨.hour, "disk full"⟩⟩ ∧ c'.tickets.outcomes = [] := by
  refine ⟨_, _, rfl, rfl, ?_⟩
  obtain ⟨⟨-, settled⟩, reported, -⟩ := @resolves_once ⟨3, 1⟩ ⟨[], [.acked 1]⟩ _
    [.share 0 1, .read, .share 0 2, .release 0, .fail 2 .hour "disk full", .fail 1 .raw "later", .release 2,
      .release 1] rfl
  obtain ⟨⟨-, held⟩, -, lost, -⟩ := @resolves_once ⟨3, 1⟩ ⟨[], [.acked 1]⟩ _
    [.share 0 1, .read, .share 0 2, .release 0, .fail 2 .hour "disk full", .fail 1 .raw "later", .release 2,
      .hangUp] rfl
  exact ⟨settled, reported _ rfl, held, lost rfl⟩

end TierCascade
