import Mathlib.Data.ENat.Lattice
import TierCascade.Proofs.Calls
/-!
# How a call budget is spent

A collaborator is called until an attempt succeeds or the budget is spent. Against a script that says how each
attempt goes, for ever, that comes to one of two runs: to the first attempt that succeeds
(`CallBudget.attempts_of_success`), or through all of the budget (`CallBudget.attempts_of_failures`). Which of
them it is depends on the place of the first success alone (`CallBudget.call_playing`). Every collaborator goes
by some script (`CallBudget.call_eq_playing`).

The number of retries left counts down, so nothing can overflow. Counting the failed attempts up in 32 bits
comes to the same, as long as the budget fits into them (`CallBudget.counted_eq`).
-/

namespace TierCascade

/-- A collaborator that goes by a script. Its state is the number of attempts that were begun. One that never
ends is one that outlasts the time allowed. -/
def Callee.playing (script : Nat → Plan) : Callee Nat := ⟨fun made => (made + 1, script made), id⟩

namespace CallBudget

variable (b : CallBudget) (label : String)

/-! ### One attempt -/

theorem judge_eq_ok {p : Plan} : b.judge label p = .ok () ↔ p.lasts ≤ b.timeout ∧ p.result = .ok () := by
  unfold judge
  split
  · rename_i inTime
    exact (and_iff_right inTime).symm
  · rename_i late
    exact iff_of_false nofun fun both => late both.1

theorem judge_eq_error {p : Plan} {fault : SinkFault} : b.judge label p = .error fault ↔
    p.lasts ≤ b.timeout ∧ p.result = .error fault ∨
      b.timeout < p.lasts ∧ fault = .timeout label (b.timeout * 1000) := by
  unfold judge
  split
  · rename_i inTime
    rw [or_iff_left fun late => Nat.not_lt.2 inTime late.1, and_iff_right inTime]
  · rename_i late
    rw [or_iff_right fun both => late both.1, and_iff_right (Nat.lt_of_not_le late), Except.error.injEq]
    exact eq_comm

variable {script : Nat → Plan} {made first left : Nat}

theorem attempt_playing (made : Nat) :
    b.attempt label (.playing script) made = (made + 1, b.judge label (script made)) := by
  rw [attempt, Callee.playing]
  simp only [id]
  cases b.judge label (script made) <;> rfl

/-! ### The attempts of a call -/

/-- Where an attempt within the budget succeeds, the first that does is the last one that is made. -/
theorem attempts_of_success (succeeds : b.judge label (script first) = .ok ())
    (fail : ∀ n, made ≤ n → n < first → b.judge label (script n) ≠ .ok ())
    (low : made ≤ first) (high : first ≤ made + left) :
    b.attempts label (.playing script) left made = (first + 1, .ok ()) := by
  induction left generalizing made with
  | zero =>
    obtain rfl : made = first := Nat.le_antisymm low high
    rw [attempts, attempt_playing, succeeds]
  | succ left ih =>
    rw [attempts, attempt_playing]
    rcases Nat.eq_or_lt_of_le low with rfl | later
    · rw [succeeds]
    · cases ends : b.judge label (script made) with
      | ok => exact absurd ends (fail made (Nat.le_refl made) later)
      | error =>
        exact ih (fun n from' => fail n (Nat.le_of_succ_le from')) later (by omega)

/-- Where none does, the whole budget is spent, and the last attempt decides what is said. -/
theorem attempts_of_failures
    (fail : ∀ n, made ≤ n → n ≤ made + left → b.judge label (script n) ≠ .ok ()) :
    b.attempts label (.playing script) left made
      = (made + left + 1, b.judge label (script (made + left))) := by
  induction left generalizing made with
  | zero => exact b.attempt_playing label made
  | succ left ih =>
    rw [attempts, attempt_playing]
    cases ends : b.judge label (script made) with
    | ok => exact absurd ends (fail made (Nat.le_refl made) (Nat.le_add_right ..))
    | error =>
      have rest := ih fun n from' upTo => fail n (Nat.le_of_succ_le from') (by omega)
      rwa [Nat.add_right_comm made 1 left] at rest

/-! ### The script of a collaborator -/

section

variable {σ : Type} (callee : Callee σ) (s : σ)

/-- The script that a collaborator goes by: how each attempt goes if all before it were made. -/
def scriptOf (made : Nat) : Plan := (callee.start (b.make label callee made s)).2

theorem make_succ (made : Nat) :
    b.make label callee (made + 1) s = (b.attempt label callee (b.make label callee made s)).1 := by
  induction made generalizing s with
  | zero => rfl
  | succ made ih => exact ih _

theorem attempt_make (made : Nat) : b.attempt label callee (b.make label callee made s)
    = (b.make label callee (made + 1) s, b.judge label (b.scriptOf label callee s made)) := by
  refine Prod.ext (b.make_succ label callee s made).symm ?_
  rw [attempt, scriptOf]
  cases callee.start (b.make label callee made s) with
  | mk begun plan =>
    simp only
    cases b.judge label plan <;> rfl

theorem attempts_eq_playing (left made : Nat) :
    b.attempts label callee left (b.make label callee made s)
      = (b.make label callee (b.attempts label (.playing (b.scriptOf label callee s)) left made).1 s,
        (b.attempts label (.playing (b.scriptOf label callee s)) left made).2) := by
  induction left generalizing made with
  | zero => rw [attempts, attempts, attempt_playing, attempt_make]
  | succ left ih =>
    rw [attempts, attempts, attempt_playing, attempt_make]
    cases b.judge label (b.scriptOf label callee s made) with
    | ok => rfl
    | error => exact ih (made + 1)

/-- **Every collaborator goes by its script**: a call makes as many attempts, and says the same. -/
theorem call_eq_playing : b.call label callee s
    = (b.make label callee (b.call label (.playing (b.scriptOf label callee s)) 0).1 s,
      (b.call label (.playing (b.scriptOf label callee s)) 0).2) :=
  b.attempts_eq_playing label callee s b.retries 0

end

/-! ### The first success -/

/-- The place of the first attempt of a script that succeeds, counted from one. It is infinite if none does. -/
noncomputable def firstSuccess (script : Nat → Plan) : ℕ∞ :=
  ⨅ (n : Nat) (_ : b.judge label (script n) = .ok ()), ((n + 1 : Nat) : ℕ∞)

theorem firstSuccess_eq (succeeds : b.judge label (script first) = .ok ())
    (fail : ∀ n < first, b.judge label (script n) ≠ .ok ()) :
    b.firstSuccess label script = ((first + 1 : Nat) : ℕ∞) := by
  refine le_antisymm (iInf₂_le first succeeds) (le_iInf₂ fun n good => ?_)
  have late : first ≤ n := Nat.le_of_not_lt fun early => fail n early good
  exact Nat.cast_le.2 (Nat.succ_le_succ late)

theorem lt_firstSuccess (fail : ∀ n ≤ left, b.judge label (script n) ≠ .ok ()) :
    ((left + 1 : Nat) : ℕ∞) < b.firstSuccess label script := by
  have next : ((left + 1 : Nat) : ℕ∞) < ((left + 1 + 1 : Nat) : ℕ∞) := Nat.cast_lt.2 (Nat.lt_succ_self _)
  refine next.trans_le (le_iInf₂ fun n good => ?_)
  have late : left < n := Nat.lt_of_not_le fun early => fail n early good
  exact Nat.cast_le.2 (Nat.succ_le_succ late)

/-! ### Counting in 32 bits -/

section

variable {σ : Type} (callee : Callee σ)

/-- Attempts as long as the number of those that failed, kept in 32 bits, stays below the number of retries.
There is no answer if that number overflows. -/
def counted (retries failed : UInt32) (s : σ) : Option (σ × Except SinkFault Unit) :=
  match b.attempt label callee s with
  | (s, .ok ()) => some (s, .ok ())
  | (s, .error fault) =>
    if failed < retries then
      if failed.toNat + 1 < UInt32.size then counted retries (failed + 1) s else none
    else some (s, .error fault)
termination_by UInt32.size - failed.toNat
decreasing_by
  have next : (failed + 1).toNat = failed.toNat + 1 := by
    rw [UInt32.toNat_add]
    exact Nat.mod_eq_of_lt ‹_›
  omega

/-- **Counting up comes to the same as counting down**, and the count never overflows. -/
theorem counted_eq {retries failed : UInt32} (rest : failed.toNat + left = retries.toNat) (s : σ) :
    b.counted label callee retries failed s = some (b.attempts label callee left s) := by
  induction left generalizing failed s with
  | zero =>
    have spent : ¬ failed < retries := by
      rw [UInt32.lt_iff_toNat_lt]
      omega
    rw [counted, attempts]
    cases b.attempt label callee s with
    | mk reached result =>
      cases result with
      | ok => rfl
      | error fault => exact if_neg spent
  | succ left ih =>
    have more : failed < retries := by
      rw [UInt32.lt_iff_toNat_lt]
      omega
    have fits : failed.toNat + 1 < UInt32.size :=
      Nat.lt_of_le_of_lt (by omega) retries.toNat_lt_size
    have next : (failed + 1).toNat = failed.toNat + 1 := by
      rw [UInt32.toNat_add]
      exact Nat.mod_eq_of_lt fits
    rw [counted, attempts]
    cases b.attempt label callee s with
    | mk reached result =>
      cases result with
      | ok => rfl
      | error fault =>
        simp only [if_pos more, if_pos fits]
        exact ih (by omega) reached

end

/-! ### The call -/

/-- A call ends with the first success, or it spends the whole budget. -/
theorem call_cases (script : Nat → Plan) :
    (∃ first ≤ b.retries, b.firstSuccess label script = ((first + 1 : Nat) : ℕ∞) ∧
      b.call label (.playing script) 0 = (first + 1, .ok ())) ∨
    (((b.retries + 1 : Nat) : ℕ∞) < b.firstSuccess label script ∧
      b.judge label (script b.retries) ≠ .ok () ∧
      b.call label (.playing script) 0 = (b.retries + 1, b.judge label (script b.retries))) := by
  by_cases some : ∃ n ≤ b.retries, b.judge label (script n) = .ok ()
  · left
    obtain ⟨within, succeeds⟩ := Nat.find_spec some
    have fail : ∀ n < Nat.find some, b.judge label (script n) ≠ .ok () := fun n early good =>
      Nat.find_min some early ⟨(Nat.le_of_lt early).trans within, good⟩
    refine ⟨Nat.find some, within, b.firstSuccess_eq label succeeds fail, ?_⟩
    exact b.attempts_of_success label succeeds (fun n _ => fail n) (Nat.zero_le _) (by omega)
  · right
    have fail : ∀ n ≤ b.retries, b.judge label (script n) ≠ .ok () := fun n within good =>
      some ⟨n, within, good⟩
    refine ⟨b.lt_firstSuccess label fail, fail _ (Nat.le_refl _), ?_⟩
    have spent : b.attempts label (.playing script) b.retries 0
        = (0 + b.retries + 1, b.judge label (script (0 + b.retries))) :=
      b.attempts_of_failures label fun n _ upTo => fail n (by omega)
    rwa [Nat.zero_add] at spent

/-- **How a budget is spent.** Whatever the attempts of a call come to: it makes as many as it takes to the
first success, but no more than the budget allows; it succeeds just if that success lies within the budget; and
otherwise it says what the last attempt of the budget said. An attempt succeeds if it ends well within the time
allowed, and says what went wrong otherwise. Counting the failures in 32 bits never overflows. -/
theorem call_playing (b : CallBudget) (label : String) (script : Nat → Plan) :
    let first := b.firstSuccess label script
    let spent := b.call label (.playing script) 0
    (∀ n, b.judge label (script n) = .ok () ↔
      (script n).lasts ≤ b.timeout ∧ (script n).result = .ok ()) ∧
    (∀ n fault, b.judge label (script n) = .error fault ↔
      (script n).lasts ≤ b.timeout ∧ (script n).result = .error fault ∨
        b.timeout < (script n).lasts ∧ fault = .timeout label (b.timeout * 1000)) ∧
    (spent.1 : ℕ∞) = min first (b.retries + 1) ∧
    (spent.2 = .ok () ↔ first ≤ b.retries + 1) ∧
    (b.retries + 1 < first → spent.2 = b.judge label (script b.retries)) ∧
    ∀ retries : UInt32, retries.toNat = b.retries →
      b.counted label (.playing script) retries 0 0 = some spent := by
  refine ⟨fun n => b.judge_eq_ok label, fun n fault => b.judge_eq_error label, ?_⟩
  have counts : ∀ retries : UInt32, retries.toNat = b.retries →
      b.counted label (.playing script) retries 0 0 = some (b.call label (.playing script) 0) :=
    fun retries same => b.counted_eq label _ ((Nat.zero_add _).trans same.symm) 0
  rw [← Nat.cast_one, ← Nat.cast_add]
  rcases b.call_cases label script with ⟨first, within, place, called⟩ | ⟨beyond, fails, called⟩
  · have low : ((first + 1 : Nat) : ℕ∞) ≤ ((b.retries + 1 : Nat) : ℕ∞) :=
      Nat.cast_le.2 (Nat.succ_le_succ within)
    rw [place]
    refine ⟨?_, ?_, fun beyond => absurd low (not_le_of_gt beyond), counts⟩
    · rw [called, min_eq_left low]
    · rw [called]
      exact iff_of_true rfl low
  · refine ⟨?_, ?_, fun _ => by rw [called], counts⟩
    · rw [called, min_eq_right beyond.le]
    · rw [called]
      exact iff_of_false fails (not_le_of_gt beyond)

namespace Trial

def budget : CallBudget := ⟨10, 2, 1⟩

/-- The first attempt fails, the second one takes too long, and the third one is just in time. -/
def plans : Nat → Plan
  | 0 => ⟨3, .error (.persistence "busy")⟩
  | 1 => ⟨11, .ok ()⟩
  | _ => ⟨10, .ok ()⟩

end Trial

/-- The third attempt is the last one of the budget, and it succeeds. -/
theorem call_playing_trial :
    Trial.budget.call "persistence" (.playing Trial.plans) 0 = (3, .ok ()) ∧
      Trial.budget.counted "persistence" (.playing Trial.plans) 2 0 0 = some (3, .ok ()) := by
  obtain ⟨-, -, -, -, -, counts⟩ := call_playing Trial.budget "persistence" Trial.plans
  have called : Trial.budget.call "persistence" (.playing Trial.plans) 0 = (3, .ok ()) := rfl
  exact ⟨called, (counts 2 rfl).trans (congrArg some called)⟩

end CallBudget

end TierCascade
