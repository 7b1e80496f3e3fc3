import TierCascade.Failure
/-!
# Call budgets

How often and how long a collaborator is tried. An attempt that outlasts the time allowed has
failed, whatever it would have come to; a failed attempt is followed by another until one succeeds
or the budget is spent, and then the last fault counts.

The callee is a state machine: an attempt begins by asking it for a plan, and what the callee does
at the end of a successful attempt, it does only if the attempt is not cut off.
-/

namespace TierCascade

/-- How one attempt of a call goes: how many milliseconds it lasts and how it ends. -/
structure Plan where
  lasts : Nat
  result : Except SinkFault Unit

/-- Something that can be called again and again. -/
structure Callee (σ : Type) where
  start : σ → σ × Plan
  record : σ → σ

/-- How often a call is tried and how long an attempt may last. Times are in milliseconds. -/
structure CallBudget where
  timeout : Nat
  retries : Nat
  delay : Nat
  deriving Repr, DecidableEq

namespace CallBudget

def standard : CallBudget := ⟨5000, 2, 200⟩

/-- One attempt, with a time given in microseconds. -/
def single (micros : Nat) : CallBudget := ⟨micros / 1000, 0, 0⟩

def judge (b : CallBudget) (label : String) (p : Plan) : Except SinkFault Unit :=
  if p.lasts ≤ b.timeout then p.result else .error (.timeout label (b.timeout * 1000))

variable {σ : Type}

def attempt (b : CallBudget) (label : String) (callee : Callee σ) (s : σ) : σ × Except SinkFault Unit :=
  let (s, plan) := callee.start s
  match b.judge label plan with
  | .ok () => (callee.record s, .ok ())
  | .error fault => (s, .error fault)

/-- Makes attempts until one succeeds, at most `left` after the first. -/
def attempts (b : CallBudget) (label : String) (callee : Callee σ) : Nat → σ → σ × Except SinkFault Unit
  | 0, s => b.attempt label callee s
  | left + 1, s =>
    match b.attempt label callee s with
    | (s, .ok ()) => (s, .ok ())
    | (s, .error _) => attempts b label callee left s

def call (b : CallBudget) (label : String) (callee : Callee σ) (s : σ) : σ × Except SinkFault Unit :=
  b.attempts label callee b.retries s

end CallBudget

end TierCascade
