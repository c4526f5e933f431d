import Retrace.Engine.Basic

/-!
# Direct execution

Uninterrupted execution from a term, one call to the engine per step, within a
budget of steps. Direct execution is the yardstick of this library: a session
may jump about, forget and recompute, but wherever it lands must be where direct
execution from the initial term lands.

## Main definitions

* `Execution` — where a run ended, after how many steps, and whether the engine
  said that execution ends there.
* `Engine.run` — direct execution within a budget, by structural recursion on
  the budget.

A run that spends its whole budget does not ask the engine about the term it
stopped at, so a term at which execution ends is reported as an end only when
the budget reaches past it (`run_zero`).
-/

namespace Retrace

universe u v w

/-- **The result of direct execution.** -/
structure Execution (τ : Type u) where
  /-- The last term reached. -/
  state : τ
  /-- The number of rewrites done. -/
  steps : Nat
  /-- Whether the engine reported the end of execution at the last term. -/
  terminated : Bool
  deriving DecidableEq, Repr

namespace Engine

variable {σ : Type w} {τ : Type u} {ε : Type v}

/-- Direct execution from `x` within the remaining budget, `steps` rewrites having
been done before. -/
def runFrom (e : Engine σ τ ε) : Nat → Nat → τ → σ → Except ε (Execution τ) × σ
  | 0, steps, x, s => (.ok ⟨x, steps, false⟩, s)
  | budget + 1, steps, x, s =>
    match e.advance x s with
    | (.rewrote y, s') => e.runFrom budget (steps + 1) y s'
    | (.halted, s') => (.ok ⟨x, steps, true⟩, s')
    | (.failed err, s') => (.error err, s')

/-- **Direct execution** of at most `budget` steps from an initial term. -/
def run (e : Engine σ τ ε) (budget : Nat) (initial : τ) (s : σ) :
    Except ε (Execution τ) × σ :=
  e.runFrom budget 0 initial s

@[simp] theorem run_zero (e : Engine σ τ ε) (x : τ) (s : σ) :
    e.run 0 x s = (.ok ⟨x, 0, false⟩, s) := rfl

theorem runFrom_succ (e : Engine σ τ ε) (budget steps : Nat) (x : τ) (s : σ) :
    e.runFrom (budget + 1) steps x s =
      match e.advance x s with
      | (.rewrote y, s') => e.runFrom budget (steps + 1) y s'
      | (.halted, s') => (.ok ⟨x, steps, true⟩, s')
      | (.failed err, s') => (.error err, s') := rfl

end Engine

end Retrace
