import Retrace.Engine.Basic

/-!
# Engines behind wrappers

An engine need not be handed over itself. It can be asked through a reference, which may be
borrowed or shared with others, or by a step function that asks it in turn. Each of these is an
engine of its own: it puts the question on to the engine behind it, one call for one call, and
direct execution over it is a loop of its own over such calls.

## Main definitions

* `Step` — what a step function answers that cannot fail.
* `Engine.ofStep`, `Engine.ofInfallibleStep` — a step function as an engine.
* `Engine.reference` — an engine that is asked through a reference.
* `Wrapper`, `Engine.behind` — what an engine can be asked through.
* `Engine.behindAll` — an engine behind wrappers inside one another.

## Design notes

A wrapper keeps nothing of its own, so the state of a wrapped engine is the state of the engine
behind it (`behind_eq`), and so it is however many wrappers there are (`behindAll_eq`). In
particular whoever shares an engine through references shares its state.

A step function that cannot fail has nothing to answer where the engine that it asks fails, other
than the end of execution. As an engine it is `Engine.haltOnFailure`
(`ofInfallibleStep_infallibleStep`), and a wrapper only where there are no failures.
-/

namespace Retrace

universe u v w

/-- **What a step function answers that cannot fail.** -/
inductive Step (τ : Type u) where
  /-- The term was rewritten. -/
  | rewrote (next : τ)
  /-- Execution ends at the term. -/
  | halted
  deriving DecidableEq, Repr

/-- The reply of an engine that answers as the step function does. -/
def Step.reply {τ : Type u} {ε : Type v} : Step τ → Reply τ ε
  | rewrote next => .rewrote next
  | halted => .halted

/-- The step in a reply, a failure being read as the end of execution. -/
def Reply.step {τ : Type u} {ε : Type v} : Reply τ ε → Step τ
  | rewrote next => .rewrote next
  | halted | failed _ => .halted

/-- **What an engine can be asked through.** -/
inductive Wrapper (ε : Type v) where
  /-- A borrowed reference to the engine. -/
  | borrowed
  /-- A reference that owns the engine together with others. -/
  | shared
  /-- A step function that asks the engine. -/
  | step
  /-- A step function that asks the engine and cannot fail, as there are no failures. -/
  | infallibleStep (infallible : ε → False)

namespace Engine

variable {σ : Type w} {τ : Type u} {ε : Type v}

/-- **A step function as an engine.** It may keep a state, and it may fail. -/
def ofStep (step : τ → σ → Reply τ ε × σ) : Engine σ τ ε where
  advance := step

/-- **A step function that cannot fail as an engine.** -/
def ofInfallibleStep (step : τ → σ → Step τ × σ) : Engine σ τ ε where
  advance x s :=
    let answer := step x s
    (answer.1.reply, answer.2)

/-- **The step function that asks an engine** and reads its failures as ends of execution. -/
def infallibleStep (e : Engine σ τ ε) (x : τ) (s : σ) : Step τ × σ :=
  let answer := e.advance x s
  (answer.1.step, answer.2)

/-- **An engine that is asked through a reference.** -/
def reference (e : Engine σ τ ε) : Engine σ τ ε where
  advance x s := e.advance x s

/-- **An engine behind a wrapper.** -/
def behind (e : Engine σ τ ε) : Wrapper ε → Engine σ τ ε
  | .borrowed | .shared => e.reference
  | .step => ofStep fun x s => e.advance x s
  | .infallibleStep _ => ofInfallibleStep e.infallibleStep

/-- **An engine behind wrappers,** the outermost first. -/
def behindAll (e : Engine σ τ ε) : List (Wrapper ε) → Engine σ τ ε
  | [] => e
  | w :: rest => (e.behindAll rest).behind w

theorem ofInfallibleStep_infallibleStep (e : Engine σ τ ε) :
    ofInfallibleStep e.infallibleStep = e.haltOnFailure := by
  unfold ofInfallibleStep infallibleStep haltOnFailure
  congr
  funext x s
  rcases e.advance x s with ⟨r, s'⟩
  cases r <;> rfl

/-- Where there are no failures, there is nothing to read as the end of execution. -/
theorem haltOnFailure_eq (infallible : ε → False) (e : Engine σ τ ε) : e.haltOnFailure = e := by
  unfold haltOnFailure
  congr
  funext x s
  rcases e.advance x s with ⟨r, s'⟩
  cases r with
  | rewrote | halted => rfl
  | failed error => exact (infallible error).elim

@[simp] theorem behindAll_nil (e : Engine σ τ ε) : e.behindAll [] = e := rfl

theorem behindAll_cons (e : Engine σ τ ε) (w : Wrapper ε) (rest : List (Wrapper ε)) :
    e.behindAll (w :: rest) = (e.behindAll rest).behind w := rfl

/-- A wrapper adds nothing to the engine behind it. -/
@[simp] theorem behind_eq (e : Engine σ τ ε) (w : Wrapper ε) : e.behind w = e := by
  cases w with
  | borrowed | shared | step => rfl
  | infallibleStep infallible =>
    rw [behind, ofInfallibleStep_infallibleStep, haltOnFailure_eq infallible]

/-- **Wrappers inside one another** add nothing either. -/
@[simp] theorem behindAll_eq (e : Engine σ τ ε) (ws : List (Wrapper ε)) : e.behindAll ws = e := by
  induction ws with
  | nil => rfl
  | cons w rest ih => rw [behindAll_cons, ih, behind_eq]

end Engine

end Retrace
