/-!
# Rewriting engines

An engine answers one question: what is the next term? It may answer with a
rewritten term, report that execution has ended, or fail. Nothing is assumed
about where its answers come from: an engine carries a state of its own, which
every call may read and change, so an engine that counts its calls, drifts, or
answers differently the second time is as good an engine as any other.

## Main definitions

* `Reply` — the three possible answers to one call.
* `Engine` — one call: a term and an engine state in, a reply and the next
  engine state out.
* `Engine.ofFn` — the engine that answers by a function of the term alone.
* `Engine.haltOnFailure` — reads every failure as the end of execution.
* `Engine.logged` — the same engine, keeping a log of its calls.

## Design notes

The state is a parameter and not a field, so that a session can be handed a
different engine between two commands. `Engine.logged` changes no reply
(`logged_advance_fst`): whatever is proved of a session over `e.logged` is a
statement about the calls that the session makes to `e`.
-/

namespace Retrace

universe u v w

/-- What an engine answers when it is asked for the step after a term. -/
inductive Reply (τ : Type u) (ε : Type v) where
  /-- The term was rewritten. -/
  | rewrote (next : τ)
  /-- Execution ends at the term. -/
  | halted
  /-- The engine itself failed. -/
  | failed (error : ε)
  deriving DecidableEq, Repr

/-- A rewriting engine over terms `τ`, with failures `ε` and a private state `σ`. -/
structure Engine (σ : Type w) (τ : Type u) (ε : Type v) where
  /-- Ask for the step after a term. -/
  advance : τ → σ → Reply τ ε × σ

namespace Engine

variable {σ : Type w} {τ : Type u} {ε : Type v}

/-- **A pure engine.** It answers by `f` and leaves its state alone. -/
def ofFn (f : τ → Reply τ ε) : Engine σ τ ε where
  advance x s := (f x, s)

@[simp] theorem ofFn_advance (f : τ → Reply τ ε) (x : τ) (s : σ) :
    (ofFn f).advance x s = (f x, s) := rfl

/-- **No failures.** The engine that reports the end of execution wherever `e` fails. -/
def haltOnFailure (e : Engine σ τ ε) : Engine σ τ ε where
  advance x s :=
    match e.advance x s with
    | (.failed _, s') => (.halted, s')
    | answer => answer

/-- The engine that appends every call and its reply to a log. -/
def logged (e : Engine σ τ ε) : Engine (σ × List (τ × Reply τ ε)) τ ε where
  advance x s :=
    let answer := e.advance x s.1
    (answer.1, (answer.2, s.2 ++ [(x, answer.1)]))

@[simp] theorem logged_advance_fst (e : Engine σ τ ε) (x : τ)
    (s : σ × List (τ × Reply τ ε)) :
    (e.logged.advance x s).1 = (e.advance x s.1).1 := rfl

@[simp] theorem logged_advance_log (e : Engine σ τ ε) (x : τ)
    (s : σ × List (τ × Reply τ ε)) :
    (e.logged.advance x s).2.2 = s.2 ++ [(x, (e.advance x s.1).1)] := rfl

end Engine

end Retrace
