import Retrace.Index
import Retrace.Engine.Basic
import Retrace.History.Basic
import Retrace.Config.Basic
import Retrace.Session.Stats

/-!
# Sessions

A session is a cursor over a recorded history. It is created from an initial term
and a configuration, and it is driven by commands, each of which is handed the
engine to ask and the engine's state.

## Main definitions

* `Session` — history, configuration, cursor, poison mark and counters.
* `Visit` — where a navigation left the cursor.
* `SessionError` — why a command failed.
* `Outcome` — a command's answer with the session and the engine state after it.
* `Setback` — what can stop a re-execution half-way.
* `Session.start`, `Session.withConfig` — a fresh session.
* `Session.position` — where the cursor stands.
* `Session.conclude` — turn a setback into a failed command.

## Design notes

**Failure keeps its traces.** A command that fails half-way still has recorded and
counted what came before, so an `Outcome` carries the session next to the answer
and not inside it.

**Poison.** A contradiction means that the engine is not deterministic for the
program. It marks the session with the earliest index involved (`conclude`), and
a marked session refuses every command that would consult the engine.
-/

namespace Retrace

universe u v w z z'

/-- **A stepping session over terms** `τ`. -/
structure Session (τ : Type u) where
  /-- Everything recorded so far. -/
  history : History τ
  /-- The tunables it was created with. -/
  config : Config
  /-- The step index of the cursor. -/
  current : Nat := 0
  /-- The term at the cursor. -/
  cursor : τ
  /-- The index of the contradiction that made the session unusable. -/
  poisoned : Option Nat := none
  /-- Work done so far. -/
  stats : Stats := {}

/-- **Where a navigation left the cursor.** The index may be smaller than the one
requested when execution ends first. -/
structure Visit (τ : Type u) where
  /-- The term reached. -/
  state : τ
  /-- The step index reached. -/
  index : Nat
  /-- The step index asked for. -/
  requested : Nat
  /-- Whether execution is known to end at the index reached. -/
  terminated : Bool
  deriving DecidableEq, Repr

/-- Why a command failed; `ε` is the engine's own kind of failure. -/
inductive SessionError (ε : Type v) where
  /-- Stepping `n` from `current` gives no step index. -/
  | stepOverflow (n current : Nat)
  /-- The engine contradicted the record, here and now. -/
  | violation (cause : Contradiction)
  /-- An earlier contradiction made the session unusable. -/
  | poisoned (index : Nat)
  /-- The engine itself failed. -/
  | engine (error : ε)
  deriving DecidableEq, Repr

/-- What can stop a re-execution half-way. -/
inductive Setback (ε : Type v) where
  /-- The engine failed. -/
  | failed (error : ε)
  /-- The engine contradicted the record. -/
  | contradicted (cause : Contradiction)
  deriving DecidableEq, Repr

/-- **What a command leaves behind:** its answer, and the session and the engine
state after it, whether it succeeded or not. -/
structure Outcome (σ : Type w) (τ : Type u) (ε : Type v) (α : Type z) where
  /-- The answer. -/
  answer : Except (SessionError ε) α
  /-- The session after the command. -/
  session : Session τ
  /-- The engine state after the command. -/
  engine : σ

/-- The same outcome with a converted answer. -/
def Outcome.map {σ : Type w} {τ : Type u} {ε : Type v} {α : Type z} {β : Type z'}
    (f : α → β) (o : Outcome σ τ ε α) : Outcome σ τ ε β where
  answer := o.answer.map f
  session := o.session
  engine := o.engine

namespace Visit

variable {τ : Type u}

/-- Whether execution ended before the index asked for. -/
def stoppedEarly (r : Visit τ) : Bool := r.index < r.requested

/-- Visits are equal when terms, indices and flags are; terms are compared by their
own equality, so a visit to a term that differs from itself differs from itself. -/
instance [BEq τ] : BEq (Visit τ) where
  beq a b := a.state == b.state && a.index == b.index && a.requested == b.requested &&
    a.terminated == b.terminated

end Visit

namespace SessionError

variable {ε : Type v}

/-- Whether the session is unusable from then on. -/
def isFatal : SessionError ε → Bool
  | violation _ | poisoned _ => true
  | stepOverflow .. | engine _ => false

/-- The engine's own failure, if the engine is what failed. -/
def engineError? : SessionError ε → Option ε
  | engine error => some error
  | _ => none

/-- The wording of a failed command, given the wording of the engine's failures. -/
def message (describe : ε → String) : SessionError ε → String
  | stepOverflow n current =>
    "invalid argument: stepping " ++ toString n ++ " from step " ++ toString current ++
      " overflows the step index"
  | violation cause =>
    "determinism violation at step " ++ toString cause.index ++ ": " ++ cause.message
  | poisoned i =>
    "session is unusable after a determinism violation at step " ++ toString i
  | engine error => "rewrite engine failed: " ++ describe error

end SessionError

namespace Session

variable {σ : Type w} {τ : Type u} {ε : Type v} {α : Type z}

/-- A session on its initial term, for a configuration taken as it is. -/
def start (initial : τ) (config : Config) : Session τ where
  history := .new initial config.retention
  config := config
  cursor := initial

/-- **A session with a checked configuration.** Refused with every violation. -/
def withConfig (initial : τ) (config : Config) : Except (List Violation) (Session τ) :=
  config.validated.map (start initial)

/-- The step index where execution ends, once the engine has reported it. -/
def terminal (s : Session τ) : Option Nat := s.history.terminal

/-- Where the cursor stands. -/
def position (s : Session τ) : Visit τ where
  state := s.cursor
  index := s.current
  requested := s.current
  terminated := s.terminal == some s.current

/-- Mark the session unusable, at the earliest index of a contradiction. -/
def poison (s : Session τ) (cause : Contradiction) : Session τ :=
  { s with poisoned := some cause.index }

/-- **End a command that met a setback.** An engine failure leaves the session as it
is; a contradiction poisons it. -/
def conclude (s : Session τ) (engine : σ) : Setback ε → Outcome σ τ ε α
  | .failed error => ⟨.error (.engine error), s, engine⟩
  | .contradicted cause => ⟨.error (.violation cause), s.poison cause, engine⟩

end Session

end Retrace
