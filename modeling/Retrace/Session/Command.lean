import Retrace.Session.Navigation
import Retrace.Session.Verification

/-!
# Commands as data

The commands of a session, as values, so that sequences of commands can be
executed and quantified over.

## Main definitions

* `Command` — the six commands.
* `Answer` — a visit or a verification report.
* `Session.perform` — execute one command.
* `Transcript` — the answers to a sequence of commands, and what it leaves behind.
* `Session.performAll` — execute a sequence of commands.

A sequence goes on after a failed command: the next command is performed on the
session that the failure left behind (`performAll_cons`).
-/

namespace Retrace

universe u v w

/-- **A command to a session.** -/
inductive Command where
  /-- Move forward by a number of steps. -/
  | step (n : Nat)
  /-- Move backward by a number of steps. -/
  | back (n : Nat)
  /-- Move to a step index. -/
  | jump (index : Nat)
  /-- Run forward until execution ends or the limit is used up. -/
  | resume
  /-- Tell where the cursor stands. -/
  | position
  /-- Re-execute up to an index and compare with the record. -/
  | verify (upTo : Nat)
  deriving DecidableEq, Repr

/-- What a successful command answers. -/
inductive Answer (τ : Type u) where
  /-- Where the cursor stands now. -/
  | visit (visit : Visit τ)
  /-- What the verification found. -/
  | report (report : Verification)
  deriving DecidableEq, Repr

/-- **What a sequence of commands leaves behind:** the answer to each, and the session
and the engine state after all of them. -/
structure Transcript (σ : Type w) (τ : Type u) (ε : Type v) where
  /-- The answers in the order of the commands. -/
  answers : List (Except (SessionError ε) (Answer τ))
  /-- The session after the last command. -/
  session : Session τ
  /-- The engine state after the last command. -/
  engine : σ

variable {σ : Type w} {τ : Type u} {ε : Type v}

namespace Session

variable [BEq τ]

/-- **Execute one command.** -/
def perform (e : Engine σ τ ε) (s : Session τ) (engine : σ) : Command → Outcome σ τ ε (Answer τ)
  | .step n => (s.step e n engine).map .visit
  | .back n => (s.back e n engine).map .visit
  | .jump i => (s.jump e i engine).map .visit
  | .resume => (s.resume e engine).map .visit
  | .position => ⟨.ok (.visit s.position), s, engine⟩
  | .verify i => (s.verify e i engine).map .report

/-- **Execute a sequence of commands.** -/
def performAll (e : Engine σ τ ε) : Session τ → σ → List Command → Transcript σ τ ε
  | s, engine, [] => ⟨[], s, engine⟩
  | s, engine, c :: rest =>
    let first := s.perform e engine c
    let others := performAll e first.session first.engine rest
    ⟨first.answer :: others.answers, others.session, others.engine⟩

@[simp] theorem performAll_nil (e : Engine σ τ ε) (s : Session τ) (engine : σ) :
    s.performAll e engine [] = ⟨[], s, engine⟩ := rfl

theorem performAll_cons (e : Engine σ τ ε) (s : Session τ) (engine : σ) (c : Command)
    (rest : List Command) :
    s.performAll e engine (c :: rest) =
      let first := s.perform e engine c
      let others := first.session.performAll e first.engine rest
      ⟨first.answer :: others.answers, others.session, others.engine⟩ := rfl

end Session

end Retrace
