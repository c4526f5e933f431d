import Retrace.Session.Command
import Retrace.Session.Shared

/-!
# A session behind handles

Whoever holds a handle to a shared session may issue another handle, give the handle up, issue
a command, or ask for the session itself. A command has the session to itself for as long as it
takes, so that concurrent holders, however they are scheduled, come to some sequence of uses.
What holds of every sequence holds of every interleaving.

## Main definitions

* `Use`, `Use.Answer` — what is done with a handle, and what comes of it.
* `Shared.use` — one use of a handle.
* `Usage`, `Shared.useAll` — a sequence of uses, and what it leaves behind.
* `Shared.Owned` — every handle in a sequence is live when it is used.
* `Use.commands`, `Usage.commandAnswers` — the commands among the uses, and their answers.

## Design notes

**A holder holds a live handle.** Nothing keeps `Shared.use` from a number that is no live
handle, so sequences of uses are restricted by `Shared.Owned` where that matters.

**Taking out gives up.** Who takes the session out gives up the last handle with it. Who is
refused keeps the handle.
-/

namespace Retrace

universe u v w

/-- **What is done with a handle.** -/
inductive Use where
  /-- Issue one handle more. -/
  | clone
  /-- Give the handle up. -/
  | drop
  /-- Issue a command to the session. -/
  | command (c : Command)
  /-- Ask for the session itself. -/
  | takeOut
  deriving DecidableEq, Repr

/-- **What comes of using a handle.** -/
inductive Use.Answer (σ : Type w) (τ : Type u) (ε : Type v) where
  /-- The number of the handle issued. -/
  | issued (handle : Nat)
  /-- The handle is given up. -/
  | dropped
  /-- The answer of the session to the command. -/
  | answered (answer : Except (SessionError ε) (Retrace.Answer τ))
  /-- The session, with the state of its engine. -/
  | taken (session : Session τ) (engine : σ)
  /-- There are other handles. -/
  | refused

/-- **What a sequence of uses leaves behind:** what came of each, and what is shared after
all of them. -/
structure Usage (σ : Type w) (τ : Type u) (ε : Type v) where
  /-- What came of each use, in their order. -/
  answers : List (Use.Answer σ τ ε)
  /-- The session and its handles after the last use. -/
  shared : Shared (Session τ × σ)

variable {σ : Type w} {τ : Type u} {ε : Type v}

namespace Use

/-- The command issued, if that is the use. -/
def command? : Use → Option Command
  | command c => some c
  | _ => none

/-- The commands among uses of handles, in their order. -/
def commands (uses : List (Nat × Use)) : List Command :=
  uses.filterMap fun use => use.2.command?

/-- What the session answered, if it was issued a command. -/
def Answer.answer? : Use.Answer σ τ ε → Option (Except (SessionError ε) (Retrace.Answer τ))
  | answered answer => some answer
  | _ => none

end Use

/-- The answers to the commands among the uses, in their order. -/
def Usage.commandAnswers (run : Usage σ τ ε) :
    List (Except (SessionError ε) (Retrace.Answer τ)) :=
  run.answers.filterMap Use.Answer.answer?

namespace Shared

variable [BEq τ]

/-- **Use a handle.** -/
def use (e : Engine σ τ ε) (s : Shared (Session τ × σ)) (handle : Nat) :
    Use → Use.Answer σ τ ε × Shared (Session τ × σ)
  | .clone =>
    let (fresh, s) := s.clone
    (.issued fresh, s)
  | .drop => (.dropped, s.drop handle)
  | .command c =>
    let (answer, s) := s.access fun (session, engine) =>
      let done := session.perform e engine c
      (done.answer, done.session, done.engine)
    (.answered answer, s)
  | .takeOut =>
    match s.takeOut? handle with
    | some (session, engine) => (.taken session engine, s.drop handle)
    | none => (.refused, s)

/-- **Use handles one after another.** -/
def useAll (e : Engine σ τ ε) : Shared (Session τ × σ) → List (Nat × Use) → Usage σ τ ε
  | s, [] => ⟨[], s⟩
  | s, (handle, use) :: rest =>
    let first := s.use e handle use
    let others := useAll e first.2 rest
    ⟨first.1 :: others.answers, others.shared⟩

/-- **Every handle is live when it is used.** -/
def Owned (e : Engine σ τ ε) : Shared (Session τ × σ) → List (Nat × Use) → Prop
  | _, [] => True
  | s, (handle, use) :: rest => handle ∈ s.live ∧ Owned e (s.use e handle use).2 rest

@[simp] theorem useAll_nil (e : Engine σ τ ε) (s : Shared (Session τ × σ)) :
    s.useAll e [] = ⟨[], s⟩ := rfl

theorem useAll_cons (e : Engine σ τ ε) (s : Shared (Session τ × σ)) (handle : Nat) (use : Use)
    (rest : List (Nat × Use)) :
    s.useAll e ((handle, use) :: rest) =
      let first := s.use e handle use
      let others := first.2.useAll e rest
      ⟨first.1 :: others.answers, others.shared⟩ := rfl

end Shared

end Retrace
