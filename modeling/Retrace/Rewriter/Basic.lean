import Retrace.Rewriter.Rule

/-!
# Rewriters with faults

A rewriter is a rule that can be made to misbehave at chosen calls: to report an end
of execution, to fail, or to answer with another term. It counts its calls, and a
fault is chosen by the number of the call and perhaps by the term, so a rewriter
with faults need not answer the same question twice in the same way.

## Main definitions

* `Fault` — when a fault strikes, and what it answers.
* `Rewriter` — a rule with faults, the first that strikes deciding.
* `Calls` — the number of the next call, and the calls of a lifetime.
* `Rewriter.engine` — a rewriter as an engine that counts its calls.
-/

namespace Retrace

/-- **A fault.** -/
structure Fault where
  /-- The first call at which it strikes. -/
  first : Nat
  /-- The last one; `none` is for ever. -/
  last : Option Nat := none
  /-- Strike only at this term. -/
  only : Option Term := none
  /-- The answer in place of the rule's. -/
  answer : Reply Term String

/-- Whether a fault strikes at a call about a term. -/
def Fault.strikes (f : Fault) (call : Nat) (x : Term) : Bool :=
  f.first ≤ call && f.last.all (call ≤ ·) && f.only.all (x == ·)

/-- **A rule with faults.** -/
structure Rewriter where
  rule : Rule
  faults : List Fault := []

/-- **A count of calls.** -/
structure Calls where
  /-- The number of the next call to the rewriter at hand. -/
  next : Nat := 0
  /-- All calls so far, whichever the rewriter. -/
  total : Nat := 0
  deriving DecidableEq, Repr, Inhabited

namespace Calls

/-- One call more. -/
def tick (c : Calls) : Calls := ⟨c.next + 1, c.total + 1⟩

/-- Count for a new rewriter from zero; the total goes on. -/
def restart (c : Calls) : Calls := { c with next := 0 }

end Calls

namespace Rewriter

/-- What a rewriter answers at a call. -/
def reply (r : Rewriter) (call : Nat) (x : Term) : Reply Term String :=
  match r.faults.find? (·.strikes call x) with
  | some fault => fault.answer
  | none => r.rule.reply x

/-- **A rewriter as an engine** that counts its calls. -/
def engine (r : Rewriter) : Engine Calls Term String where
  advance x calls := (r.reply calls.next x, calls.tick)

end Rewriter

end Retrace
