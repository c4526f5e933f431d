/-!
# Contradictions

A history is a record of one execution. What it is told about an index may
contradict what it already holds, and then the engine is not deterministic for
the program at hand. There are two ways to contradict: a different term at a
held index, and a different end of execution.

## Main definitions

* `Contradiction` — the two causes.
* `Contradiction.index` — the earliest step index involved.
* `Contradiction.message` — the wording.
-/

namespace Retrace

/-- What a history was told that it cannot agree with. -/
inductive Contradiction where
  /-- A different term is already held at this index. -/
  | differentTerm (index : Nat)
  /-- The end of execution disagrees with what is held. -/
  | differentEnd (recorded observed : Nat)
  deriving DecidableEq, Repr

namespace Contradiction

/-- The earliest step index involved. -/
def index : Contradiction → Nat
  | differentTerm i => i
  | differentEnd recorded observed => min recorded observed

/-- The wording of a contradiction. -/
def message : Contradiction → String
  | differentTerm i => "conflicting term recorded at step " ++ toString i
  | differentEnd recorded observed =>
    "end of execution at step " ++ toString observed ++
      " contradicts recorded step " ++ toString recorded

end Contradiction

end Retrace
