/-!
# Retention policies

A retention policy says which step indices a history keeps on their own account.
The cursor and the end of execution are kept whatever the policy says; that is
the business of the history, not of the policy.

## Main definitions

* `Retention` — keep everything, or keep every `interval`-th index.
* `Retention.retains` — whether the policy keeps an index.

The initial term is kept by every policy (`retains_zero`), also by the
degenerate policy `checkpoints 0`, which keeps nothing else
(`retains_checkpoints_zero`).
-/

namespace Retrace

/-- Which of the indices ever reached a history keeps. -/
inductive Retention where
  /-- Keep every index ever reached. -/
  | unbounded
  /-- Keep every `interval`-th index and replay the rest on demand. -/
  | checkpoints (interval : Nat)
  deriving DecidableEq, Repr, Inhabited

namespace Retention

/-- Whether the policy keeps the term at an index on its own account. -/
def retains : Retention → Nat → Bool
  | unbounded, _ => true
  | checkpoints interval, i => i == 0 || (0 < interval && i % interval == 0)

@[simp] theorem retains_unbounded (i : Nat) : unbounded.retains i = true := rfl

@[simp] theorem retains_zero (r : Retention) : r.retains 0 = true := by
  cases r <;> rfl

theorem retains_checkpoints_zero (i : Nat) :
    (checkpoints 0).retains i = (i == 0) := by
  simp [retains]

theorem retains_checkpoints {interval : Nat} (h : 0 < interval) (i : Nat) :
    (checkpoints interval).retains i = true ↔ i % interval = 0 := by
  simp only [retains, Bool.or_eq_true, Bool.and_eq_true, beq_iff_eq, decide_eq_true_eq]
  constructor
  · rintro (rfl | ⟨-, h'⟩)
    · exact Nat.zero_mod _
    · exact h'
  · exact fun h' => .inr ⟨h, h'⟩

end Retention

end Retrace
