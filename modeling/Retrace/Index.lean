/-!
# Step indices

A step index counts the rewrites since the initial term, so index `0` is the
initial term itself. Indices are natural numbers up to `maxIndex`; the bound is
that of an unsigned 64-bit word. Arithmetic on them never wraps: a sum past the
bound is either refused (`add?`) or stops at the bound (`addSaturating`).

## Main definitions

* `maxIndex` — the largest step index.
* `add?` — the sum of two indices, if it is an index.
* `addSaturating` — the sum of two indices, at most `maxIndex`.

What is load-bearing is that both sums agree below the bound
(`add?_eq_some_iff`, `addSaturating_of_le`): a command that asks for more steps
than can be counted differs from an ordinary one only above `maxIndex`.
-/

namespace Retrace

namespace Index

/-- The largest step index. -/
def maxIndex : Nat := 0xFFFF_FFFF_FFFF_FFFF

/-- **Checked sum.** `none` when the sum is past the largest index. -/
def add? (i n : Nat) : Option Nat :=
  if i + n ≤ maxIndex then some (i + n) else none

/-- **Saturating sum.** Stops at the largest index. -/
def addSaturating (i n : Nat) : Nat :=
  min (i + n) maxIndex

theorem add?_eq_some_iff {i n k : Nat} :
    add? i n = some k ↔ i + n ≤ maxIndex ∧ i + n = k := by
  unfold add?
  split
  · simp [*]
  · constructor
    · intro h; cases h
    · rintro ⟨h, -⟩; contradiction

theorem add?_eq_none_iff {i n : Nat} : add? i n = none ↔ maxIndex < i + n := by
  simp [add?]

theorem addSaturating_of_le {i n : Nat} (h : i + n ≤ maxIndex) :
    addSaturating i n = i + n :=
  Nat.min_eq_left h

theorem addSaturating_le (i n : Nat) : addSaturating i n ≤ maxIndex :=
  Nat.min_le_right _ _

end Index

end Retrace
