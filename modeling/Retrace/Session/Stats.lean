/-!
# Counters of a session

A session counts the work it has done: how many navigations completed, how many
of them replayed nothing, and how many engine steps navigating and verifying
took.

## Main definitions

* `Stats` — the five counters.
* `Stats.recordNavigation` — count a completed navigation.
* `Stats.recordVerification` — count the steps of a verification.

A navigation that fails is not counted at all; a verification counts each step
that the engine answered, also when it fails later.
-/

namespace Retrace

/-- **Work done by a session.** The counts are meant below `2 ^ 64`. They are natural numbers here:
the size of a word is left out, and adding to a count neither wraps nor fails. No command looks at a
count to decide anything, so past that bound nothing but the counts themselves would differ. -/
structure Stats where
  /-- Navigations that completed. -/
  navigations : Nat := 0
  /-- Navigations answered from the history alone. -/
  cacheHits : Nat := 0
  /-- Steps replayed by navigations. -/
  replayedSteps : Nat := 0
  /-- Steps that the engine answered to verifications. -/
  verifiedSteps : Nat := 0
  /-- Steps replayed by the most recent navigation. -/
  lastReplay : Nat := 0
  deriving DecidableEq, Repr, Inhabited

namespace Stats

/-- Count a completed navigation that replayed some number of steps. -/
def recordNavigation (s : Stats) (replayed : Nat) : Stats :=
  { s with
    navigations := s.navigations + 1
    cacheHits := if replayed = 0 then s.cacheHits + 1 else s.cacheHits
    replayedSteps := s.replayedSteps + replayed
    lastReplay := replayed }

/-- Count the steps that the engine answered to a verification. -/
def recordVerification (s : Stats) (answered : Nat) : Stats :=
  { s with verifiedSteps := s.verifiedSteps + answered }

end Stats

end Retrace
