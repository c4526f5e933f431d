import Retrace.Retention.Basic

/-!
# Session configuration

A configuration is plain data: a retention policy and a limit on how many steps
one `resume` may replay. Two rules say which configurations are usable, and a
broken configuration reports every rule that it breaks.

## Main definitions

* `Config` — the two tunables.
* `Violation` — a broken rule, with its wording.
* `Config.violations` — every broken rule, the retention rule first.
* `Config.validated` — the configuration itself if no rule is broken.
-/

namespace Retrace

/-- **Tunables of a session.** -/
structure Config where
  /-- Which intermediate terms the history keeps. -/
  retention : Retention := .unbounded
  /-- How many steps one `resume` may replay; `none` runs until execution ends. -/
  resumeLimit : Option Nat := none
  deriving DecidableEq, Repr, Inhabited

/-- A rule that a configuration breaks. -/
inductive Violation where
  /-- Checkpoints must be a positive number of steps apart. -/
  | zeroCheckpointInterval
  /-- A `resume` must be allowed at least one step. -/
  | zeroResumeLimit
  deriving DecidableEq, Repr

namespace Violation

/-- The wording of a violation. -/
def message : Violation → String
  | zeroCheckpointInterval => "checkpoint interval must be greater than zero"
  | zeroResumeLimit => "resume limit must be greater than zero"

/-- The name of a violation, as it appears in a list of violations. -/
def name : Violation → String
  | zeroCheckpointInterval => "ZeroCheckpointInterval"
  | zeroResumeLimit => "ZeroResumeLimit"

end Violation

namespace Config

/-- Every rule that the configuration breaks, the retention rule first. -/
def violations (c : Config) : List Violation :=
  (if c.retention = .checkpoints 0 then [.zeroCheckpointInterval] else []) ++
    (if c.resumeLimit = some 0 then [.zeroResumeLimit] else [])

/-- Whether no rule is broken. -/
def isValid (c : Config) : Bool := c.violations.isEmpty

/-- **The configuration unchanged if it is valid,** and every violation otherwise. -/
def validated (c : Config) : Except (List Violation) Config :=
  if c.isValid then .ok c else .error c.violations

theorem isValid_iff (c : Config) :
    c.isValid = true ↔ c.retention ≠ .checkpoints 0 ∧ c.resumeLimit ≠ some 0 := by
  unfold isValid violations
  split <;> split <;> simp_all

theorem validated_eq_ok_iff {c d : Config} :
    c.validated = .ok d ↔ c.isValid = true ∧ c = d := by
  unfold validated
  split <;> simp_all

end Config

end Retrace
