import Retrace.Session.Basic

/-!
# Building a session from settings

A session can be described by a list of settings, given in any order and any
number of times. A later setting replaces an earlier one of the same kind, and a
whole configuration replaces both of its parts.

## Main definitions

* `Setting` — one setting.
* `Builder` — what the settings so far amount to.
* `Builder.set` — take one more setting into account.
* `Builder.build` — the session, with the engine to drive it.
* `BuildError` — why there is none.

A missing initial term is reported before a missing engine, and both before an
invalid configuration.
-/

namespace Retrace

universe u v

/-- **One setting;** `γ` is what stands for an engine. -/
inductive Setting (τ : Type u) (γ : Type v) where
  /-- The initial term. -/
  | initial (term : τ)
  /-- The rewriting engine. -/
  | engine (engine : γ)
  /-- The whole configuration. -/
  | config (config : Config)
  /-- The retention policy alone. -/
  | retention (retention : Retention)
  /-- Keep only every `interval`-th step. -/
  | checkpointEvery (interval : Nat)
  /-- The limit of a single `resume` alone. -/
  | resumeLimit (limit : Nat)

/-- **What the settings so far amount to.** -/
structure Builder (τ : Type u) (γ : Type v) where
  /-- The initial term, if it was given. -/
  initial : Option τ := none
  /-- The engine, if it was given. -/
  engine : Option γ := none
  /-- The configuration. -/
  config : Config := {}

/-- Why settings give no session. -/
inductive BuildError where
  /-- No initial term was given. -/
  | missingInitial
  /-- No engine was given. -/
  | missingEngine
  /-- The configuration breaks these rules. -/
  | invalidConfig (violations : List Violation)
  deriving DecidableEq, Repr

/-- The wording of a build error. -/
def BuildError.message : BuildError → String
  | missingInitial => "Initial term not specified. Call .initial(term) before .build()"
  | missingEngine => "Rewrite engine not specified. Call .engine(engine) before .build()"
  | invalidConfig violations =>
    "Session config is invalid: [" ++ ", ".intercalate (violations.map Violation.name) ++ "]"

namespace Builder

variable {τ : Type u} {γ : Type v}

/-- **Take one more setting into account.** -/
def set (b : Builder τ γ) : Setting τ γ → Builder τ γ
  | .initial term => { b with initial := some term }
  | .engine engine => { b with engine := some engine }
  | .config config => { b with config }
  | .retention retention => { b with config.retention := retention }
  | .checkpointEvery interval => { b with config.retention := .checkpoints interval }
  | .resumeLimit limit => { b with config.resumeLimit := some limit }

/-- The builder after a list of settings. -/
def ofSettings (settings : List (Setting τ γ)) : Builder τ γ :=
  settings.foldl set {}

/-- **The session described by the settings,** and the engine to drive it. -/
def build (b : Builder τ γ) : Except BuildError (Session τ × γ) :=
  match b.initial, b.engine with
  | none, _ => .error .missingInitial
  | some _, none => .error .missingEngine
  | some initial, some engine =>
    match b.config.violations with
    | [] => .ok (.start initial b.config, engine)
    | violations => .error (.invalidConfig violations)

end Builder

end Retrace
