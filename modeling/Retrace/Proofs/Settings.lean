import Mathlib.Data.List.Induction
import Retrace.Session.Builder
import Retrace.Proofs.Budget
import Retrace.Proofs.Coverage

/-!
# Sessions from settings

A list of settings describes a session by the last setting that says something about each of four
things: the initial term, the engine, the retention policy and the limit of a `resume`. A whole
configuration says something about two of them, and every other setting about one. The session that
is built is the one that is created directly from these four, and where it cannot be created the
settings fail for the same reason. There is no other way to come by a session, so none of them ever
has checkpoints no steps apart, or a `resume` that may take no step.

## Main definitions

* `Setting.initial?`, `Setting.engine?`, `Setting.retention?`, `Setting.resumeLimit?` — what a
  setting says about each of the four.
* `Setting.last?`, `Setting.effective` — the last that is said of something, and the configuration
  that results.
* `Session.Created` — a session that can be come by.

## Main statements

* `Builder.ofSettings_eq` — what settings amount to.
* `Builder.build_eq` — what is built from them.
* `Session.Created.isValid` — the configuration of a created session is valid.
* `Builder.built_as_configured` — all of this together.
-/

namespace Retrace

universe u v w z

variable {σ : Type w} {τ : Type u} {ε : Type v} {γ : Type z}

namespace Setting

/-- The initial term, if that is what is set. -/
def initial? : Setting τ γ → Option τ
  | .initial term => some term
  | _ => none

/-- The engine, if that is what is set. -/
def engine? : Setting τ γ → Option γ
  | .engine answerer => some answerer
  | _ => none

/-- The retention policy, if it is set by itself or as part of a configuration. -/
def retention? : Setting τ γ → Option Retention
  | .config whole => some whole.retention
  | .retention policy => some policy
  | .checkpointEvery interval => some (.checkpoints interval)
  | _ => none

/-- The limit of a `resume`, if it is set by itself or as part of a configuration, which may also
set it to none. -/
def resumeLimit? : Setting τ γ → Option (Option Nat)
  | .config whole => some whole.resumeLimit
  | .resumeLimit limit => some (some limit)
  | _ => none

/-- **The last** that settings say about something. -/
def last? {α : Type u} {β : Type v} (part? : α → Option β) (settings : List α) : Option β :=
  (settings.filterMap part?).getLast?

/-- **The configuration that settings result in:** the last policy and the last limit, with
everything retained and no limit where nothing is said. -/
def effective (settings : List (Setting τ γ)) : Config where
  retention := (last? retention? settings).getD .unbounded
  resumeLimit := (last? resumeLimit? settings).getD none

/-- What the last setting of all says counts, and else what was said before. -/
theorem last?_snoc {α : Type u} {β : Type v} (part? : α → Option β) (settings : List α) (s : α) :
    last? part? (settings ++ [s]) = (part? s).or (last? part? settings) := by
  unfold last?
  rw [List.filterMap_append, List.getLast?_append]
  cases said : part? s with
  | none => simp [said]
  | some x => simp [said]

end Setting

namespace Builder

open Setting (last? effective)

/-! ### What is built -/

theorem ofSettings_snoc (settings : List (Setting τ γ)) (s : Setting τ γ) :
    ofSettings (settings ++ [s]) = (ofSettings settings).set s := by
  rw [ofSettings, List.foldl_append]
  rfl

/-- **Settings amount to the last that each of them says.** -/
theorem ofSettings_eq (settings : List (Setting τ γ)) :
    ofSettings settings =
      { initial := last? Setting.initial? settings
        engine := last? Setting.engine? settings
        config := effective settings } := by
  induction settings using List.reverseRecOn with
  | nil => rfl
  | append_singleton settings s ih =>
    rw [ofSettings_snoc, ih]
    simp only [effective, Setting.last?_snoc]
    cases s <;> rfl

/-- **What is built from settings:** the session created from the last of each kind. -/
theorem build_eq (settings : List (Setting τ γ)) :
    (ofSettings settings).build =
      match last? Setting.initial? settings, last? Setting.engine? settings with
      | none, _ => .error .missingInitial
      | some _, none => .error .missingEngine
      | some initial, some engine =>
        match Session.withConfig initial (effective settings) with
        | .ok s => .ok (s, engine)
        | .error violations => .error (.invalidConfig violations) := by
  rw [ofSettings_eq, build]
  cases last? Setting.initial? settings with
  | none => rfl
  | some initial =>
    cases last? Setting.engine? settings with
    | none => rfl
    | some engine =>
      dsimp only
      rw [Session.withConfig, Config.validated, Config.isValid]
      cases (effective settings).violations with
      | nil => rfl
      | cons violation others => rfl

end Builder

namespace Session

/-! ### How sessions come about -/

/-- **A session that can be come by:** with the default configuration, with a given one, or from
settings. -/
inductive Created : Session τ → Prop
  /-- With the default configuration. -/
  | default (initial : τ) : Created (start initial {})
  /-- With a given configuration. -/
  | configured {initial : τ} {config : Config} {s : Session τ}
      (accepted : withConfig initial config = .ok s) : Created s
  /-- From settings. -/
  | built {γ : Type z} {settings : List (Setting τ γ)} {s : Session τ} {engine : γ}
      (built : (Builder.ofSettings settings).build = .ok (s, engine)) : Created s

theorem withConfig_eq_ok_iff {initial : τ} {config : Config} {s : Session τ} :
    withConfig initial config = .ok s ↔ config.isValid = true ∧ s = start initial config := by
  rw [withConfig, Config.validated]
  split
  · next valid => simp [Except.map, valid, eq_comm]
  · next broken => simp [Except.map, broken]

/-- **There is one way to come by a session:** to start one with a valid configuration. -/
theorem Created.exists_start {s : Session τ} (created : Created.{u, z} s) :
    ∃ initial config, config.isValid = true ∧ s = start initial config := by
  cases created with
  | default initial => exact ⟨initial, {}, rfl, rfl⟩
  | configured accepted =>
    obtain ⟨valid, rfl⟩ := withConfig_eq_ok_iff.1 accepted
    exact ⟨_, _, valid, rfl⟩
  | built built =>
    rw [Builder.build_eq] at built
    split at built
    · cases built
    · cases built
    · split at built
      · next accepted =>
        obtain ⟨valid, rfl⟩ := withConfig_eq_ok_iff.1 accepted
        obtain ⟨rfl, -⟩ := Prod.mk.inj (Except.ok.inj built)
        exact ⟨_, _, valid, rfl⟩
      · cases built

/-- **A session keeps the policy that it was created with,** in its configuration and in its
history, whatever it is commanded. -/
theorem Created.isValid [BEq τ] {s : Session τ} (created : Created.{u, z} s) (e : Engine σ τ ε)
    (engine : σ) (cs : List Command) :
    (s.performAll e engine cs).session.config.isValid = true ∧
      (s.performAll e engine cs).session.history.retention =
        (s.performAll e engine cs).session.config.retention := by
  obtain ⟨initial, config, valid, rfl⟩ := created.exists_start
  rw [performAll_config]
  exact ⟨valid, (performAll_covers (start_covers initial config) cs).policy⟩

end Session

namespace Builder

open Setting (last? effective)

/-- **A built session is the one created as configured.** For every list of settings, the last that
is said of each of the four things decides: without an initial term it is missing, whatever else is
or is not said; then the engine; then come the violations of the configuration that results, as they
are reported if a session is created with it directly; and else the session is the one so created,
with the engine that was given, and answers every list of commands alike. And however a session is
created, and whatever it is commanded, its checkpoints are never zero steps apart and its `resume`
is never limited to zero steps. -/
theorem built_as_configured [BEq τ] (settings : List (Setting τ (Engine σ τ ε × σ))) :
    let config := effective settings
    let built := (ofSettings settings).build
    (last? Setting.initial? settings = none → built = .error .missingInitial) ∧
    (∀ initial, last? Setting.initial? settings = some initial →
      (last? Setting.engine? settings = none → built = .error .missingEngine) ∧
      ∀ engine, last? Setting.engine? settings = some engine →
        (∀ violations, Session.withConfig initial config = .error violations →
          built = .error (.invalidConfig violations)) ∧
        ∀ s, Session.withConfig initial config = .ok s →
          ∃ s', built = .ok (s', engine) ∧ s' = s ∧
            ∀ cs, s'.performAll engine.1 engine.2 cs = s.performAll engine.1 engine.2 cs) ∧
    ∀ s : Session τ, Session.Created.{u, max u v w} s →
      ∀ (e : Engine σ τ ε) (engine : σ) (cs : List Command),
        let s' := (s.performAll e engine cs).session
        s'.config.retention ≠ .checkpoints 0 ∧ s'.config.resumeLimit ≠ some 0 ∧
          s'.history.retention ≠ .checkpoints 0 := by
  intro config built
  have outcome : built = _ := build_eq settings
  refine ⟨?_, ?_, ?_⟩
  · intro silent
    rw [outcome, silent]
  · intro initial given
    rw [given] at outcome
    refine ⟨fun silent => by rw [outcome, silent], ?_⟩
    intro engine driven
    rw [driven] at outcome
    dsimp only at outcome
    constructor
    · intro violations refused
      rw [outcome, refused]
    · intro s accepted
      rw [accepted] at outcome
      exact ⟨s, outcome, rfl, fun cs => rfl⟩
  · intro s created e engine cs s'
    obtain ⟨valid, kept⟩ := created.isValid e engine cs
    obtain ⟨apart, limited⟩ := (Config.isValid_iff _).1 valid
    exact ⟨apart, limited, kept ▸ apart⟩

/-- A configuration that no session can have is set between a policy before it, which it replaces,
and a policy after it, which replaces only half of it. The limit of zero steps remains, until it is
set as well. Without an engine the limit does not matter. -/
theorem built_as_configured_in_countdown :
    let broken : Config := { retention := .checkpoints 0, resumeLimit := some 0 }
    let driver : Engine Unit Nat String × Unit := (Engine.ofFn countdown, ())
    let settings : List (Setting Nat (Engine Unit Nat String × Unit)) :=
      [.initial 9, .checkpointEvery 7, .config broken, .initial 5, .retention .unbounded]
    let driven := settings ++ [.engine driver]
    let limited := driven ++ [.resumeLimit 2, .checkpointEvery 3]
    (ofSettings settings).build = .error .missingEngine ∧
      (ofSettings driven).build = .error (.invalidConfig [.zeroResumeLimit]) ∧
      (∃ s, (ofSettings limited).build = .ok (s, driver) ∧
        s = .start 5 { retention := .checkpoints 3, resumeLimit := some 2 } ∧
        (s.performAll driver.1 driver.2 [.resume, .verify 9]).session.config.resumeLimit ≠
          some 0) := by
  intro broken driver settings driven limited
  obtain ⟨-, unfinished, -⟩ := built_as_configured settings
  obtain ⟨-, refused, -⟩ := built_as_configured driven
  obtain ⟨-, accepted, usable⟩ := built_as_configured limited
  obtain ⟨s, built, rfl, -⟩ := ((accepted 5 rfl).2 driver rfl).2 _ rfl
  have created := (usable _ (.built built) driver.1 driver.2 [.resume, .verify 9]).2.1
  exact ⟨(unfinished 5 rfl).1 rfl, ((refused 5 rfl).2 driver rfl).1 _ rfl, _, built, rfl, created⟩

end Builder

end Retrace
