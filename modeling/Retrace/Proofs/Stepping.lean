import Mathlib.Algebra.GroupWithZero.Nat
import Retrace.Proofs.Survey

/-!
# Steps add up

A session over a pure engine that never fails, told nothing but to step forward, stands where
direct execution within the sum of the steps ends. It knows the end of execution if the sum goes
past it, and it has recorded what its policy retains up to there. How many steps made the sum and
in which order they came is nowhere to be seen, even though each of them moved the cursor, and let
go of the entry it left, at an index of its own.

## Main definitions

* `Session.Stepped` — what a session is like after a number of steps in all.

## Main statements

* `Session.Stepped.step`, `Session.Stepped.performAll` — a step adds to the number, and a run adds
  its sum; each answers with a visit where direct execution ends.
* `Session.Stepped.unique` — the number determines position and history.

What is load-bearing is that a step past the end of execution counts in full, although the cursor
does not move so far: direct execution with the larger budget ends at the same place
(`Finishes.resume`).
-/

namespace Retrace

universe u v w

variable {σ : Type w} {τ : Type u} {ε : Type v}

namespace Session

/-! ### Sessions -/

/-- **A session that made** `total` **steps forward,** as far as there were any to make. -/
structure Stepped (f : τ → Reply τ ε) (initial : τ) (retention : Retention) (total : Nat)
    (s : Session τ) : Prop where
  faithful : s.Faithful f initial
  anchored : s.Anchored
  covers : s.history.Covers retention s.current
  /-- The cursor is where direct execution ends, and the end is known if that execution saw it. -/
  lands : ∃ d, Finishes f initial total (.ok d) ∧ s.current = d.steps ∧
    s.terminal = if d.terminated then some d.steps else none

variable {f : τ → Reply τ ε} {initial : τ} {retention : Retention} {total n : Nat}
  {s s' : Session τ}

theorem start_stepped (f : τ → Reply τ ε) (initial : τ) (config : Config) :
    (start initial config).Stepped f initial config.retention 0 where
  faithful := start_faithful f initial config
  anchored := start_anchored initial config
  covers := start_covers initial config
  lands := ⟨⟨initial, 0, false⟩, .spent .origin, rfl, rfl⟩

theorem Stepped.surveyed (h : s.Stepped f initial retention total) :
    s.Surveyed f initial retention s.current :=
  ⟨h.faithful, h.anchored, h.covers⟩

/-- **The number of steps is all there is to tell:** it determines the position and the whole
history. -/
theorem Stepped.unique (h : s.Stepped f initial retention total)
    (h' : s'.Stepped f initial retention total) :
    s.position = s'.position ∧ s.history = s'.history := by
  obtain ⟨d, finishes, current, terminal⟩ := h.lands
  obtain ⟨d', finishes', current', terminal'⟩ := h'.lands
  obtain rfl := Except.ok.inj (finishes.unique finishes')
  have same : s.current = s'.current := current.trans current'.symm
  have surveyed := h.surveyed
  rw [same] at surveyed
  exact surveyed.unique h'.surveyed same (terminal.trans terminal'.symm)

variable [BEq τ] [ReflBEq τ] {e : Engine σ τ ε}

/-- **A step adds to the number of steps.** It answers with a visit where direct execution within
the new number ends. -/
theorem Stepped.step (pure : e.AnswersBy f) (infallible : ∀ x error, f x ≠ .failed error)
    (stepped : s.Stepped f initial retention total) (bounded : total + n ≤ Index.maxIndex)
    (engine : σ) :
    (∃ visit d, (s.perform e engine (.step n)).answer = .ok (.visit visit) ∧
      Finishes f initial (total + n) (.ok d) ∧ visit.index = d.steps ∧ visit.state = d.state) ∧
    (s.perform e engine (.step n)).session.Stepped f initial retention (total + n) := by
  obtain ⟨d, finished, current, terminal⟩ := stepped.lands
  have within : s.current + n ≤ Index.maxIndex := by
    rw [current]
    exact Nat.le_trans (Nat.add_le_add_right finished.steps_le n) bounded
  have navigates : s.perform e engine (.step n) =
      (s.navigate e (s.current + n) engine).map .visit :=
    perform_of_requested e (requested?_step within) engine
  have finishes := Engine.run_finishes pure (s.current + n) initial engine
  obtain ⟨d', outcome⟩ := finishes.exists_ok infallible
  rw [outcome] at finishes
  obtain ⟨answer, index, state, known, surveyed⟩ :=
    stepped.surveyed.navigate pure finishes engine
  have forward : s.current ≤ d'.steps :=
    finishes.le_steps (Nat.le_add_right _ n) stepped.faithful.grounded.cursor
  rw [Nat.max_eq_right forward, ← index] at surveyed
  rw [current] at finishes
  obtain ⟨whole, finishes', steps', state', ended⟩ := finished.resume finishes
  rw [navigates]
  constructor
  · exact ⟨_, whole, map_visit_eq_ok.2 answer, finishes', index.trans steps'.symm,
      state.trans state'.symm⟩
  · refine ⟨surveyed.faithful, surveyed.anchored, surveyed.covers, whole, finishes',
      index.trans steps'.symm, ?_⟩
    rw [ended none, ← terminal]
    exact known

/-- **A run of steps adds their sum.** It answers each of them with a visit where direct execution
within the steps so far ends. -/
theorem Stepped.performAll (pure : e.AnswersBy f) (infallible : ∀ x error, f x ≠ .failed error)
    {ns : List Nat} (stepped : s.Stepped f initial retention total)
    (bounded : total + ns.sum ≤ Index.maxIndex) (engine : σ) :
    (∀ j < ns.length, ∃ visit d,
      (s.performAll e engine (ns.map .step)).answers[j]? = some (.ok (.visit visit)) ∧
      Finishes f initial (total + (ns.take (j + 1)).sum) (.ok d) ∧ visit.index = d.steps ∧
      visit.state = d.state) ∧
    (s.performAll e engine (ns.map .step)).session.Stepped f initial retention
      (total + ns.sum) := by
  induction ns generalizing s engine total with
  | nil => exact ⟨nofun, stepped⟩
  | cons n rest ih =>
    rw [List.sum_cons, ← Nat.add_assoc] at bounded
    obtain ⟨⟨visit, d, answer, lands⟩, after⟩ :=
      stepped.step pure infallible (Nat.le_trans (Nat.le_add_right _ _) bounded) engine
    obtain ⟨answers, final⟩ := ih after bounded _
    rw [List.map_cons, performAll_cons, List.sum_cons, ← Nat.add_assoc]
    refine ⟨?_, final⟩
    intro j within
    cases j with
    | zero =>
      refine ⟨visit, d, congrArg some answer, ?_⟩
      rwa [List.take_succ_cons, List.take_zero, List.sum_singleton]
    | succ j =>
      obtain ⟨visit', d', answer', lands'⟩ := answers j (Nat.lt_of_succ_lt_succ within)
      refine ⟨visit', d', answer', ?_⟩
      rwa [List.take_succ_cons, List.sum_cons, ← Nat.add_assoc]

/-- **A fresh session steps as far as its steps add up to.** -/
theorem performAll_stepped (pure : e.AnswersBy f) (infallible : ∀ x error, f x ≠ .failed error)
    (config : Config) {ns : List Nat} (bounded : ns.sum ≤ Index.maxIndex) (engine : σ) :
    (∀ j < ns.length, ∃ visit d,
      ((start initial config).performAll e engine (ns.map .step)).answers[j]? =
        some (.ok (.visit visit)) ∧
      Finishes f initial (ns.take (j + 1)).sum (.ok d) ∧ visit.index = d.steps ∧
      visit.state = d.state) ∧
    ((start initial config).performAll e engine (ns.map .step)).session.Stepped f initial
      config.retention ns.sum := by
  have bounded' : 0 + ns.sum ≤ Index.maxIndex := by rwa [Nat.zero_add]
  have run := (start_stepped f initial config).performAll pure infallible bounded' engine
  simpa only [Nat.zero_add] using run

end Session

end Retrace
