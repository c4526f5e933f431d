import Mathlib.Data.List.Forall2
import Retrace.Proofs.Calls

/-!
# Poisoned sessions

A contradiction spoils a session for good. Whatever it is told afterwards, it asks no engine
and changes nothing, so there is no second contradiction and no way back. What it answers
depends on the command and on where the cursor stands, and on nothing that happened since.

## Main definitions

* `Session.Overflows` — a forward step that requests nothing.
* `Session.refusal` — what a poisoned session answers.

## Main statements

* `Session.perform_of_poisoned`, `Session.performAll_of_poisoned` — a poisoned session answers
  by refusals, and nothing else happens.
* `Session.perform_mark`, `Session.performAll_mark` — the poison mark is the one contradiction
  that was reported, if there was one.
* `Session.refused_for_poison_iff` — which commands are refused for the poison.
* `Session.poisoned_once_and_frozen` — there is one contradiction at most, and nothing after it.

A forward step works out its target before it looks at the poison mark. So a step whose target
is no step index is refused for that, also by a poisoned session, unless the end of execution
is known and the target is limited to it.
-/

namespace Retrace

universe u v w

variable {σ : Type w} {τ : Type u} {ε : Type v}

namespace Session

/-! ### What is refused, and how -/

/-- **A forward step that requests nothing:** its target is no step index, and the end of
execution, to which it would be limited, is not known. -/
def Overflows (s : Session τ) : Command → Prop
  | .step n => Index.maxIndex < s.current + n ∧ s.terminal = none
  | _ => False

/-- **What a session answers that is poisoned at index** `i`. It can still tell where its
cursor stands. -/
def refusal (s : Session τ) (i : Nat) : Command → Except (SessionError ε) (Answer τ)
  | .position => .ok (.visit s.position)
  | .step n =>
    match s.requested? (.step n) with
    | some _ => .error (.poisoned i)
    | none => .error (.stepOverflow n s.current)
  | .back _ | .jump _ | .resume | .verify _ => .error (.poisoned i)

theorem requested?_step_eq_none_iff {s : Session τ} {n : Nat} :
    s.requested? (.step n) = none ↔ s.Overflows (.step n) := by
  simp only [requested?, Overflows]
  cases s.terminal with
  | none => simp
  | some t =>
    split
    · simp
    · simp

variable {s : Session τ} {i : Nat} {c : Command}

theorem refusal_of_requested {k : Nat} (requested : s.requested? c = some k) :
    (s.refusal i c : Except (SessionError ε) (Answer τ)) = .error (.poisoned i) := by
  cases c with
  | step n => simp only [refusal, requested]
  | position => cases requested
  | back | jump | resume | verify => rfl

theorem refusal_of_overflows {n : Nat} (overflows : s.Overflows (.step n)) :
    (s.refusal i (.step n) : Except (SessionError ε) (Answer τ)) =
      .error (.stepOverflow n s.current) := by
  simp only [refusal, requested?_step_eq_none_iff.2 overflows]

/-- **A command that would ask the engine is refused in one of two ways.** -/
theorem refusal_cases (asks : c ≠ .position) :
    (¬s.Overflows c ∧
        (s.refusal i c : Except (SessionError ε) (Answer τ)) = .error (.poisoned i)) ∨
      (s.Overflows c ∧ ∃ n, (s.refusal i c : Except (SessionError ε) (Answer τ)) =
        .error (.stepOverflow n s.current)) := by
  cases c with
  | step n =>
    cases requested : s.requested? (.step n) with
    | some k =>
      refine .inl ⟨fun overflows => ?_, refusal_of_requested requested⟩
      rw [requested?_step_eq_none_iff.2 overflows] at requested
      cases requested
    | none =>
      have overflows := requested?_step_eq_none_iff.1 requested
      exact .inr ⟨overflows, n, refusal_of_overflows overflows⟩
  | position => exact absurd rfl asks
  | back | jump | resume | verify => exact .inl ⟨id, rfl⟩

/-- **Every command that would ask the engine is refused for the poison,** except for a step
that overflows. -/
theorem refusal_eq_poisoned_iff (asks : c ≠ .position) :
    (s.refusal i c : Except (SessionError ε) (Answer τ)) = .error (.poisoned i) ↔
      ¬s.Overflows c := by
  rcases refusal_cases (i := i) (ε := ε) asks with ⟨unhindered, refused⟩ | ⟨overflows, n, refused⟩
  · exact ⟨fun _ => unhindered, fun _ => refused⟩
  · rw [refused]
    refine ⟨fun poisoned => ?_, fun unhindered => absurd overflows unhindered⟩
    cases poisoned

/-- No refusal reports a contradiction. -/
@[simp] theorem violation?_refusal :
    violation? (s.refusal i c : Except (SessionError ε) (Answer τ)) = none := by
  by_cases asks : c = .position
  · rw [asks]
    rfl
  · rcases refusal_cases (i := i) (ε := ε) asks with ⟨-, refused⟩ | ⟨-, n, refused⟩
    · rw [refused]
      rfl
    · rw [refused]
      rfl

/-! ### Nothing happens any more -/

variable [BEq τ]

/-- **A poisoned session refuses every command,** and nothing else happens. -/
theorem perform_of_poisoned (e : Engine σ τ ε) (poisoned : s.poisoned = some i) (engine : σ)
    (c : Command) : s.perform e engine c = ⟨s.refusal i c, s, engine⟩ := by
  have done := s.perform_comesTo e engine c
  generalize s.perform e engine c = o at done ⊢
  cases done with
  | navigated requested =>
    rw [navigate_of_poisoned e poisoned, refusal_of_requested requested]
    rfl
  | overflowed requested =>
    rw [refusal_of_overflows (requested?_step_eq_none_iff.1 requested)]
  | told => rfl
  | verified upTo =>
    rw [verify_of_poisoned e poisoned]
    rfl

/-- **So does every sequence of commands** leave a poisoned session and the engine alone. -/
theorem performAll_of_poisoned (e : Engine σ τ ε) (poisoned : s.poisoned = some i) (engine : σ)
    (cs : List Command) : s.performAll e engine cs = ⟨cs.map (s.refusal i), s, engine⟩ := by
  induction cs with
  | nil => rfl
  | cons c rest ih =>
    rw [performAll_cons, perform_of_poisoned e poisoned]
    dsimp only
    rw [ih, List.map_cons]

/-! ### One contradiction at most -/

/-- **A command adds its contradiction to the poison mark,** if it reports one; where there is
a mark already it reports none. -/
theorem perform_mark (e : Engine σ τ ε) (s : Session τ) (engine : σ) (c : Command) :
    (s.perform e engine c).session.poisoned.toList =
      s.poisoned.toList ++ (violation? (s.perform e engine c).answer).toList := by
  cases poisoned : s.poisoned with
  | none =>
    rw [perform_poisoned, poisoned, Option.or_none]
    rfl
  | some i =>
    rw [perform_of_poisoned e poisoned, violation?_refusal, poisoned]
    rfl

/-- **The poison mark is all the contradictions that were reported,** in any run. Since a mark
is one index at most, so is what was reported. -/
theorem performAll_mark (e : Engine σ τ ε) (s : Session τ) (engine : σ) (cs : List Command) :
    (s.performAll e engine cs).session.poisoned.toList =
      s.poisoned.toList ++ (s.performAll e engine cs).answers.filterMap violation? := by
  induction cs generalizing s engine with
  | nil => rw [performAll_nil, List.filterMap_nil, List.append_nil]
  | cons c rest ih =>
    rw [performAll_cons]
    dsimp only
    rw [ih, perform_mark, List.append_assoc, List.filterMap_cons]
    cases violation? (s.perform e engine c).answer with
    | none => rfl
    | some i => rfl

/-! ### After a contradiction -/

/-- A command that reports a contradiction poisons the session there. -/
theorem perform_poisoned_of_violation {e : Engine σ τ ε} {engine : σ} {cause : Contradiction}
    (violated : (s.perform e engine c).answer = .error (.violation cause)) :
    (s.perform e engine c).session.poisoned = some cause.index := by
  rw [perform_poisoned, violated]
  rfl

/-- **After a contradiction every command is refused for the poison, except for a step that
overflows.** In every run of a session over any engine: once a command has reported a
contradiction at some index, each later command but a question for the position is answered
with the poison and that index, exactly if it is no forward step past the largest index while
the end of execution is unknown. Such a step is refused as it is by a session that is not
poisoned. -/
theorem refused_for_poison_iff (e : Engine σ τ ε) (initial : τ) (config : Config) (engine : σ)
    (before : List Command) (c : Command) (after : List Command) (cause : Contradiction) :
    let reached := (start initial config).performAll e engine before
    let violating := reached.session.perform e reached.engine c
    let later := violating.session.performAll e violating.engine after
    violating.answer = .error (.violation cause) →
      List.Forall₂ (fun d answer =>
        (d ≠ .position →
          (answer = .error (.poisoned cause.index) ↔ ¬violating.session.Overflows d)) ∧
        ∀ n, d = .step n → violating.session.Overflows d →
          answer = .error (.stepOverflow n violating.session.current)) after later.answers := by
  intro reached violating later violated
  have poisoned : violating.session.poisoned = some cause.index :=
    perform_poisoned_of_violation violated
  have refused : later.answers = after.map (violating.session.refusal cause.index) := by
    show (violating.session.performAll e violating.engine after).answers = _
    rw [performAll_of_poisoned e poisoned]
  rw [refused, List.forall₂_map_right_iff, List.forall₂_same]
  intro d _
  refine ⟨refusal_eq_poisoned_iff, ?_⟩
  rintro n rfl overflows
  exact refusal_of_overflows overflows

/-- An engine that tires after two calls is caught by a verification. Of the commands after it
a step back, a verification and a short step forward are refused for the poison, and a step
past the largest index is refused for that. -/
theorem refused_for_poison_by_tiring :
    let reached := (start 0 {}).performAll (Engine.tiring 2) 0 [.jump 2]
    let violating := reached.session.perform (Engine.tiring 2) reached.engine (.verify 2)
    let later := violating.session.performAll (Engine.tiring 2) violating.engine
      [.back 1, .verify 0, .step 3, .step Index.maxIndex]
    violating.answer = .error (.violation (.differentTerm 1)) ∧
      later.answers = [.error (.poisoned 1), .error (.poisoned 1), .error (.poisoned 1),
        .error (.stepOverflow Index.maxIndex 2)] := by
  intro reached violating later
  have violated : violating.answer = .error (.violation (.differentTerm 1)) := rfl
  have refused := refused_for_poison_iff (Engine.tiring 2) 0 {} 0 [.jump 2] (.verify 2)
    [.back 1, .verify 0, .step 3, .step Index.maxIndex] (.differentTerm 1) violated
  change List.Forall₂ _ _ later.answers at refused
  have short : ¬violating.session.Overflows (.step 3) := by
    rintro ⟨past, -⟩
    exact absurd past (by decide)
  have long : violating.session.Overflows (.step Index.maxIndex) := ⟨by decide, rfl⟩
  generalize later.answers = answers at refused ⊢
  cases refused with
  | cons back rest =>
  cases rest with
  | cons verify rest =>
  cases rest with
  | cons step rest =>
  cases rest with
  | cons overflow rest =>
  cases rest with
  | nil =>
    rw [(back.1 nofun).2 id, (verify.1 nofun).2 id, (step.1 nofun).2 short,
      overflow.2 Index.maxIndex rfl long]
    exact ⟨violated, rfl⟩

/-- **A poisoned session does not refuse every command for the poison:** the cursor stands at
index two, the end of execution is not known, and a step is asked for that leads past the
largest index. -/
theorem overflow_comes_before_poison :
    let reached := (start 0 {}).performAll (Engine.tiring 2) 0 [.jump 2]
    let violating := reached.session.perform (Engine.tiring 2) reached.engine (.verify 2)
    let later := violating.session.perform (Engine.tiring 2) violating.engine
      (.step Index.maxIndex)
    violating.answer = .error (.violation (.differentTerm 1)) ∧
      violating.session.poisoned = some 1 ∧
      later.answer = .error (.stepOverflow Index.maxIndex 2) ∧
      later.answer ≠ .error (.poisoned 1) := by
  intro reached violating later
  have poisoned : violating.session.poisoned = some 1 := rfl
  have overflows : violating.session.Overflows (.step Index.maxIndex) := ⟨by decide, rfl⟩
  have overflowed : later.answer = .error (.stepOverflow Index.maxIndex 2) := by
    show (violating.session.perform (Engine.tiring 2) violating.engine _).answer = _
    rw [perform_step_of_requested_none _ (requested?_step_eq_none_iff.2 overflows)]
    rfl
  refine ⟨rfl, poisoned, overflowed, ?_⟩
  rw [overflowed]
  nofun

/-- **A session is poisoned once at most, and frozen from then on.** In every run of a session
over any engine, the contradictions reported are those in the poison mark: none if there is no
mark, and otherwise a single one, at the index marked. Once it is reported, every later command
but a question for the position fails; the engine is not called any more; and the session stays
as the command has left it that reported the contradiction. -/
theorem poisoned_once_and_frozen (e : Engine σ τ ε) (initial : τ) (config : Config) (engine : σ)
    (cs : List Command) :
    let run := fun cs => (start initial config).performAll e engine cs
    let log := fun cs => ((start initial config).performAll e.logged (engine, []) cs).engine.2
    (run cs).answers.filterMap violation? = (run cs).session.poisoned.toList ∧
    ∀ before c after cause, cs = before ++ c :: after →
      let violating := (run before).session.perform e (run before).engine c
      let later := violating.session.performAll e violating.engine after
      violating.answer = .error (.violation cause) →
        (run cs).session = violating.session ∧
        (run cs).session.poisoned = some cause.index ∧
        (∀ recorded observed, cause = .differentEnd recorded observed →
          (run cs).session.poisoned = some (min recorded observed)) ∧
        (run cs).answers = (run before).answers ++ violating.answer :: later.answers ∧
        List.Forall₂ (fun d answer => d ≠ .position → ∃ error, answer = .error error)
          after later.answers ∧
        log cs = log (before ++ [c]) := by
  intro run log
  refine ⟨?_, ?_⟩
  · exact (performAll_mark e (start initial config) engine cs).symm
  · rintro before c after cause rfl violating later violated
    have poisoned : violating.session.poisoned = some cause.index :=
      perform_poisoned_of_violation violated
    have refused : later = ⟨after.map (violating.session.refusal cause.index),
        violating.session, violating.engine⟩ := performAll_of_poisoned e poisoned _ after
    have whole : run (before ++ c :: after) = ⟨(run before).answers ++ violating.answer ::
        later.answers, later.session, later.engine⟩ := by
      show (start initial config).performAll e engine (before ++ c :: after) = _
      rw [performAll_append]
      rfl
    have frozen : (run (before ++ c :: after)).session = violating.session := by
      rw [whole, refused]
    refine ⟨frozen, by rw [frozen, poisoned], ?_, congrArg Transcript.answers whole, ?_, ?_⟩
    · rintro recorded observed rfl
      rw [frozen, poisoned]
      rfl
    · rw [refused, List.forall₂_map_right_iff, List.forall₂_same]
      intro d _ asks
      rcases refusal_cases (i := cause.index) (ε := ε) asks with ⟨-, refused⟩ | ⟨-, n, refused⟩
      · exact ⟨_, refused⟩
      · exact ⟨_, refused⟩
    · -- the logged run comes to the same session, and there it stops asking
      let first := (start initial config).performAll e.logged (engine, []) (before ++ [c])
      have same : first.session = violating.session := by
        have unlogged := performAll_logged e (start initial config) engine [] (before ++ [c])
        have cutoff : ((start initial config).performAll e engine (before ++ [c])).session =
            violating.session := by
          rw [performAll_append]
          rfl
        exact (congrArg Transcript.session unlogged).trans cutoff
      show ((start initial config).performAll e.logged (engine, []) (before ++ c :: after)).engine.2
        = first.engine.2
      rw [List.append_cons before c after, performAll_append]
      show (first.session.performAll e.logged first.engine after).engine.2 = first.engine.2
      rw [performAll_of_poisoned e.logged (same ▸ poisoned)]

/-- An engine that tires after two calls is caught by a verification, which is its third call;
four more commands do not bring it to another one. -/
theorem poisoned_once_and_frozen_for_tiring :
    let cs := [Command.jump 2, .verify 2, .back 1, .step Index.maxIndex, .resume, .verify 0]
    let run := (start 0 {}).performAll (Engine.tiring 2) 0 cs
    let log := ((start 0 {}).performAll (Engine.tiring 2).logged (0, []) cs).engine.2
    run.answers.filterMap violation? = [1] ∧ run.session.poisoned = some 1 ∧
      run.session.current = 2 ∧ log = [(0, .rewrote 1), (1, .rewrote 2), (0, .halted)] := by
  intro cs run log
  obtain ⟨reported, after⟩ := poisoned_once_and_frozen (Engine.tiring 2) 0 {} 0 cs
  obtain ⟨frozen, poisoned, -, -, -, calls⟩ := after [.jump 2] (.verify 2)
    [.back 1, .step Index.maxIndex, .resume, .verify 0] (.differentTerm 1) rfl rfl
  refine ⟨?_, poisoned, ?_, ?_⟩
  · rw [reported, poisoned]
    rfl
  · exact congrArg Session.current frozen
  · exact calls

end Session

end Retrace
