import Retrace.Proofs.Fidelity

/-!
# Retention is invisible

What a history retains decides which steps are replayed, and nothing that a session
shows. Two sessions over a pure engine that differ in their retention policy only are
driven by the same commands: they answer alike, command by command, and they show the
same afterwards.

## Main definitions

* `Verification.uncounted`, `Answer.uncounted` — an answer without the number of entries
  compared, which is the one trace that retention leaves in it.
* `Session.Alike` — the simulation: two faithful sessions that show the same.

## Main statements

* `Verdict.agree` — two records of one execution get the same verdict.
* `Session.perform_alike`, `Session.performAll_alike` — like sessions answer alike and
  stay alike.

The two sessions share no engine state: after different replays their engines have
answered different calls. All that the simulation needs of the engine is the function
that it answers by.
-/

namespace Retrace

universe u v w

variable {σ : Type w} {τ : Type u} {ε : Type v}

/-! ### Answers without traces of retention -/

/-- A report without the number of entries compared. -/
def Verification.uncounted (r : Verification) : Verification :=
  { r with checked := 0 }

/-- An answer without the number of entries compared. -/
def Answer.uncounted : Answer τ → Answer τ
  | .visit v => .visit v
  | .report r => .report r.uncounted

/-! ### Verifications of two records -/

/-- **Two records of one execution get the same verdict,** if neither is contradicted:
what is recorded enters the number of comparisons only. -/
theorem Verdict.agree [BEq τ] {f : τ → Reply τ ε} {h h' : History τ} {limit n n' : Nat}
    {answer answer' : Except (SessionError ε) Verification}
    (verdict : Verdict f h limit answer n) (verdict' : Verdict f h' limit answer' n')
    (origin : h.origin = h'.origin) (terminal : h.terminal = h'.terminal)
    (lawful : Session.violation? answer = none) (lawful' : Session.violation? answer' = none) :
    answer.map Verification.uncounted = answer'.map Verification.uncounted ∧ n = n' := by
  have functional := Engine.rightUnique_of_fn f
  cases verdict with
  | arrived reached agrees unasked =>
    rw [origin] at reached
    rw [terminal] at unasked
    cases verdict' with
    | arrived => exact ⟨rfl, rfl⟩
    | ended asked reached' agrees' halted last =>
      exact absurd (asked.known reached' halted (by simp) reached) unasked
    | failed asked reached' agrees' failed =>
      exact absurd (asked.known reached' failed (by simp) reached) unasked
    | endedEarly | wentOn | differs => cases lawful'
  | ended asked reached agrees halted last =>
    rw [origin] at reached
    cases verdict' with
    | arrived reached' agrees' unasked =>
      exact absurd (asked.known reached halted (by simp) reached') (terminal ▸ unasked)
    | ended asked' reached' agrees' halted' last' =>
      obtain ⟨rfl, -, -⟩ :=
        reached.stop_unique functional halted (by simp) reached' halted' (by simp)
      exact ⟨rfl, rfl⟩
    | failed asked' reached' agrees' failed =>
      exact absurd failed (reached.ne_failed_of_halted halted reached' _)
    | endedEarly | wentOn | differs => cases lawful'
  | failed asked reached agrees failed =>
    rw [origin] at reached
    cases verdict' with
    | arrived reached' agrees' unasked =>
      exact absurd (asked.known reached failed (by simp) reached') (terminal ▸ unasked)
    | ended asked' reached' agrees' halted last =>
      exact absurd failed (reached'.ne_failed_of_halted halted reached _)
    | failed asked' reached' agrees' failed' =>
      obtain ⟨rfl, -, same⟩ :=
        reached.stop_unique functional failed (by simp) reached' failed' (by simp)
      rw [Reply.failed.inj same]
      exact ⟨rfl, rfl⟩
    | endedEarly | wentOn | differs => cases lawful'
  | endedEarly | wentOn | differs => cases lawful

/-! ### Like sessions -/

namespace Session

/-- **Like sessions:** each is faithful to the same execution, and they show the same. -/
structure Alike (f : τ → Reply τ ε) (initial : τ) (s s' : Session τ) : Prop where
  left : s.Faithful f initial
  right : s'.Faithful f initial
  facade : s.facade = s'.facade
  resumeLimit : s.config.resumeLimit = s'.config.resumeLimit

namespace Alike

variable {f : τ → Reply τ ε} {initial : τ} {s s' : Session τ}

theorem current_eq (alike : Alike f initial s s') : s.current = s'.current :=
  congrArg Facade.current alike.facade

theorem terminal_eq (alike : Alike f initial s s') : s.terminal = s'.terminal :=
  congrArg Facade.terminal alike.facade

theorem position_eq (alike : Alike f initial s s') : s.position = s'.position := by
  have hcursor : s.cursor = s'.cursor := congrArg Facade.cursor alike.facade
  rw [position, position, hcursor, alike.current_eq, alike.terminal_eq]

/-- Like sessions take a command to request the same index. -/
theorem requested?_eq (alike : Alike f initial s s') (c : Command) :
    s.requested? c = s'.requested? c :=
  requested?_congr alike.current_eq alike.terminal_eq alike.resumeLimit c

theorem clamp_eq (alike : Alike f initial s s') (i : Nat) :
    s.history.clamp i = s'.history.clamp i := by
  have hterminal : s.history.terminal = s'.history.terminal := alike.terminal_eq
  rw [History.clamp, History.clamp, hterminal]

end Alike

variable [BEq τ] [ReflBEq τ] {e : Engine σ τ ε} {f : τ → Reply τ ε} {initial : τ}
  {s s' : Session τ}

theorem navigate_alike (pure : e.AnswersBy f) (alike : Alike f initial s s') (k : Nat)
    (engine engine' : σ) :
    (s.navigate e k engine).answer = (s'.navigate e k engine').answer ∧
      Alike f initial (s.navigate e k engine).session (s'.navigate e k engine').session := by
  -- both end as one and the same direct execution does
  have finishes := Engine.run_finishes pure k initial engine
  obtain ⟨hanswer, hfacade⟩ := s.navigate_finishes pure alike.left finishes engine
  obtain ⟨hanswer', hfacade'⟩ := s'.navigate_finishes pure alike.right finishes engine'
  refine ⟨?_, ⟨?_, ?_, ?_, ?_⟩⟩
  · rw [hanswer, hanswer', alike.facade]
  · exact navigate_faithful pure alike.left k engine
  · exact navigate_faithful pure alike.right k engine'
  · rw [hfacade, hfacade', alike.facade]
  · rw [navigate_config, navigate_config]
    exact alike.resumeLimit

theorem verify_alike (pure : e.AnswersBy f) (alike : Alike f initial s s') (upTo : Nat)
    (engine engine' : σ) :
    (s.verify e upTo engine).answer.map Verification.uncounted =
        (s'.verify e upTo engine').answer.map Verification.uncounted ∧
      Alike f initial (s.verify e upTo engine).session (s'.verify e upTo engine').session := by
  obtain ⟨n, verdict, after⟩ := s.verify_counts pure alike.left upTo engine
  obtain ⟨n', verdict', after'⟩ := s'.verify_counts pure alike.right upTo engine'
  have grounded := alike.left.grounded.history
  have grounded' := alike.right.grounded.history
  have origin : s.history.origin = s'.history.origin := by
    rw [grounded.origin_eq, grounded'.origin_eq]
  rw [← alike.clamp_eq] at verdict'
  obtain ⟨answer, rfl⟩ := verdict.agree verdict' origin alike.terminal_eq
    (s.verify_unviolated pure alike.left upTo engine)
    (s'.verify_unviolated pure alike.right upTo engine')
  refine ⟨answer, ⟨?_, ?_, ?_, ?_⟩⟩
  · exact verify_faithful pure alike.left upTo engine
  · exact verify_faithful pure alike.right upTo engine'
  · rw [after, after']
    have hcounted : ∀ s : Session τ,
        ({ s with stats := s.stats.recordVerification n } : Session τ).facade =
          { s.facade with verifiedSteps := s.facade.verifiedSteps + n } := fun _ => rfl
    rw [hcounted, hcounted, alike.facade]
  · rw [after, after']
    exact alike.resumeLimit

/-- **Like sessions answer alike and stay alike.** -/
theorem perform_alike (pure : e.AnswersBy f) (alike : Alike f initial s s')
    (engine engine' : σ) (c : Command) :
    (s.perform e engine c).answer.map Answer.uncounted =
        (s'.perform e engine' c).answer.map Answer.uncounted ∧
      Alike f initial (s.perform e engine c).session (s'.perform e engine' c).session := by
  cases requested : s.requested? c with
  | some k =>
    have requested' := alike.requested?_eq c ▸ requested
    rw [perform_of_requested e requested, perform_of_requested e requested']
    obtain ⟨answer, after⟩ := navigate_alike pure alike k engine engine'
    refine ⟨?_, after⟩
    simp only [Outcome.map, answer]
  | none =>
    have requested' := alike.requested?_eq c ▸ requested
    cases c with
    | step n =>
      rw [perform_step_of_requested_none e requested, perform_step_of_requested_none e requested',
        alike.current_eq]
      exact ⟨rfl, alike⟩
    | position =>
      rw [perform, perform, alike.position_eq]
      exact ⟨rfl, alike⟩
    | verify upTo =>
      obtain ⟨answer, after⟩ := verify_alike pure alike upTo engine engine'
      have hreport : ∀ a : Except (SessionError ε) Verification,
          (a.map Answer.report).map (Answer.uncounted : Answer τ → Answer τ) =
            (a.map Verification.uncounted).map Answer.report := by
        intro a
        cases a <;> rfl
      refine ⟨?_, after⟩
      show ((s.verify e upTo engine).answer.map Answer.report).map Answer.uncounted =
        ((s'.verify e upTo engine').answer.map Answer.report).map Answer.uncounted
      rw [hreport, hreport, answer]
    | back | jump | resume => cases requested

/-- **Like sessions answer every sequence of commands alike,** and stay alike. -/
theorem performAll_alike (pure : e.AnswersBy f) (alike : Alike f initial s s')
    (engine engine' : σ) (cs : List Command) :
    (s.performAll e engine cs).answers.map (Except.map Answer.uncounted) =
        (s'.performAll e engine' cs).answers.map (Except.map Answer.uncounted) ∧
      Alike f initial (s.performAll e engine cs).session
        (s'.performAll e engine' cs).session := by
  -- the engine states differ more after every command, and the invariant does not mention them
  induction cs generalizing s s' engine engine' with
  | nil => exact ⟨rfl, alike⟩
  | cons c rest ih =>
    obtain ⟨answer, after⟩ := perform_alike pure alike engine engine' c
    obtain ⟨answers, afterAll⟩ := ih after _ _
    rw [performAll_cons, performAll_cons]
    refine ⟨?_, afterAll⟩
    rw [List.map_cons, List.map_cons, answer, answers]

/-- **Retention is invisible.** Two sessions over a pure engine that differ in retention
only give the same answers to the same commands, apart from the number of entries
compared, and show the same afterwards. The sequence of commands is any, so they also
show the same after every single command of a longer one. -/
theorem retention_is_invisible (pure : e.AnswersBy f) (initial : τ)
    (resumeLimit : Option Nat) (retention retention' : Retention) (engine : σ)
    (cs : List Command) :
    let run := (start initial { retention, resumeLimit }).performAll e engine cs
    let run' := (start initial { retention := retention', resumeLimit }).performAll e engine cs
    run.answers.map (Except.map Answer.uncounted) =
        run'.answers.map (Except.map Answer.uncounted) ∧
      run.session.facade = run'.session.facade := by
  intro run run'
  have alike : Alike f initial (start initial { retention, resumeLimit })
      (start initial { retention := retention', resumeLimit }) :=
    ⟨start_faithful f initial _, start_faithful f initial _, rfl, rfl⟩
  obtain ⟨answers, after⟩ := performAll_alike pure alike engine engine cs
  exact ⟨answers, after.facade⟩

/-- Two sessions over a countdown from five, one of which keeps every other term only,
after a jump past the end, a step back and a verification. -/
theorem retention_is_invisible_in_countdown :
    let cs := [Command.jump 9, .back 2, .verify 4]
    let run := (start 5 {}).performAll (Engine.ofFn countdown) () cs
    let run' := (start 5 { retention := .checkpoints 2 }).performAll (Engine.ofFn countdown) () cs
    run.session.history.size = 6 ∧ run'.session.history.size = 5 ∧
      run.session.facade = run'.session.facade := by
  intro cs run run'
  have alike := retention_is_invisible (Engine.ofFn_answersBy countdown) 5 none .unbounded
    (.checkpoints 2) () cs
  exact ⟨rfl, rfl, alike.2⟩

end Session

end Retrace
