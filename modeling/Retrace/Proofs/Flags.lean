import Retrace.Proofs.Fidelity

/-!
# When the end of execution is reported

Over a pure engine there is at most one index where execution halts, and a session finds out
about it in one way only: a navigation that is asked to go past the end has the engine report
the end. So whether a session knows the end does not depend on the terms that it visited, only
on the indices that were requested of it. To land on the last term, be it exactly, is not enough;
one request for a step more is, and from then on the end is reported at every visit there.

## Main statements

* `Session.perform_lands` — a visit is where direct execution within the index requested ends,
  and the end is known afterwards if that execution reports it.
* `Session.perform_terminal_iff`, `Session.performAll_terminal_iff` — a command makes the end
  known, and so does a run, by a visit that was requested past it.
* `Session.end_flags_follow_requests` — what the two flags of a visit mean.
-/

namespace Retrace

universe u v w

variable {σ : Type w} {τ : Type u} {ε : Type v}

namespace Session

variable [BEq τ] [ReflBEq τ] {e : Engine σ τ ε} {f : τ → Reply τ ε} {initial : τ}
  {s : Session τ} {engine : σ} {c : Command} {visit : Visit τ} {t : Nat}

/-! ### One command -/

/-- **A visit is where direct execution within the index requested ends.** The end of execution
is known afterwards if that execution reports it, and otherwise if it was known before. -/
theorem perform_lands (pure : e.AnswersBy f) (faithful : s.Faithful f initial)
    (answered : (s.perform e engine c).answer = .ok (.visit visit)) :
    ∃ d, Finishes f initial visit.requested (.ok d) ∧ visit.index = d.steps ∧
      visit.state = d.state ∧
      (s.perform e engine c).session.terminal =
        if d.terminated then some d.steps else s.terminal := by
  have done := s.perform_comesTo e engine c
  generalize s.perform e engine c = o at done answered ⊢
  cases done with
  | @navigated _ k requested =>
    have finishes := Engine.run_finishes pure k initial engine
    obtain ⟨answer, facade⟩ := s.navigate_finishes pure faithful finishes engine
    rw [map_visit_eq_ok.1 answered] at answer
    cases outcome : (e.run k initial engine).1 with
    | error error =>
      rw [outcome] at answer
      cases answer
    | ok d =>
      rw [outcome] at answer facade finishes
      obtain rfl := Except.ok.inj answer
      exact ⟨d, finishes, rfl, rfl, congrArg Facade.terminal facade⟩
  | overflowed => cases answered
  | told =>
    -- the cursor stands where direct execution within its own index ends
    cases answered
    exact ⟨⟨s.cursor, s.current, false⟩, .spent faithful.grounded.cursor, rfl, rfl, rfl⟩
  | verified upTo => exact absurd answered map_report_ne_visit

/-- A command that answers with no visit learns of no end. -/
theorem perform_terminal_of_not_visit (pure : e.AnswersBy f) (faithful : s.Faithful f initial)
    (unvisited : ∀ visit, (s.perform e engine c).answer ≠ .ok (.visit visit)) :
    (s.perform e engine c).session.terminal = s.terminal := by
  have done := s.perform_comesTo e engine c
  generalize s.perform e engine c = o at done unvisited ⊢
  cases done with
  | @navigated _ k requested =>
    have finishes := Engine.run_finishes pure k initial engine
    obtain ⟨answer, facade⟩ := s.navigate_finishes pure faithful finishes engine
    cases outcome : (e.run k initial engine).1 with
    | error error =>
      rw [outcome] at facade
      exact congrArg Facade.terminal facade
    | ok d =>
      rw [outcome] at answer
      exact absurd (map_visit_eq_ok.2 answer) (unvisited _)
  | overflowed => rfl
  | told => exact absurd rfl (unvisited s.position)
  | verified upTo => exact congrArg History.terminal (s.verify_frame e upTo engine).1

/-- **A command makes the end known** exactly by a visit that was requested past it. -/
theorem perform_terminal_iff (pure : e.AnswersBy f) (faithful : s.Faithful f initial) :
    (s.perform e engine c).session.terminal = some t ↔
      s.terminal = some t ∨ Halts f initial t ∧
        ∃ visit, (s.perform e engine c).answer = .ok (.visit visit) ∧ t < visit.requested := by
  by_cases visited : ∃ visit, (s.perform e engine c).answer = .ok (.visit visit)
  · obtain ⟨visit, answered⟩ := visited
    obtain ⟨d, finishes, -, -, terminal⟩ := perform_lands pure faithful answered
    rw [terminal]
    constructor
    · intro known
      split at known
      · next terminated =>
        obtain ⟨halts, within⟩ :=
          finishes.terminated_iff.1 ⟨terminated, Option.some.inj known⟩
        exact .inr ⟨halts, visit, answered, within⟩
      · exact .inl known
    · rintro (known | ⟨halts, visit', answered', within⟩)
      · split
        · next terminated =>
          -- execution halts in one place, so the end met is the end known
          have met := (finishes.terminated_iff.1 ⟨terminated, rfl⟩).1
          rw [met.unique (faithful.halts known)]
        · exact known
      · rw [answered] at answered'
        obtain rfl := Answer.visit.inj (Except.ok.inj answered')
        obtain ⟨terminated, steps⟩ := finishes.terminated_iff.2 ⟨halts, within⟩
        rw [if_pos terminated, steps]
  · have unvisited := not_exists.1 visited
    rw [perform_terminal_of_not_visit pure faithful unvisited]
    constructor
    · exact .inl
    · rintro (known | ⟨-, visit, answered, -⟩)
      · exact known
      · exact absurd answered (unvisited visit)

/-! ### Runs -/

/-- **A run makes the end known** exactly by a visit that was requested past it. -/
theorem performAll_terminal_iff (pure : e.AnswersBy f) (faithful : s.Faithful f initial)
    (cs : List Command) :
    (s.performAll e engine cs).session.terminal = some t ↔
      s.terminal = some t ∨ Halts f initial t ∧
        ∃ visit, .ok (.visit visit) ∈ (s.performAll e engine cs).answers ∧
          t < visit.requested := by
  induction cs generalizing s engine with
  | nil => simp
  | cons c rest ih =>
    rw [performAll_cons]
    dsimp only
    rw [ih (perform_faithful pure faithful engine c), perform_terminal_iff pure faithful]
    constructor
    · rintro ((known | ⟨halts, visit, answered, past⟩) | ⟨halts, visit, answered, past⟩)
      · exact .inl known
      · exact .inr ⟨halts, visit, List.mem_cons.2 (.inl answered.symm), past⟩
      · exact .inr ⟨halts, visit, List.mem_cons_of_mem _ answered, past⟩
    · rintro (known | ⟨halts, visit, answered, past⟩)
      · exact .inl (.inl known)
      · rcases List.mem_cons.1 answered with first | later
        · exact .inl (.inr ⟨halts, visit, first.symm, past⟩)
        · exact .inr ⟨halts, visit, later, past⟩

/-- **The flags of a visit follow the requests.** In every run of a session over a pure engine:
the end of execution is known to be at an index exactly if direct execution halts there and some
visit so far was requested past it; a position counts as a visit where the cursor stands, and so is
past no end. Whatever command comes next, if it answers with a visit,
then the visit is flagged as the end exactly if direct execution halts at its index and that
visit, or an earlier one, was requested past it; and it stopped early exactly if direct execution
halts before the index requested, in which case it is flagged as the end. -/
theorem end_flags_follow_requests (pure : e.AnswersBy f) (initial : τ) (config : Config)
    (engine : σ) (cs : List Command) :
    let run := (start initial config).performAll e engine cs
    (∀ t, run.session.terminal = some t ↔
      e.HaltsAt initial engine t ∧
        ∃ visit, .ok (.visit visit) ∈ run.answers ∧ t < visit.requested) ∧
    ∀ c visit, (run.session.perform e run.engine c).answer = .ok (.visit visit) →
      (visit.terminated = true ↔
        e.HaltsAt initial engine visit.index ∧
          (visit.index < visit.requested ∨
            ∃ earlier, .ok (.visit earlier) ∈ run.answers ∧ visit.index < earlier.requested)) ∧
      (visit.stoppedEarly = true ↔ ∃ t, t < visit.requested ∧ e.HaltsAt initial engine t) ∧
      (visit.stoppedEarly = true → visit.terminated = true) := by
  intro run
  have faithful : run.session.Faithful f initial :=
    performAll_faithful pure (start_faithful f initial config) engine cs
  have known_iff : ∀ t, run.session.terminal = some t ↔
      Halts f initial t ∧ ∃ visit, .ok (.visit visit) ∈ run.answers ∧ t < visit.requested := by
    intro t
    have unknown : (start initial config).terminal ≠ some t := nofun
    rw [performAll_terminal_iff pure (start_faithful f initial config) cs]
    exact or_iff_right unknown
  refine ⟨fun t => (known_iff t).trans (and_congr_left' (Engine.haltsAt_iff pure).symm), ?_⟩
  intro c visit answered
  obtain ⟨d, finishes, index, -, -⟩ := perform_lands pure faithful answered
  have flag : visit.terminated =
      ((run.session.perform e run.engine c).session.terminal == some visit.index) := by
    have told := perform_visit answered
    have there : visit.index = (run.session.perform e run.engine c).session.current :=
      congrArg Visit.index told
    rw [there]
    exact congrArg Visit.terminated told
  have terminated_iff : visit.terminated = true ↔ Halts f initial visit.index ∧
      (visit.index < visit.requested ∨
        ∃ earlier, .ok (.visit earlier) ∈ run.answers ∧ visit.index < earlier.requested) := by
    rw [flag, beq_iff_eq, perform_terminal_iff pure faithful, known_iff, ← and_or_left, or_comm]
    refine and_congr_right' (or_congr_left ?_)
    constructor
    · rintro ⟨visit', answered', past⟩
      rw [answered] at answered'
      obtain rfl := Answer.visit.inj (Except.ok.inj answered')
      exact past
    · exact fun past => ⟨visit, answered, past⟩
  have early_iff : visit.stoppedEarly = true ↔ d.terminated = true := by
    rw [Visit.stoppedEarly, decide_eq_true_iff, index, finishes.lt_iff]
  refine ⟨?_, ?_, ?_⟩
  · rw [terminated_iff, Engine.haltsAt_iff pure]
  · rw [early_iff]
    constructor
    · intro terminated
      obtain ⟨halts, within⟩ := finishes.terminated_iff.1 ⟨terminated, rfl⟩
      exact ⟨d.steps, within, (Engine.haltsAt_iff pure).2 halts⟩
    · rintro ⟨t, within, halts⟩
      exact (finishes.terminated_iff.2 ⟨(Engine.haltsAt_iff pure).1 halts, within⟩).1
  · intro early
    obtain ⟨halts, within⟩ := finishes.terminated_iff.1 ⟨early_iff.1 early, rfl⟩
    rw [← index] at halts within
    exact terminated_iff.2 ⟨halts, .inl within⟩

/-- A countdown from three lands on its last term without being told that it is the last. One
step more is answered with the end, and so is every later visit there. -/
theorem end_flags_follow_requests_in_countdown :
    let run := (start 3 {}).performAll (Engine.ofFn countdown) () [.jump 3, .step 1, .back 2]
    let again := run.session.perform (Engine.ofFn countdown) run.engine (.jump 3)
    run.answers = [.ok (.visit ⟨0, 3, 3, false⟩), .ok (.visit ⟨0, 3, 4, true⟩),
        .ok (.visit ⟨2, 1, 1, false⟩)] ∧
      again.answer = .ok (.visit ⟨0, 3, 3, true⟩) ∧
      (Engine.ofFn countdown).HaltsAt 3 () 3 ∧
      ∃ earlier, .ok (.visit earlier) ∈ run.answers ∧ 3 < earlier.requested := by
  intro run again
  obtain ⟨terminated_iff, -, -⟩ := (end_flags_follow_requests (Engine.ofFn_answersBy countdown) 3
    {} () [.jump 3, .step 1, .back 2]).2 (.jump 3) ⟨0, 3, 3, true⟩ rfl
  obtain ⟨halts, past⟩ := terminated_iff.1 rfl
  exact ⟨rfl, rfl, halts, past.resolve_left (Nat.lt_irrefl 3)⟩

end Session

end Retrace
