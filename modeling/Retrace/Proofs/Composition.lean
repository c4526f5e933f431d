import Retrace.Proofs.Flags
import Retrace.Proofs.Survey

/-!
# Steps compose

Over a pure engine it makes no difference whether a stretch is stepped in one go or with a stop on
the way. The stop moves the cursor, may let go of the entry that the cursor left, and may come upon
the end of execution; and after the second step nothing of that is left to see, neither in what is
answered nor in what is recorded.

## Main statements

* `Session.Surveyed.detour` — a navigation with a stop on the way leads where it leads without one,
  and leaves the same history.
* `Session.steps_compose` — two steps forward are one, and a step back undoes a step forward that
  stays within the execution.

A step is counted from where the cursor is. So if the stop is at the end of execution, short of
where it was to be, then the second step requests a smaller index than the whole one; it leads to
the end as well.
-/

namespace Retrace

universe u v w

variable {σ : Type w} {τ : Type u} {ε : Type v}

namespace Session

variable [BEq τ] [ReflBEq τ] {e : Engine σ τ ε} {f : τ → Reply τ ε} {initial : τ}
  {retention : Retention} {furthest : Nat} {s : Session τ}

/-- **A stop on the way leaves no trace.** -/
theorem Surveyed.detour (pure : e.AnswersBy f)
    (surveyed : s.Surveyed f initial retention furthest) {m n : Nat} {d : Execution τ}
    (finishes : Finishes f initial (m + n) (.ok d)) (engine engine' : σ) :
    let whole := s.navigate e (m + n) engine
    let first := s.navigate e m engine
    let k := first.session.current + n
    let second := first.session.navigate e k engine'
    first.session.current ≤ m ∧
      first.answer = .ok { first.session.position with requested := m } ∧
      second.answer = .ok { second.session.position with requested := k } ∧
      second.session.position = whole.session.position ∧
      second.session.history = whole.session.history := by
  intro whole first k second
  obtain ⟨d₁, finishes₁⟩ := finishes.exists_ok_of_le (Nat.le_add_right m n)
  obtain ⟨answer₁, current₁, -, terminal₁, surveyed₁⟩ := surveyed.navigate pure finishes₁ engine
  have short : first.session.current ≤ m := current₁ ▸ finishes₁.steps_le
  obtain ⟨d₂, finishes₂⟩ := finishes.exists_ok_of_le (Nat.add_le_add_right short n)
  obtain ⟨answer₂, current₂, -, terminal₂, surveyed₂⟩ := surveyed₁.navigate pure finishes₂ engine'
  obtain ⟨-, current, -, terminal, surveyed'⟩ := surveyed.navigate pure finishes engine
  -- the end of the whole execution is the end of the second one
  have onward : Finishes f initial (d₁.steps + n) (.ok d₂) := current₁ ▸ finishes₂
  obtain ⟨d', finishes', steps, -, ended⟩ := finishes₁.resume onward
  obtain rfl := Except.ok.inj (finishes.unique finishes')
  have same_current : second.session.current = whole.session.current := by
    rw [current₂, current, steps]
  have same_terminal : second.session.terminal = whole.session.terminal := by
    rw [terminal₂, terminal, terminal₁, ended]
  have forward : d₁.steps ≤ d₂.steps := onward.le_steps (Nat.le_add_right _ n) finishes₁.reached
  rw [Nat.max_assoc, Nat.max_eq_right forward, ← steps] at surveyed₂
  obtain ⟨same_position, same_history⟩ := surveyed₂.unique surveyed' same_current same_terminal
  exact ⟨short, answer₁, answer₂, same_position, same_history⟩

/-- **A step that stays within the execution** arrives, and a step back of the same length returns
to where it came from. -/
theorem Surveyed.round_trip (pure : e.AnswersBy f)
    (surveyed : s.Surveyed f initial retention furthest) {n : Nat} {d : Execution τ}
    (finishes : Finishes f initial (s.current + n) (.ok d))
    (unhalted : ∀ t, Halts f initial t → s.current + n ≤ t) (engine engine' : σ) :
    let first := s.navigate e (s.current + n) engine
    let returned := first.session.navigate e (first.session.current - n) engine'
    first.session.current = s.current + n ∧
      returned.answer = .ok { returned.session.position with requested := s.current } ∧
      returned.session.current = s.current ∧ returned.session.cursor = s.cursor := by
  intro first returned
  obtain ⟨-, current, -, -, surveyed'⟩ := surveyed.navigate pure finishes engine
  have arrived : d.steps = s.current + n := by
    refine Nat.le_antisymm finishes.steps_le (Nat.le_of_not_lt fun short => ?_)
    have halts := (finishes.terminated_iff.1 ⟨finishes.lt_iff.1 short, rfl⟩).1
    exact absurd short (Nat.not_lt_of_le (unhalted _ halts))
  rw [arrived] at current
  have back : first.session.current - n = s.current := by
    rw [current, Nat.add_sub_cancel]
  -- the cursor stood where direct execution within its own index ends
  have before : Finishes f initial s.current (.ok ⟨s.cursor, s.current, false⟩) :=
    .spent surveyed.faithful.grounded.cursor
  rw [← back] at before
  obtain ⟨answer, there, cursor, -⟩ := surveyed'.navigate pure before engine'
  refine ⟨current, ?_, there.trans back, cursor⟩
  rw [← back]
  exact answer

/-- **Steps compose, in what they answer and in what they leave behind.** In every run of a session
over a pure engine and terms that equal themselves: if a step forward by `a + b` is answered with a
visit, then so are a step by `a` and a step by `b` after it; the second visit is that of the whole
step but for the index requested, and the sessions then have the same cursor and the same history,
whose end of execution, pinned index and entries are therefore the same. If the first step does not
go past where execution halts, then the index requested is the same too, and a step back by `a`
instead of the second one returns to the index and the term of the cursor before. -/
theorem steps_compose (pure : e.AnswersBy f) (initial : τ) (config : Config) (engine : σ)
    (cs : List Command) (a b : Nat) (visit : Visit τ) :
    let before := (start initial config).performAll e engine cs
    let s := before.session
    let whole := s.perform e before.engine (.step (a + b))
    let first := s.perform e before.engine (.step a)
    let second := first.session.perform e first.engine (.step b)
    let returned := first.session.perform e first.engine (.back a)
    s.current + a + b ≤ Index.maxIndex → whole.answer = .ok (.visit visit) →
      ∃ visit₁ visit₂, first.answer = .ok (.visit visit₁) ∧ second.answer = .ok (.visit visit₂) ∧
        visit₂ = { visit with requested := visit₂.requested } ∧
        second.session.current = whole.session.current ∧
        second.session.cursor = whole.session.cursor ∧
        second.session.history = whole.session.history ∧
        ((∀ t, e.HaltsAt initial engine t → s.current + a ≤ t) →
          visit₂ = visit ∧
          ∃ visit₀, returned.answer = .ok (.visit visit₀) ∧
            visit₀.index = s.current ∧ visit₀.state = s.cursor ∧
            returned.session.current = s.current ∧ returned.session.cursor = s.cursor) := by
  intro before s whole first second returned bounded answered
  have surveyed := performAll_surveyed pure initial config engine cs
  change s.Surveyed f initial _ _ at surveyed
  have requested : s.requested? (.step (a + b)) = some (s.current + a + b) := by
    rw [Nat.add_assoc] at bounded ⊢
    exact requested?_step bounded
  have navigates : whole = (s.navigate e (s.current + a + b) before.engine).map .visit :=
    perform_of_requested e requested before.engine
  obtain ⟨d, finishes, -⟩ := perform_lands pure surveyed.faithful answered
  rw [navigates] at answered
  obtain rfl := navigate_visit (map_visit_eq_ok.1 answered)
  -- the stop on the way
  let stop := s.navigate e (s.current + a) before.engine
  have navigates₁ : first = stop.map .visit :=
    perform_of_requested e (requested?_step (Nat.le_trans (Nat.le_add_right _ b) bounded))
      before.engine
  obtain ⟨short, answer₁, answer₂, position, history⟩ :=
    surveyed.detour pure finishes before.engine stop.engine
  have navigates₂ : second =
      (stop.session.navigate e (stop.session.current + b) stop.engine).map .visit := by
    show first.session.perform e first.engine (.step b) = _
    rw [navigates₁]
    exact perform_of_requested e
      (requested?_step (Nat.le_trans (Nat.add_le_add_right short b) bounded)) stop.engine
  have navigates₀ : returned =
      (stop.session.navigate e (stop.session.current - a) stop.engine).map .visit := by
    show first.session.perform e first.engine (.back a) = _
    rw [navigates₁]
    rfl
  rw [navigates, navigates₁, navigates₂, navigates₀]
  refine ⟨_, _, map_visit_eq_ok.2 answer₁, map_visit_eq_ok.2 answer₂, ?_,
    congrArg Visit.index position, congrArg Visit.state position, history, fun unhalted => ?_⟩
  · rw [position]
  · have unhalted' : ∀ t, Halts f initial t → s.current + a ≤ t := fun t halts =>
      unhalted t ((Engine.haltsAt_iff pure).2 halts)
    obtain ⟨d₁, finishes₁⟩ := finishes.exists_ok_of_le (Nat.le_add_right (s.current + a) b)
    obtain ⟨arrived, answer₀, there, cursor⟩ :=
      surveyed.round_trip pure finishes₁ unhalted' before.engine stop.engine
    refine ⟨?_, _, map_visit_eq_ok.2 answer₀, there, cursor, there, cursor⟩
    show { Session.position _ with requested := stop.session.current + b } =
      { Session.position _ with requested := s.current + a + b }
    rw [position, show stop.session.current = s.current + a from arrived]

/-- A countdown from five is stepped past its end, by way of index three and in one go. The stop
lets go of the entry at index one, and comes upon no end. -/
theorem steps_compose_in_countdown :
    let before := (start 5 { retention := .checkpoints 2 }).performAll (Engine.ofFn countdown) ()
      [.jump 1]
    let s := before.session
    let whole := s.perform (Engine.ofFn countdown) before.engine (.step 11)
    let first := s.perform (Engine.ofFn countdown) before.engine (.step 2)
    let second := first.session.perform (Engine.ofFn countdown) first.engine (.step 9)
    let returned := first.session.perform (Engine.ofFn countdown) first.engine (.back 2)
    whole.answer = .ok (.visit ⟨0, 5, 12, true⟩) ∧ first.answer = .ok (.visit ⟨2, 3, 3, false⟩) ∧
      second.answer = .ok (.visit ⟨0, 5, 12, true⟩) ∧
      second.session.history = whole.session.history ∧
      whole.session.history.entries = [(0, 5), (2, 3), (4, 1), (5, 0)] ∧
      returned.answer = .ok (.visit ⟨4, 1, 1, false⟩) ∧ returned.session.cursor = s.cursor := by
  obtain ⟨visit₁, visit₂, answer₁, answer₂, -, -, -, history, within⟩ :=
    steps_compose (Engine.ofFn_answersBy countdown) 5 { retention := .checkpoints 2 } () [.jump 1]
      2 9 ⟨0, 5, 12, true⟩ (by decide) rfl
  have unhalted : ∀ t, (Engine.ofFn countdown).HaltsAt 5 () t → 3 ≤ t := by
    intro t halts
    have pure : (Engine.ofFn countdown : Engine Unit Nat String).AnswersBy countdown :=
      Engine.ofFn_answersBy countdown
    have last : (Engine.ofFn countdown).HaltsAt 5 () 5 := ⟨0, rfl⟩
    obtain rfl := ((Engine.haltsAt_iff pure).1 halts).unique ((Engine.haltsAt_iff pure).1 last)
    decide
  obtain ⟨rfl, visit₀, answer₀, -, -, -, cursor⟩ := within unhalted
  exact ⟨rfl, rfl, answer₂, history, rfl, rfl, cursor⟩

end Session

end Retrace
