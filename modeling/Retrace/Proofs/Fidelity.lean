import Retrace.Proofs.Alarm
import Retrace.Proofs.Verification

/-!
# Sessions over a pure engine

If the engine is a function of the term and every term equals itself, a session is as
good as direct execution: whatever was recorded, evicted or left half-done before, a
navigation lands exactly where direct execution from the initial term lands, and it
fails exactly if direct execution fails, with the same error.

## Main definitions

* `Facade` — what a session shows of itself, apart from what it retains.
* `Facade.landing` — the answer of a navigation and the facade after it, as a function of
  the facade before and of the outcome of direct execution.
* `Session.Faithful` — a usable session whose history rests on the answers of a function.

## Main statements

* `Waypoint.Stop.finishes` — a replay of a faithful history ends as direct execution
  does.
* `Session.verify_unviolated` — a verification of a faithful history finds no contradiction.
* `Session.navigate_finishes` — a navigation of a faithful session lands as `Facade.landing`
  says.
* `Session.performAll_faithful` — no command spoils a faithful session.

What is load-bearing is that the facade after a navigation depends on the facade before
and on direct execution alone. What the history retains does not enter.
-/

namespace Retrace

universe u v w

variable {σ : Type w} {τ : Type u} {ε : Type v}

/-! ### What a session shows -/

/-- **What a session shows of itself,** apart from what it retains and how much of its
navigating it had to replay. -/
structure Facade (τ : Type u) where
  /-- The step index of the cursor. -/
  current : Nat
  /-- The term at the cursor. -/
  cursor : τ
  /-- Where execution is known to end. -/
  terminal : Option Nat
  /-- The index of the contradiction that made the session unusable. -/
  poisoned : Option Nat
  /-- Completed navigations. -/
  navigations : Nat
  /-- Steps answered to verifications. -/
  verifiedSteps : Nat

/-- The facade of a session. -/
def Session.facade (s : Session τ) : Facade τ where
  current := s.current
  cursor := s.cursor
  terminal := s.terminal
  poisoned := s.poisoned
  navigations := s.stats.navigations
  verifiedSteps := s.stats.verifiedSteps

/-- The facade after landing where direct execution ended. -/
def Facade.land (v : Facade τ) (d : Execution τ) : Facade τ :=
  { v with
    current := d.steps
    cursor := d.state
    terminal := if d.terminated then some d.steps else v.terminal
    navigations := v.navigations + 1 }

/-- **What a navigation answers and then shows** that requests `k`, if direct execution
within `k` has the given outcome. -/
def Facade.landing (v : Facade τ) (k : Nat) :
    Except ε (Execution τ) → Except (SessionError ε) (Visit τ) × Facade τ
  | .ok d => (.ok ⟨d.state, d.steps, k, (v.land d).terminal == some d.steps⟩, v.land d)
  | .error error => (.error (.engine error), v)

/-! ### Replays -/

namespace Waypoint

variable [BEq τ] [ReflBEq τ] {e : Engine σ τ ε} {target : Nat} {w : Waypoint σ τ}

variable {f : τ → Reply τ ε} {initial : τ} {r : Replay σ τ ε} {h₀ : History τ}

/-- **A replay of a faithful history ends as direct execution does:** no answer of a
function contradicts what was recorded on its word. -/
theorem Stop.finishes (pure : e.AnswersBy f) (stop : w.Stop e target r)
    (route : w.EnRoute h₀ target) (grounded : w.Grounded (fun _ x r => f x = r) initial) :
    (∃ d h, Finishes f initial target (.ok d) ∧ d.steps = w.index ∧ d.state = w.state ∧
        r = ⟨.ok (w.index, w.state), h, r.engine⟩ ∧
        h.terminal = if d.terminated then some d.steps else w.history.terminal) ∨
      ∃ error, Finishes f initial target (.error error) ∧
        r = ⟨.error (.failed error), w.history, r.engine⟩ := by
  cases stop with
  | arrived there =>
    refine .inl ⟨⟨w.state, w.index, false⟩, w.history, ?_, rfl, rfl, rfl, rfl⟩
    have reached := grounded.reached
    rw [there] at reached ⊢
    exact .spent reached
  | ended before answer accepted =>
    rw [pure] at answer
    refine .inl ⟨⟨w.state, w.index, true⟩, _, .halted before grounded.reached answer,
      rfl, rfl, rfl, ?_⟩
    obtain ⟨-, -, rfl⟩ := History.markTerminal_eq_ok_iff.1 accepted
    rfl
  | @endRefused cause before answer refused =>
    have unrefused := (Stop.endRefused before answer refused).selfContradicts pure.ledger route
      grounded (Engine.rightUnique_of_fn f)
    exact absurd unrefused (History.not_selfContradicts _ cause)
  | termRefused before answer refused => exact absurd refused (route.not_termRefused before)
  | @failed error before answer =>
    rw [pure] at answer
    exact .inr ⟨error, .failed before grounded.reached answer, rfl⟩

end Waypoint

/-! ### Sessions -/

namespace Session

/-- **A faithful session** is usable, and all that it recorded it has on the word of `f`. -/
structure Faithful (f : τ → Reply τ ε) (initial : τ) (s : Session τ) : Prop where
  grounded : s.Grounded (fun x r => f x = r) initial
  wellFormed : s.history.WellFormed
  usable : s.poisoned = none

theorem start_faithful (f : τ → Reply τ ε) (initial : τ) (config : Config) :
    (start initial config).Faithful f initial where
  grounded := start_grounded _ initial config
  wellFormed := History.new_wellFormed initial config.retention
  usable := rfl

/-- A faithful session knows of no end but the one where execution halts. -/
theorem Faithful.halts {f : τ → Reply τ ε} {initial : τ} {s : Session τ}
    (faithful : s.Faithful f initial) {t : Nat} (known : s.terminal = some t) :
    Halts f initial t := by
  obtain ⟨x, recorded, halted⟩ := faithful.grounded.history.terminal t known
  exact ⟨x, faithful.grounded.history.entry t x recorded, halted⟩

/-- Past the index a request is limited to, execution has ended. -/
theorem Faithful.clamp_eq_or {f : τ → Reply τ ε} {initial : τ} {s : Session τ}
    (faithful : s.Faithful f initial) (k : Nat) :
    s.history.clamp k = k ∨ ∃ x, s.history.terminal = some (s.history.clamp k) ∧
      Reaches (fun x r => f x = r) initial (s.history.clamp k) x ∧ f x = .halted ∧
      s.history.clamp k < k := by
  rcases s.history.clamp_eq_or k with same | ⟨t, ht, rfl, hlt⟩
  · exact .inl same
  · obtain ⟨x, reached, halted⟩ := faithful.halts ht
    exact .inr ⟨x, ht, reached, halted, hlt⟩

/-- **To ask for more than there is lands at the end:** direct execution within the limited
index gives the same answer and the same facade as within the index requested. -/
theorem Faithful.landing_clamp {f : τ → Reply τ ε} {initial : τ} {s : Session τ}
    (faithful : s.Faithful f initial) {k : Nat} {outcome limited : Except ε (Execution τ)}
    (finishes : Finishes f initial k outcome)
    (clamped : Finishes f initial (s.history.clamp k) limited) :
    s.facade.landing k outcome = s.facade.landing k limited := by
  rcases faithful.clamp_eq_or k with same | ⟨x, known, reached, halted, hlt⟩
  · rw [same] at clamped
    rw [finishes.unique clamped]
  · obtain rfl := clamped.unique (.spent reached)
    obtain rfl := finishes.unique (.halted hlt reached halted)
    -- the shorter execution does not see the end, but the facade shows it already
    have shown : s.facade.terminal = some (s.history.clamp k) := known
    simp only [Facade.landing, Facade.land, shown, Bool.false_eq_true, if_true, if_false]

variable [BEq τ] [ReflBEq τ] {e : Engine σ τ ε} {f : τ → Reply τ ε} {initial : τ}
  {s : Session τ}

/-- **A navigation ends as direct execution does,** and shows nothing besides. -/
theorem navigate_finishes (pure : e.AnswersBy f) (faithful : s.Faithful f initial) {k : Nat}
    {outcome : Except ε (Execution τ)} (finishes : Finishes f initial k outcome) (engine : σ) :
    (s.navigate e k engine).answer = (s.facade.landing k outcome).1 ∧
      (s.navigate e k engine).session.facade = (s.facade.landing k outcome).2 := by
  obtain ⟨w, walk, lands⟩ := s.navigate_lands e faithful.usable k engine
  have grounded := walk.grounded pure.ledger
    (Waypoint.nearest_grounded faithful.grounded.history (s.history.clamp k))
  have route := enRoute_of_passes walk
  have unmarked : w.history.terminal = s.history.terminal := route.terminal
  generalize s.navigate e k engine = o at lands ⊢
  cases lands with
  | stopped stop =>
    rcases stop.finishes pure route grounded with
      ⟨d, h, -, -, -, impossible, -⟩ | ⟨error, clamped, left⟩
    · cases impossible
    · cases left
      rw [faithful.landing_clamp finishes clamped]
      refine ⟨rfl, ?_⟩
      show Facade.mk _ _ w.history.terminal _ _ _ = s.facade
      rw [unmarked]
      rfl
  | refused stop contradicted =>
    obtain ⟨h', pinned⟩ := stop.pin_isOk route
    rw [pinned] at contradicted
    cases contradicted
  | @moved h h' _ stop pinned =>
    have hpinned : h'.terminal = h.terminal := by
      obtain ⟨-, rfl⟩ := History.pin_eq_ok_iff.1 pinned
      rw [History.moveCursor_terminal, History.hold_terminal]
    rcases stop.finishes pure route grounded with
      ⟨d, h₁, clamped, hsteps, hstate, left, hterminal⟩ | ⟨error, -, impossible⟩
    · cases left
      have shown : s.facade.land d =
          { s.facade with
            current := w.index
            cursor := w.state
            terminal := h'.terminal
            navigations := s.facade.navigations + 1 } := by
        rw [hpinned, hterminal, unmarked, ← hsteps, ← hstate]
        rfl
      rw [faithful.landing_clamp finishes clamped, Facade.landing, shown, hsteps, hstate]
      exact ⟨rfl, rfl⟩
    · cases impossible

theorem navigate_faithful (pure : e.AnswersBy f) (faithful : s.Faithful f initial) (k : Nat)
    (engine : σ) : (s.navigate e k engine).session.Faithful f initial where
  grounded := (navigate_grounded pure.ledger faithful.grounded k).1
  wellFormed := navigate_wellFormed e faithful.wellFormed k engine
  usable := by
    have landed := s.navigate_finishes pure faithful (Engine.run_finishes pure k initial engine)
      engine
    show (s.navigate e k engine).session.facade.poisoned = none
    rw [landed.2]
    cases (e.run k initial engine).1 with
    | ok d => exact faithful.usable
    | error error => exact faithful.usable

/-- **A verification of a faithful session finds no contradiction.** -/
theorem verify_unviolated (pure : e.AnswersBy f) (faithful : s.Faithful f initial) (upTo : Nat)
    (engine : σ) : violation? (s.verify e upTo engine).answer = none := by
  have unviolated : violation? (s.perform e engine (.verify upTo)).answer = none :=
    perform_unviolated pure.ledger faithful.grounded (.verify upTo) (Engine.rightUnique_of_fn f)
  rwa [perform, violation?_map] at unviolated

/-- **A verification of a faithful session counts its calls and changes nothing else.** -/
theorem verify_counts (pure : e.AnswersBy f) (faithful : s.Faithful f initial) (upTo : Nat)
    (engine : σ) :
    ∃ n, Verdict f s.history (s.history.clamp upTo) (s.verify e upTo engine).answer n ∧
      (s.verify e upTo engine).session = { s with stats := s.stats.recordVerification n } := by
  obtain ⟨n, verdict, after⟩ :=
    s.verify_verdict pure faithful.usable faithful.wellFormed upTo engine
  refine ⟨n, verdict, ?_⟩
  rw [after, s.verify_unviolated pure faithful, ← faithful.usable]

theorem verify_faithful (pure : e.AnswersBy f) (faithful : s.Faithful f initial) (upTo : Nat)
    (engine : σ) : (s.verify e upTo engine).session.Faithful f initial := by
  obtain ⟨n, -, after⟩ := s.verify_counts pure faithful upTo engine
  rw [after]
  exact ⟨⟨faithful.grounded.history, faithful.grounded.cursor⟩, faithful.wellFormed,
    faithful.usable⟩

theorem perform_faithful (pure : e.AnswersBy f) (faithful : s.Faithful f initial)
    (engine : σ) (c : Command) : (s.perform e engine c).session.Faithful f initial :=
  perform_preserves (I := fun s _ => s.Faithful f initial)
    (fun _ engine k _ faithful => navigate_faithful pure faithful k engine)
    (fun _ engine upTo _ faithful => verify_faithful pure faithful upTo engine) faithful c

/-- **No command spoils a faithful session,** whether it succeeds or fails. -/
theorem performAll_faithful (pure : e.AnswersBy f) (faithful : s.Faithful f initial)
    (engine : σ) (cs : List Command) : (s.performAll e engine cs).session.Faithful f initial :=
  performAll_preserves (I := fun s _ => s.Faithful f initial)
    (fun _ engine c faithful => perform_faithful pure faithful engine c) faithful cs

/-- **No command to a faithful session reports a contradiction.** -/
theorem performAll_unviolated (pure : e.AnswersBy f) (faithful : s.Faithful f initial)
    (engine : σ) (cs : List Command) :
    ∀ answer ∈ (s.performAll e engine cs).answers, violation? answer = none := by
  induction cs generalizing s engine with
  | nil => exact nofun
  | cons c rest ih =>
    intro answer hmem
    rw [performAll_cons] at hmem
    rcases List.mem_cons.1 hmem with rfl | hmem
    · exact perform_unviolated pure.ledger faithful.grounded c (Engine.rightUnique_of_fn f)
    · exact ih (perform_faithful pure faithful engine c) _ answer hmem

/-- **Every navigation agrees with direct execution.** Whatever a session over a pure
engine was told before, a command that requests an index lands where direct execution
within that index ends, and it fails exactly if direct execution fails, with the same
error. -/
theorem navigation_agrees_with_run (pure : e.AnswersBy f) (initial : τ) (config : Config)
    (engine : σ) (cs : List Command) (c : Command) (k : Nat) :
    let before := (start initial config).performAll e engine cs
    let after := before.session.perform e before.engine c
    before.session.requested? c = some k →
      match (e.run k initial engine).1 with
      | .ok d =>
        (∃ visit, after.answer = .ok (.visit visit) ∧ visit.state = d.state ∧
          visit.index = d.steps ∧ visit.requested = k ∧
          (d.terminated = true → visit.terminated = true)) ∧
        after.session.cursor = d.state ∧ after.session.current = d.steps
      | .error error => after.answer = .error (.engine error) := by
  intro before after requested
  have faithful : before.session.Faithful f initial :=
    performAll_faithful pure (start_faithful f initial config) engine cs
  have landed := before.session.navigate_finishes pure faithful
    (Engine.run_finishes pure k initial engine) before.engine
  have navigates : after = (before.session.navigate e k before.engine).map .visit :=
    perform_of_requested e requested before.engine
  have hanswer : after.answer =
      (before.session.facade.landing k (e.run k initial engine).1).1.map .visit := by
    rw [navigates, ← landed.1]
    rfl
  have hfacade : after.session.facade =
      (before.session.facade.landing k (e.run k initial engine).1).2 := by
    rw [navigates, ← landed.2]
    rfl
  cases hrun : (e.run k initial engine).1 with
  | ok d =>
    rw [hrun] at hanswer hfacade
    refine ⟨⟨_, hanswer, rfl, rfl, rfl, ?_⟩, congrArg Facade.cursor hfacade,
      congrArg Facade.current hfacade⟩
    intro terminated
    rw [Facade.land, terminated]
    exact beq_self_eq_true _
  | error error =>
    rw [hrun] at hanswer
    exact hanswer

/-- A step past the end of a countdown from three, taken after a jump and a step back,
lands on the end. -/
theorem step_past_end_agrees_with_run :
    let before := (start 3 {}).performAll (Engine.ofFn countdown) () [.jump 2, .back 1]
    let after := before.session.perform (Engine.ofFn countdown) before.engine (.step 5)
    before.session.requested? (.step 5) = some 6 ∧
      ∃ visit, after.answer = .ok (.visit visit) ∧ visit.state = 0 ∧ visit.index = 3 ∧
        visit.requested = 6 ∧ visit.terminated = true := by
  intro before after
  have requested : before.session.requested? (.step 5) = some 6 := rfl
  have agrees := navigation_agrees_with_run (Engine.ofFn_answersBy countdown) 3 {} ()
    [.jump 2, .back 1] (.step 5) 6 requested
  obtain ⟨⟨visit, answer, state, index, asked, terminated⟩, -⟩ := agrees
  exact ⟨requested, visit, answer, state, index, asked, terminated rfl⟩

end Session

end Retrace
