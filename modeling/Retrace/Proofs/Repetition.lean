import Retrace.Proofs.Calls
import Retrace.Proofs.Coherence

/-!
# Navigations repeated

Wherever a navigation led, it leads there again at no cost, and whatever the engine would answer
now: either the index requested is where the cursor is, or the end of execution was found before it
and the request is limited to where the cursor is. So the engine is not asked, and the cursor is
pinned where it is pinned already.

## Main statements

* `Session.navigate_clamp` — after a visit the index requested is limited to that of the cursor.
* `Session.navigate_here` — a navigation to the cursor changes the counters and nothing else.
* `Session.repeated_navigation_is_free` — what it takes to repeat a navigation, for every reachable
  session.
-/

namespace Retrace

universe u v w w'

variable {σ : Type w} {τ : Type u} {ε : Type v} [BEq τ]

namespace Session

variable {e : Engine σ τ ε} {s : Session τ} {engine : σ} {k : Nat}

/-- **After a visit the cursor is where the same request leads,** be it that the index requested
was reached or that execution ended before. -/
theorem navigate_clamp {visit : Visit τ} (landed : (s.navigate e k engine).answer = .ok visit) :
    (s.navigate e k engine).session.history.clamp k =
      (s.navigate e k engine).session.current := by
  obtain ⟨w, h, h', engine', walk, stop, pinned, -, after⟩ := navigate_moved landed
  have route := enRoute_of_passes walk
  obtain ⟨-, rfl⟩ := History.pin_eq_ok_iff.1 pinned
  rw [after, History.clamp, History.moveCursor_terminal, History.hold_terminal]
  cases stop with
  | arrived there =>
    rw [route.terminal]
    exact there.symm
  | ended before _ accepted =>
    obtain ⟨-, -, rfl⟩ := History.markTerminal_eq_ok_iff.1 accepted
    exact Nat.min_eq_right (Nat.le_trans (Nat.le_of_lt before) (s.history.clamp_le k))

/-- **A navigation to where the cursor is** answers with the position, asks nothing and changes the
counters only. -/
theorem navigate_here [ReflBEq τ] (usable : s.poisoned = none) (wf : s.history.WellFormed)
    (anchored : s.Anchored) (here : s.history.clamp k = s.current) (e : Engine σ τ ε)
    (engine : σ) :
    s.navigate e k engine =
      ⟨.ok { s.position with requested := k },
        { s with stats := s.stats.recordNavigation 0 }, engine⟩ := by
  have pinned : s.history.pin s.current s.cursor = .ok s.history := by
    have recorded := anchored.recorded
    rw [← anchored.pinned] at recorded ⊢
    exact History.pin_self wf recorded
  unfold navigate
  simp only [usable, here, History.nearest_of_recorded anchored.recorded, History.replay_zero,
    pinned, Nat.sub_self]
  rfl

/-- A session that answers with a visit is usable. -/
theorem navigate_usable {visit : Visit τ} (landed : (s.navigate e k engine).answer = .ok visit) :
    (s.navigate e k engine).session.poisoned = none := by
  cases poisoned : s.poisoned with
  | none =>
    rw [navigate_poisoned, landed, poisoned]
    rfl
  | some i =>
    rw [navigate_of_poisoned e poisoned] at landed
    cases landed

/-- **The same navigation again** answers the same, and any engine will do for it. -/
theorem navigate_again [ReflBEq τ] (wf : s.history.WellFormed) (anchored : s.Anchored)
    {visit : Visit τ} (landed : (s.navigate e k engine).answer = .ok visit) {σ' : Type w'}
    (e' : Engine σ' τ ε) (engine' : σ') :
    let after := (s.navigate e k engine).session
    after.navigate e' k engine' =
      ⟨.ok visit, { after with stats := after.stats.recordNavigation 0 }, engine'⟩ := by
  intro after
  rw [navigate_visit landed]
  exact navigate_here (navigate_usable landed) (navigate_wellFormed e wf k engine)
    (navigate_anchored anchored k) (navigate_clamp landed) e' engine'

/-- A command other than a question for the position that answers with a visit has navigated to the
index that it requested. -/
theorem perform_navigated {c : Command} {visit : Visit τ} (moves : c ≠ .position)
    (answered : (s.perform e engine c).answer = .ok (.visit visit)) :
    (s.navigate e visit.requested engine).answer = .ok visit ∧
      s.perform e engine c = (s.navigate e visit.requested engine).map .visit := by
  have done := s.perform_comesTo e engine c
  generalize s.perform e engine c = o at done answered ⊢
  cases done with
  | @navigated _ k =>
    have landed := map_visit_eq_ok.1 answered
    obtain rfl : visit.requested = k := congrArg Visit.requested (navigate_visit landed)
    exact ⟨landed, rfl⟩
  | overflowed => cases answered
  | told => exact absurd rfl moves
  | verified upTo => exact absurd answered map_report_ne_visit

/-- **The index that a command requested, requested again by a jump:** the command is answered as
before, and one more navigation is counted. -/
theorem perform_again [ReflBEq τ] (wf : s.history.WellFormed) (anchored : s.Anchored) {c : Command}
    {visit : Visit τ} (moves : c ≠ .position)
    (answered : (s.perform e engine c).answer = .ok (.visit visit)) {σ' : Type w'}
    (e' : Engine σ' τ ε) (engine' : σ') :
    let after := (s.perform e engine c).session
    after.perform e' engine' (.jump visit.requested) =
      ⟨.ok (.visit visit), { after with stats := after.stats.recordNavigation 0 }, engine'⟩ := by
  obtain ⟨landed, navigates⟩ := perform_navigated moves answered
  rw [navigates]
  exact congrArg (Outcome.map Answer.visit) (navigate_again wf anchored landed e' engine')

/-- **Repeating a navigation is free.** In every run of a session over any engine and terms that
equal themselves: if a command that moves the cursor answers with a visit, then a jump to the index
that it requested, right after it and over whichever engine, answers with the same visit. It makes
no call, and all that changes is that one more navigation is counted, and one more that replayed
nothing. -/
theorem repeated_navigation_is_free [ReflBEq τ] (e : Engine σ τ ε) (initial : τ) (config : Config)
    (engine : σ) (cs : List Command) (c : Command) (visit : Visit τ) {σ' : Type w'}
    (e' : Engine σ' τ ε) (engine' : σ') :
    let before := (start initial config).performAll e engine cs
    let after := before.session.perform e before.engine c
    let stats := after.session.stats
    let again := after.session.perform e' engine' (.jump visit.requested)
    c ≠ .position → after.answer = .ok (.visit visit) →
      again.answer = .ok (.visit visit) ∧
      after.session.calls e' engine' (.jump visit.requested) = [] ∧
      again.engine = engine' ∧
      again.session =
        { after.session with
          stats :=
            { stats with
              navigations := stats.navigations + 1
              cacheHits := stats.cacheHits + 1
              lastReplay := 0 } } := by
  intro before after stats again moves answered
  have wf : before.session.history.WellFormed := performAll_wellFormed e initial config engine cs
  have anchored : before.session.Anchored := performAll_anchored e initial config engine cs
  have repeated := perform_again wf anchored moves answered e' engine'
  have logged := perform_again wf anchored moves answered e'.logged (engine', [])
  exact ⟨congrArg Outcome.answer repeated, congrArg (fun o => o.engine.2) logged,
    congrArg Outcome.engine repeated, congrArg Outcome.session repeated⟩

/-- An engine that gives up after three calls is asked for index nine and ends execution at index
three; the same request is answered again, by an engine that would give up at once. -/
theorem repeated_navigation_is_free_for_tiring :
    let after := (start 0 { retention := .checkpoints 2 }).perform (Engine.tiring 3) 0 (.jump 9)
    let again := after.session.perform (Engine.tiring 0) 0 (.jump 9)
    after.answer = .ok (.visit ⟨3, 3, 9, true⟩) ∧ again.answer = .ok (.visit ⟨3, 3, 9, true⟩) ∧
      after.session.calls (Engine.tiring 0) 0 (.jump 9) = [] ∧
      again.session = { after.session with stats := ⟨2, 1, 3, 0, 0⟩ } := by
  intro after again
  obtain ⟨answer, calls, -, session⟩ := repeated_navigation_is_free (Engine.tiring 3) 0
    { retention := .checkpoints 2 } 0 [] (.jump 9) ⟨3, 3, 9, true⟩ (Engine.tiring 0) 0 nofun rfl
  exact ⟨rfl, answer, calls, session⟩

end Session

end Retrace
