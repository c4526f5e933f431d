import Retrace.Proofs.Calls
import Retrace.Proofs.Survey

/-!
# Failures of the engine

A replay that the engine fails on has been recording all the way to the failure. What a navigation
leaves behind then is the session as it was, with these entries added: the retained ones of the
terms that the engine produced before it failed, and nothing for the step on which it did. None of
it stands in the way of what comes next. Over a pure engine the same navigation fails again and adds
nothing, and everything up to the term that the engine fails on can still be visited.

## Main definitions

* `Session.BreaksOff` — how a command breaks off that the engine fails.

## Main statements

* `Waypoint.Passes.recorded_iff` — what a walk records.
* `Session.perform_breaksOff` — every command that the engine fails breaks off.
* `Session.Surveyed.fails_again` — over a pure engine it fails again, and changes nothing.
* `Session.engine_failure_adds_entries_only` — all of this, for every reachable session.
-/

namespace Retrace

universe u v w w'

variable {σ : Type w} {τ : Type u} {ε : Type v} [BEq τ]

/-! ### Replays -/

/-- **One recording where nothing is recorded** adds the term given, if the policy retains it. -/
theorem History.recorded_put_iff {h h' : History τ} {i j : Nat} {x y : τ} {fresh : Bool}
    (accepted : h.put i x = .ok (fresh, h')) (free : h.timeline.get? i = none) :
    h'.timeline.get? j = some y ↔
      h.timeline.get? j = some y ∨ h.retention.retains i = true ∧ j = i ∧ x = y := by
  obtain ⟨-, after⟩ := put_eq_ok_iff.1 accepted
  split at after
  · next retained =>
    rw [(Prod.mk.inj after).2, get?_hold, free, Option.none_or, retained]
    split
    · next here => simp [here, free]
    · next elsewhere => simp [elsewhere]
  · next released =>
    rw [(Prod.mk.inj after).2]
    simp [released]

/-- **A walk records what the engine produces on the way,** as far as the policy retains it. -/
theorem Waypoint.Passes.recorded_iff {e : Engine σ τ ε} {target : Nat}
    {w w' : Waypoint (σ × List (τ × Reply τ ε)) τ} (walk : Passes e.logged target w w')
    (clear : w.Clear target) {calls : List (τ × Reply τ ε)}
    (log : w'.engine.2 = w.engine.2 ++ calls) {i : Nat} {y : τ} :
    w'.history.timeline.get? i = some y ↔
      w.history.timeline.get? i = some y ∨
        w.history.retention.retains i = true ∧ Produces w.index calls i y := by
  induction walk generalizing calls i y with
  | refl =>
    obtain rfl : calls = [] := List.self_eq_append_right.1 log
    simp [Produces]
  | @tail w₁ w₂ walk last ih =>
    obtain ⟨calls₁, log₁, length, -⟩ := Passes.calls walk
    have clear₁ := Passes.clear walk clear
    obtain ⟨-, -, retention⟩ := Passes.history_frame walk
    obtain ⟨before, answer, accepted⟩ := last
    -- the last call of the walk is one more than the walk so far has made
    rw [Engine.logged_advance_log, ← Engine.logged_advance_fst, answer, log₁, List.append_assoc,
      List.append_cancel_left_eq] at log
    rw [History.recorded_put_iff accepted (clear₁.ahead _ (Nat.lt_succ_self _) before), ih log₁,
      ← log, produces_concat_iff, length, retention, and_or_left, or_assoc, Reply.rewrote.injEq]
    refine or_congr_right (or_congr_right ?_)
    constructor
    · rintro ⟨retained, rfl, same⟩
      exact ⟨retained, rfl, same⟩
    · rintro ⟨retained, rfl, same⟩
      exact ⟨retained, rfl, same⟩

/-! ### Navigations -/

namespace Session

variable {s : Session τ} {k : Nat} {error : ε}

/-- **What a navigation leaves behind that the engine fails:** the session as it was, with what the
walk has recorded. -/
theorem Lands.failed {e : Engine σ τ ε} {w : Waypoint σ τ} {o : Outcome σ τ ε (Visit τ)}
    (lands : s.Lands e k w o) (failed : o.answer = .error (.engine error)) :
    w.index < s.history.clamp k ∧ (e.advance w.state w.engine).1 = .failed error ∧
      o.session = { s with history := w.history } ∧
      o.engine = (e.advance w.state w.engine).2 := by
  cases lands with
  | @stopped setback _ _ stop =>
    cases setback with
    | failed =>
      cases failed
      cases stop with
      | failed before answer => exact ⟨before, answer, rfl, rfl⟩
    | contradicted => cases failed
  | refused | moved => cases failed

/-- **A command that the engine fails,** other than a verification, is a navigation. -/
theorem perform_failed {e : Engine σ τ ε} {engine : σ} {c : Command}
    (navigation : ∀ upTo, c ≠ .verify upTo)
    (failed : (s.perform e engine c).answer = .error (.engine error)) :
    ∃ k, s.requested? c = some k ∧ (s.navigate e k engine).answer = .error (.engine error) ∧
      s.poisoned = none := by
  have done := s.perform_comesTo e engine c
  generalize s.perform e engine c = o at done failed
  cases done with
  | @navigated _ k requested =>
    have stopped := map_answer_eq_error.1 failed
    refine ⟨k, requested, stopped, ?_⟩
    cases poisoned : s.poisoned with
    | none => rfl
    | some i =>
      rw [navigate_of_poisoned e poisoned] at stopped
      cases stopped
  | overflowed | told => cases failed
  | verified upTo => exact absurd rfl (navigation upTo)

/-- **A command breaks off** that requests `k`: its replay walks to `w` by these `rewrites`, and
there the engine fails. The walk is one of the logged engine, so that its calls can be told. -/
structure BreaksOff (e : Engine σ τ ε) (s : Session τ) (engine : σ) (c : Command) (k : Nat)
    (error : ε) (w : Waypoint (σ × List (τ × Reply τ ε)) τ) (rewrites : List (τ × Reply τ ε)) :
    Prop where
  walk : (Waypoint.nearest s.history (s.history.clamp k) (engine, [])).Passes e.logged
    (s.history.clamp k) w
  lands : s.Lands e.logged k w (s.navigate e.logged k (engine, []))
  failed : (s.navigate e.logged k (engine, [])).answer = .error (.engine error)
  /-- The session is as it was, but for what the walk has recorded. -/
  after : (s.perform e engine c).session = { s with history := w.history }
  calls : s.calls e engine c = rewrites ++ [(w.state, .failed error)]
  rewrote : ∀ call ∈ rewrites, call.2.isRewrote = true
  length : (s.history.nearest (s.history.clamp k)).index + rewrites.length = w.index
  /-- And that is what the engine produced, as far as the policy retains it. -/
  recorded : ∀ i y, w.history.timeline.get? i = some y ↔
    s.history.timeline.get? i = some y ∨ s.history.retention.retains i = true ∧
      Produces (s.history.nearest (s.history.clamp k)).index (s.calls e engine c) i y

/-- **A command that the engine fails breaks off.** -/
theorem perform_breaksOff (e : Engine σ τ ε) (usable : s.poisoned = none) {c : Command}
    (requested : s.requested? c = some k) (engine : σ)
    (failed : (s.perform e engine c).answer = .error (.engine error)) :
    ∃ w rewrites, s.BreaksOff e engine c k error w rewrites := by
  obtain ⟨w, walk, lands⟩ := s.navigate_lands e.logged usable k (engine, [])
  obtain ⟨rewrites, log, length, rewrote⟩ := walk.calls
  have logged : s.perform e.logged (engine, []) c =
      (s.navigate e.logged k (engine, [])).map .visit := perform_of_requested e.logged requested _
  have stopped : (s.navigate e.logged k (engine, [])).answer = .error (.engine error) := by
    rw [← s.perform_logged, logged] at failed
    exact map_answer_eq_error.1 failed
  obtain ⟨-, answer, after, last⟩ := lands.failed stopped
  have made : s.calls e engine c = rewrites ++ [(w.state, .failed error)] := by
    rw [calls, logged]
    show (s.navigate e.logged k (engine, [])).engine.2 = _
    rw [last, Engine.logged_advance_log, ← Engine.logged_advance_fst, answer, log]
    rfl
  refine ⟨w, rewrites, walk, lands, stopped, ?_, made, rewrote, length, fun i y => ?_⟩
  · rw [← s.perform_logged, logged]
    exact after
  · rw [made, produces_concat_iff, walk.recorded_iff (Waypoint.nearest_clear ..) log]
    simp [Waypoint.nearest]

/-! ### Pure engines -/

section

variable [ReflBEq τ] {f : τ → Reply τ ε} {initial : τ} {retention : Retention} {furthest : Nat}

/-- **Over a pure engine** a navigation fails where execution reaches a term that the engine fails
on, and it covers the indices up to there. -/
theorem Surveyed.lands_failed {σ' : Type w'} {d : Engine σ' τ ε} (pure : d.AnswersBy f)
    (surveyed : s.Surveyed f initial retention furthest) {engine : σ'} {w : Waypoint σ' τ}
    (walk : (Waypoint.nearest s.history (s.history.clamp k) engine).Passes d (s.history.clamp k) w)
    (lands : s.Lands d k w (s.navigate d k engine))
    (failed : (s.navigate d k engine).answer = .error (.engine error)) :
    Reaches (fun x r => f x = r) initial w.index w.state ∧ f w.state = .failed error ∧
      (s.navigate d k engine).session.Surveyed f initial retention (max furthest w.index) := by
  obtain ⟨-, answer, -⟩ := lands.failed failed
  have grounded := walk.grounded pure.ledger
    (Waypoint.nearest_grounded surveyed.faithful.grounded.history (s.history.clamp k))
  rw [pure] at answer
  exact ⟨grounded.reached, answer, navigate_faithful pure surveyed.faithful k engine,
    navigate_anchored surveyed.anchored k, lands.covers surveyed.covers walk⟩

/-- **Over a pure engine a navigation that fails fails again,** and changes nothing any more. -/
theorem Surveyed.fails_again {e : Engine σ τ ε} (pure : e.AnswersBy f)
    (surveyed : s.Surveyed f initial retention furthest) {engine : σ}
    (failed : (s.navigate e k engine).answer = .error (.engine error)) (engine' : σ) :
    let after := (s.navigate e k engine).session
    (after.navigate e k engine').answer = .error (.engine error) ∧
      (after.navigate e k engine').session = after := by
  intro after
  obtain ⟨w, walk, lands⟩ := s.navigate_lands e surveyed.faithful.usable k engine
  obtain ⟨reached, answer, surveyed'⟩ := surveyed.lands_failed pure walk lands failed
  change after.Surveyed f initial retention _ at surveyed'
  have failed' : (after.navigate e k engine').answer = .error (.engine error) := by
    have finishes := Engine.run_finishes pure k initial engine
    obtain ⟨first, -⟩ := s.navigate_finishes pure surveyed.faithful finishes engine
    obtain ⟨second, -⟩ := after.navigate_finishes pure surveyed'.faithful finishes engine'
    cases outcome : (e.run k initial engine).1 with
    | ok d =>
      rw [outcome, failed] at first
      cases first
    | error error' =>
      rw [outcome, failed] at first
      cases first
      rw [second, outcome]
      rfl
  obtain ⟨w', walk', lands'⟩ := after.navigate_lands e surveyed'.faithful.usable k engine'
  obtain ⟨reached', answer', surveyed''⟩ := surveyed'.lands_failed pure walk' lands' failed'
  -- execution fails in one place, so that nothing further on is covered
  obtain ⟨there, -⟩ := reached'.stop_unique (Engine.rightUnique_of_fn f) answer' (by simp) reached
    answer (by simp)
  rw [there, Nat.max_assoc, Nat.max_self] at surveyed''
  obtain ⟨-, -, left, -⟩ := lands'.failed failed'
  have route := enRoute_of_passes walk'
  obtain ⟨-, same⟩ :=
    surveyed''.unique surveyed' (by rw [left]) (by rw [left]; exact route.terminal)
  refine ⟨failed', ?_⟩
  rw [left] at same ⊢
  rw [show w'.history = after.history from same]

/-- **What execution reaches can be visited,** whatever was recorded before. -/
theorem Faithful.visits {e : Engine σ τ ε} (pure : e.AnswersBy f) (faithful : s.Faithful f initial)
    {j : Nat} {x : τ} (reached : Reaches (fun x r => f x = r) initial j x) (le : k ≤ j)
    (engine engine' : σ) :
    ∃ visit, (s.navigate e k engine).answer = .ok visit ∧ visit.index = k ∧
      (e.run k initial engine').1 = .ok ⟨visit.state, k, false⟩ := by
  obtain ⟨z, there⟩ := reached.exists_of_le le
  have finishes : Finishes f initial k (.ok ⟨z, k, false⟩) := .spent there
  exact ⟨_, (s.navigate_finishes pure faithful finishes engine).1, rfl,
    (Engine.run_eq_iff pure).2 finishes⟩

/-- **Over a pure engine a command that breaks off breaks off again,** where execution reaches a
term that the engine fails on, and changes nothing any more. -/
theorem BreaksOff.again {e : Engine σ τ ε} (pure : e.AnswersBy f)
    (surveyed : s.Surveyed f initial retention furthest) {engine : σ} {c : Command}
    {w : Waypoint (σ × List (τ × Reply τ ε)) τ} {rewrites : List (τ × Reply τ ε)}
    (requested : s.requested? c = some k) (breaks : s.BreaksOff e engine c k error w rewrites)
    (engine' : σ) :
    let after := (s.perform e engine c).session
    after.Faithful f initial ∧ Reaches (fun x r => f x = r) initial w.index w.state ∧
      f w.state = .failed error ∧
      (after.perform e engine' c).answer = .error (.engine error) ∧
      (after.perform e engine' c).session = after := by
  intro after
  have logged : e.logged.AnswersBy f := fun x s => pure x s.1
  obtain ⟨reached, answer, -⟩ := surveyed.lands_failed logged breaks.walk breaks.lands breaks.failed
  have failed : (s.navigate e k engine).answer = .error (.engine error) := by
    rw [← breaks.failed]
    exact (congrArg Outcome.answer (s.navigate_view e.logged_mimics k (engine, []))).symm
  have left : after = (s.navigate e k engine).session := by
    show (s.perform e engine c).session = _
    rw [perform_of_requested e requested]
    rfl
  obtain ⟨failed', same⟩ := surveyed.fails_again pure failed engine'
  rw [← left] at failed' same
  have requested' : after.requested? c = some k := by
    show (s.perform e engine c).session.requested? c = some k
    rw [breaks.after, ← requested]
    refine requested?_congr ?_ ?_ ?_ c
    · rfl
    · exact (enRoute_of_passes breaks.walk).terminal
    · rfl
  rw [perform_of_requested e requested']
  exact ⟨left ▸ navigate_faithful pure surveyed.faithful k engine, reached, answer,
    map_answer_eq_error.2 failed', same⟩

end

/-! ### Runs -/

/-- **An engine failure adds entries and does nothing else.** In every run of a session over any
engine: if the engine fails a command that is no verification, then the session is as it was before
the command but for its history; there the cursor and the end of execution are as before, nothing
is removed or altered, and added are the terms that the engine produced during the command at the
indices that the policy retains. The command's calls are rewrites but for the last one, which
failed, and which is about the first index not reached.

If the engine is pure and terms equal themselves, then the last call is about the term that direct
execution reaches at that index. The same command again fails with the same error and leaves the
session as it is. And whatever commands follow, every one that requests an index up to there is
answered with a visit to the term that direct execution reaches at it. -/
theorem engine_failure_adds_entries_only (e : Engine σ τ ε) (initial : τ) (config : Config)
    (engine : σ) (cs : List Command) (c : Command) (error : ε) :
    let before := (start initial config).performAll e engine cs
    let s := before.session
    let o := s.perform e before.engine c
    (∀ upTo, c ≠ .verify upTo) → o.answer = .error (.engine error) →
      o.session = { s with history := o.session.history } ∧
      o.session.history.pinned = s.history.pinned ∧ o.session.terminal = s.terminal ∧
      o.session.history.retention = s.history.retention ∧
      ∃ start rewrites x, s.ancestor? c = some start ∧
        s.calls e before.engine c = rewrites ++ [(x, .failed error)] ∧
        (∀ call ∈ rewrites, call.2.isRewrote = true) ∧
        (∀ i y, (i, y) ∈ o.session.history.entries ↔
          (i, y) ∈ s.history.entries ∨ config.retention.retains i = true ∧
            Produces start (s.calls e before.engine c) i y) ∧
        ∀ f, e.AnswersBy f → (∀ x : τ, (x == x) = true) →
          let j := start + rewrites.length
          let again := o.session.perform e o.engine c
          (e.run j initial engine).1 = .ok ⟨x, j, false⟩ ∧ f x = .failed error ∧
          again.answer = .error (.engine error) ∧ again.session = o.session ∧
          ∀ later c' k,
            let after := o.session.performAll e o.engine later
            after.session.requested? c' = some k → k ≤ j →
              ∃ visit, (after.session.perform e after.engine c').answer = .ok (.visit visit) ∧
                visit.index = k ∧ (e.run k initial engine).1 = .ok ⟨visit.state, k, false⟩ := by
  intro before s o navigation failed
  obtain ⟨k, requested, stopped, usable⟩ := perform_failed navigation failed
  obtain ⟨w, rewrites, breaks⟩ := s.perform_breaksOff e usable requested before.engine failed
  have route := enRoute_of_passes breaks.walk
  have after : o.session = { s with history := w.history } := breaks.after
  have policy : s.history.retention = config.retention :=
    (start_performAll_covers e initial config engine cs).policy
  refine ⟨by rw [after], by rw [after]; exact route.pinned, by rw [after]; exact route.terminal,
    by rw [after]; exact route.retention, (s.history.nearest (s.history.clamp k)).index, rewrites,
    w.state, ?_, breaks.calls, breaks.rewrote, ?_, ?_⟩
  · rw [ancestor?, requested]
    rfl
  · intro i y
    rw [after, History.entries, History.entries, ← Timeline.get?_eq_some_iff,
      ← Timeline.get?_eq_some_iff, ← policy]
    exact breaks.recorded i y
  · intro f pure equal j again
    have : ReflBEq τ := ⟨equal _⟩
    have surveyed := performAll_surveyed pure initial config engine cs
    obtain ⟨faithful, reached, answer, failed', same⟩ :=
      breaks.again pure surveyed requested o.engine
    rw [← breaks.length] at reached
    refine ⟨(Engine.run_eq_iff pure).2 (.spent reached), answer, failed', same, ?_⟩
    intro later c' k' after' requested' le
    have faithful' : after'.session.Faithful f initial := performAll_faithful pure faithful _ later
    obtain ⟨visit, landed, index, ran⟩ :=
      faithful'.visits pure reached le after'.engine engine
    refine ⟨visit, ?_, index, ran⟩
    rw [perform_of_requested e requested']
    exact map_visit_eq_ok.2 landed

/-- With the cursor at index one, and checkpoints at the even indices, a jump past the term that the
engine fails on adds the entry at index two. The same jump fails again and adds nothing, and a jump
to index two succeeds. -/
theorem engine_failure_adds_entries_only_when_stuck :
    let before := (start 0 { retention := .checkpoints 2 }).performAll (Engine.ofFn (stuckAt 2)) ()
      [.jump 1]
    let s := before.session
    let o := s.perform (Engine.ofFn (stuckAt 2)) before.engine (.step 8)
    let again := o.session.perform (Engine.ofFn (stuckAt 2)) o.engine (.step 8)
    let visited := o.session.perform (Engine.ofFn (stuckAt 2)) o.engine (.jump 2)
    o.answer = .error (.engine "stuck") ∧ o.session = { s with history := o.session.history } ∧
      s.history.entries = [(0, 0), (1, 1)] ∧
      o.session.history.entries = [(0, 0), (1, 1), (2, 2)] ∧
      again.answer = .error (.engine "stuck") ∧ again.session = o.session ∧
      ∃ visit, visited.answer = .ok (.visit visit) ∧ visit.index = 2 := by
  obtain ⟨kept, -, -, -, start, rewrites, x, ancestor, calls, -, -, lasting⟩ :=
    engine_failure_adds_entries_only (Engine.ofFn (stuckAt 2)) 0 { retention := .checkpoints 2 } ()
      [.jump 1] (.step 8) "stuck" nofun rfl
  obtain rfl : 1 = start := Option.some.inj ancestor
  have made : [((1 : Nat), Reply.rewrote 2)] ++ [(2, .failed "stuck")] =
      rewrites ++ [(x, .failed "stuck")] := calls
  obtain ⟨one, -⟩ := List.append_inj' made rfl
  obtain ⟨-, -, answer, same, visits⟩ :=
    lasting (stuckAt 2) (Engine.ofFn_answersBy _) fun _ => BEq.rfl
  obtain ⟨visit, answered, index, -⟩ := visits [] (.jump 2) 2 rfl (by rw [← one]; decide)
  exact ⟨rfl, kept, rfl, rfl, answer, same, visit, answered, index⟩

end Session

end Retrace
