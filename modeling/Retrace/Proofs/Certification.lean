import Retrace.Proofs.Coherence
import Retrace.Proofs.Fidelity

/-!
# What a full verification is worth

A session may have been recorded under an engine that changed its mind. Once a verification
has gone over everything recorded and reported no contradiction, none of that matters any
more: the record is the one that direct execution by the verifying engine would have left,
and as long as the engine keeps answering that way, the session is as good as a fresh one.

## Main statements

* `History.Confirms.grounded` — a report about everything recorded makes the record rest on
  the answers of the verifying function.
* `Session.verify_certifies` — so the session is faithful from then on.
-/

namespace Retrace

universe u v w w'

variable {σ : Type w} {σ' : Type w'} {τ : Type u} {ε : Type v} [BEq τ]

/-! ### Records -/

namespace History

variable {f : τ → Reply τ ε} {h : History τ} {limit : Nat} {report : Verification}

/-- A certified report reaches everything recorded within its limit. -/
theorem Confirms.le_reached_of_recorded (confirms : h.Confirms f limit report)
    (covered : ∀ i y, h.timeline.get? i = some y → i ≤ limit) {i : Nat} {y : τ}
    (recorded : h.timeline.get? i = some y) : i ≤ report.reached := by
  rcases Nat.lt_or_eq_of_le confirms.reached_le with early | reached
  · exact confirms.last early i y recorded
  · rw [reached]
    exact covered i y recorded

/-- **A report about everything recorded grounds the record** on the verifying function: each
recorded term is the one reached by it, and it ends where execution is known to end. -/
theorem Confirms.grounded [LawfulBEq τ] (confirms : h.Confirms f limit report) (wf : h.WellFormed)
    (within : ∀ t, h.terminal = some t → limit ≤ t)
    (covered : ∀ i y, h.timeline.get? i = some y → i ≤ limit) :
    h.Grounded (fun x r => f x = r) h.origin := by
  have entry : ∀ i y, h.timeline.get? i = some y → Reaches (fun x r => f x = r) h.origin i y := by
    intro i y recorded
    rcases Nat.eq_zero_or_pos i with rfl | positive
    · obtain rfl : h.origin = y := Option.some.inj recorded
      exact .origin
    · have le := confirms.le_reached_of_recorded covered recorded
      obtain ⟨x, reached, equal⟩ := confirms.agrees i y positive le recorded
      rwa [eq_of_beq equal]
  refine ⟨entry, ?_⟩
  intro t ht
  obtain ⟨y, recorded⟩ := Option.isSome_iff_exists.1 (wf.terminal t ht)
  obtain rfl : limit = t := Nat.le_antisymm (within t ht) (covered t y recorded)
  have reached : report.reached = limit :=
    Nat.le_antisymm confirms.reached_le (confirms.le_reached_of_recorded covered recorded)
  obtain ⟨x, reached', halted⟩ := confirms.halts ht reached
  have same := (entry limit y recorded).unique (Engine.rightUnique_of_fn f) reached'
  exact ⟨y, recorded, same ▸ halted⟩

end History

/-! ### Sessions -/

namespace Session

variable [LawfulBEq τ] {e : Engine σ τ ε} {f : τ → Reply τ ε} {initial : τ} {s : Session τ}

/-- **A session is faithful after a full verification,** whatever it was recorded under. -/
theorem verify_certifies (pure : e.AnswersBy f) (wf : s.history.WellFormed)
    (anchored : s.Anchored) (origin : s.history.origin = initial) {upTo : Nat} {engine : σ}
    {report : Verification} (full : ∀ entry ∈ s.history.entries, entry.1 ≤ upTo)
    (passed : (s.verify e upTo engine).answer = .ok report) :
    (s.verify e upTo engine).session.Faithful f initial := by
  have usable : s.poisoned = none := by
    cases poisoned : s.poisoned with
    | none => rfl
    | some i =>
      rw [verify_of_poisoned e poisoned] at passed
      cases passed
  have covered : ∀ i y, s.history.timeline.get? i = some y → i ≤ s.history.clamp upTo := by
    intro i y recorded
    exact History.le_clamp_iff.2
      ⟨full (i, y) (Timeline.get?_eq_some_iff.1 recorded), fun t ht => wf.bounded t ht i y recorded⟩
  obtain ⟨n, verdict, after⟩ := s.verify_verdict pure usable wf upTo engine
  rw [passed] at verdict
  have grounded := verdict.confirms.grounded wf
    (fun t ht => History.clamp_le_terminal ht upTo) covered
  rw [origin] at grounded
  rw [after, passed]
  exact ⟨⟨grounded, grounded.entry _ _ anchored.recorded⟩, wf, rfl⟩

/-- **A full verification certifies the session.** Whatever engine a session was recorded
under: if a verification of everything recorded makes a report, and the engine answers by a
function from then on, then no later command reports a contradiction, and every navigation
lands where direct execution by that function ends and fails exactly if that fails, with the
same error. -/
theorem full_verification_certifies (e₀ : Engine σ τ ε) (engine₀ : σ) (initial : τ)
    (config : Config) (before : List Command) {e : Engine σ' τ ε} {f : τ → Reply τ ε}
    (pure : e.AnswersBy f) (engine : σ') (upTo : Nat) (report : Verification)
    (after : List Command) :
    let s := ((start initial config).performAll e₀ engine₀ before).session
    let verified := s.verify e upTo engine
    let later := verified.session.performAll e verified.engine after
    (∀ entry ∈ s.history.entries, entry.1 ≤ upTo) →
    verified.answer = .ok report →
      (∀ answer ∈ later.answers, ∀ cause, answer ≠ .error (.violation cause)) ∧
      ∀ c k, later.session.requested? c = some k →
        match ((Engine.ofFn f).run k initial ()).1 with
        | .ok d =>
          ∃ visit, (later.session.perform e later.engine c).answer = .ok (.visit visit) ∧
            visit.state = d.state ∧ visit.index = d.steps ∧ visit.requested = k
        | .error error =>
          (later.session.perform e later.engine c).answer = .error (.engine error) := by
  intro s verified later full passed
  have certified : verified.session.Faithful f initial :=
    verify_certifies pure (performAll_wellFormed e₀ initial config engine₀ before)
      (performAll_anchored e₀ initial config engine₀ before)
      (performAll_origin e₀ initial config engine₀ before) full passed
  have faithful : later.session.Faithful f initial :=
    performAll_faithful pure certified verified.engine after
  refine ⟨?_, ?_⟩
  · intro answer hmem
    exact violation?_eq_none_iff.1
      (performAll_unviolated pure certified verified.engine after answer hmem)
  · intro c k requested
    rw [perform_of_requested e requested]
    have landed := later.session.navigate_finishes pure faithful
      (ofFn_run_eq_iff.1 (rfl : ((Engine.ofFn f).run k initial ()).1 = _)) later.engine
    simp only [Outcome.map, landed.1]
    cases ((Engine.ofFn f).run k initial ()).1 with
    | ok d => exact ⟨_, rfl, rfl, rfl, rfl⟩
    | error error => rfl

/-- An engine that tires after two calls leaves a record of counting from zero to two. A
verification by an engine that really counts passes, and from then on the session counts. -/
theorem full_verification_certifies_counting :
    let s := ((start 0 {}).performAll (Engine.tiring 2) 0 [.jump 2]).session
    let verified := s.verify (Engine.ofFn counting) 4 ()
    let later := verified.session.performAll (Engine.ofFn counting) () [.back 1]
    (∀ entry ∈ s.history.entries, entry.1 ≤ 4) ∧
      verified.answer = .ok ⟨2, 4, false⟩ ∧
      later.session.requested? (.step 5) = some 6 ∧
      ∃ visit, (later.session.perform (Engine.ofFn counting) later.engine (.step 5)).answer =
          .ok (.visit visit) ∧ visit.state = 6 ∧ visit.index = 6 := by
  intro s verified later
  have full : ∀ entry ∈ s.history.entries, entry.1 ≤ 4 := by decide
  have passed : verified.answer = .ok ⟨2, 4, false⟩ := rfl
  have requested : later.session.requested? (.step 5) = some 6 := by decide
  have certified := full_verification_certifies (Engine.tiring 2) 0 0 {} [.jump 2]
    (Engine.ofFn_answersBy counting) () 4 ⟨2, 4, false⟩ [.back 1] full passed
  obtain ⟨visit, answer, state, index, -⟩ := certified.2 (.step 5) 6 requested
  exact ⟨full, passed, requested, visit, answer, state, index⟩

end Session

end Retrace
