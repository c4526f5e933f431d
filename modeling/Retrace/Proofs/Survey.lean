import Retrace.Proofs.Coverage
import Retrace.Proofs.Fidelity

/-!
# What determines a session

Over a pure engine a session has no secrets. How far its replays got, where its cursor stands and
where execution is known to end determine the term at the cursor and the whole history, whatever
commands brought the session there and whichever of them failed on the way.

## Main definitions

* `Session.Surveyed` — what is known of a session whose replays got as far as an index.

## Main statements

* `Session.performAll_surveyed` — every session over a pure engine can be surveyed.
* `Session.Surveyed.unique` — what determines a session.
* `Session.Surveyed.navigate` — where a navigation lands, and how far it gets.
-/

namespace Retrace

universe u v w

variable {σ : Type w} {τ : Type u} {ε : Type v}

namespace Session

/-- **A surveyed session:** it is faithful to `f` and anchored, and its history covers the indices
up to `furthest`. -/
structure Surveyed (f : τ → Reply τ ε) (initial : τ) (retention : Retention) (furthest : Nat)
    (s : Session τ) : Prop where
  faithful : s.Faithful f initial
  anchored : s.Anchored
  covers : s.history.Covers retention furthest

variable {f : τ → Reply τ ε} {initial : τ} {retention : Retention} {furthest : Nat}
  {s s' : Session τ}

/-- **Nothing else to tell apart:** how far they were surveyed, the index of the cursor and the
known end of execution determine two sessions alike. -/
theorem Surveyed.unique (h : s.Surveyed f initial retention furthest)
    (h' : s'.Surveyed f initial retention furthest) (current : s.current = s'.current)
    (terminal : s.terminal = s'.terminal) :
    s.position = s'.position ∧ s.history = s'.history := by
  have functional := Engine.rightUnique_of_fn f
  have cursor : s.cursor = s'.cursor := by
    have reached := h.faithful.grounded.cursor
    rw [current] at reached
    exact reached.unique functional h'.faithful.grounded.cursor
  constructor
  · rw [position, position, current, terminal, cursor]
  · refine h.covers.unique functional h'.covers h.faithful.grounded.history
      h'.faithful.grounded.history ?_ terminal
    rw [h.anchored.pinned, h'.anchored.pinned, current]

variable [BEq τ] [ReflBEq τ] {e : Engine σ τ ε}

/-- **Every session over a pure engine can be surveyed,** as far as its replays got. -/
theorem performAll_surveyed (pure : e.AnswersBy f) (initial : τ) (config : Config) (engine : σ)
    (cs : List Command) :
    ((start initial config).performAll e engine cs).session.Surveyed f initial config.retention
      ((start initial config).furthest e engine cs) where
  faithful := performAll_faithful pure (start_faithful f initial config) engine cs
  anchored := performAll_anchored e initial config engine cs
  covers := start_performAll_covers e initial config engine cs

/-- **A navigation lands where direct execution within the index requested ends,** and covers the
indices up to there. -/
theorem Surveyed.navigate (pure : e.AnswersBy f)
    (surveyed : s.Surveyed f initial retention furthest) {k : Nat} {d : Execution τ}
    (finishes : Finishes f initial k (.ok d)) (engine : σ) :
    let o := s.navigate e k engine
    o.answer = .ok { o.session.position with requested := k } ∧ o.session.current = d.steps ∧
      o.session.cursor = d.state ∧
      o.session.terminal = (if d.terminated then some d.steps else s.terminal) ∧
      o.session.Surveyed f initial retention (max furthest d.steps) := by
  obtain ⟨answer, facade⟩ := s.navigate_finishes pure surveyed.faithful finishes engine
  have covers := navigate_covers surveyed.covers answer
  refine ⟨?_, congrArg Facade.current facade, congrArg Facade.cursor facade,
    congrArg Facade.terminal facade, navigate_faithful pure surveyed.faithful k engine,
    navigate_anchored surveyed.anchored k, covers⟩
  rw [answer]
  exact congrArg Except.ok (navigate_visit answer)

end Session

end Retrace
