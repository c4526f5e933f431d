import Retrace.Proofs.Alarm
import Retrace.Proofs.Coherence
import Retrace.Proofs.Poison

/-!
# The end of execution

Once a history knows where execution ends, it knows it for good. No engine can move the end,
however it changes its mind, since the history refuses a second end and everything past the
first; and no moving cursor lets go of the term there. So from then on every request at or
past the end is answered from the history, without a call, and every request before the end
is answered at the very index requested or not at all.

A history learns of an end from a replay only. A verification that comes upon an end compares
it with the record and goes its way: if the end was unknown before, it is unknown after.

## Main definitions

* `History.EndsAt` — execution is known to end at an index, with a term.
* `Session.Settled` — what holds of every session, as far as the end is concerned.

## Main statements

* `History.endsAt_invariant` — no recording moves a known end.
* `Session.performAll_settled`, `Session.performAll_endsAt` — every session is settled, and a known
  end stays where it is.
* `Session.navigate_past_end`, `Session.navigate_before_end` — what a navigation answers when the
  end is known.
* `Session.end_is_sticky` — all of this together.
* `Session.verified_end_known_iff` — a verification leaves an end known exactly if it was known.

The term at a known end equals itself, also where the equality of terms is not reflexive: the
navigation that came upon the end has moved the cursor there, and the cursor moves to no term
that differs from itself (`Session.Settled.equal`).
-/

namespace Retrace

universe u v w

variable {σ : Type w} {τ : Type u} {ε : Type v}

/-! ### Histories -/

namespace History

/-- **Execution is known to end** at index `t`, with the term `x` recorded there. -/
structure EndsAt (h : History τ) (t : Nat) (x : τ) : Prop where
  known : h.terminal = some t
  recorded : h.timeline.get? t = some x

variable {h h' : History τ} {t i : Nat} {x y : τ}

namespace EndsAt

theorem clamp_eq (ends : h.EndsAt t x) (i : Nat) : h.clamp i = min i t := by
  unfold clamp
  rw [ends.known]

/-- The term at the end is looked up under the index of the end. -/
theorem get?_eq (ends : h.EndsAt t x) : h.get? t = some (t, x) := by
  unfold get?
  rw [ends.clamp_eq, Nat.min_self, ends.recorded]
  rfl

/-- There is one end at most, and one term there. -/
theorem unique (ends : h.EndsAt t x) (ends' : h.EndsAt i y) : t = i ∧ x = y := by
  obtain rfl : t = i := Option.some.inj (ends.known.symm.trans ends'.known)
  exact ⟨rfl, Option.some.inj (ends.recorded.symm.trans ends'.recorded)⟩

/-- What is recorded at a known end is held there for good. -/
theorem heldForGood (ends : h.EndsAt t x) : h.HeldForGood t x :=
  ⟨ends.recorded, .inr ends.known⟩

/-- **No other end is accepted.** -/
theorem eq_of_markTerminal [BEq τ] (ends : h.EndsAt t x)
    (accepted : h.markTerminal i y = .ok h') : t = i := by
  obtain ⟨unrivalled, -⟩ := markTerminal_eq_ok_iff.1 accepted
  exact (endConflict?_eq_none_iff.1 unrivalled).1 t ends.known

end EndsAt

/-- **No recording moves a known end.** -/
theorem endsAt_invariant [BEq τ] (t : Nat) (x : τ) :
    Invariant fun h : History τ => h.EndsAt t x where
  put ends accepted :=
    ⟨(terminal_invariant t).put ends.known accepted,
      ((heldForGood_invariant t x).put ends.heldForGood accepted).recorded⟩
  pin ends accepted :=
    ⟨(terminal_invariant t).pin ends.known accepted,
      ((heldForGood_invariant t x).pin ends.heldForGood accepted).recorded⟩
  markTerminal ends accepted :=
    ⟨(terminal_invariant t).markTerminal ends.known accepted,
      ((heldForGood_invariant t x).markTerminal ends.heldForGood accepted).recorded⟩

end History

/-! ### Replays -/

namespace Waypoint

/-- A replay that is set back learns of no end. -/
theorem Stop.terminal_of_setback [BEq τ] {e : Engine σ τ ε} {target : Nat} {w : Waypoint σ τ}
    {setback : Setback ε} {h : History τ} {engine : σ}
    (stop : w.Stop e target ⟨.error setback, h, engine⟩) : h.terminal = w.history.terminal := by
  cases stop with
  | endRefused | termRefused | failed => rfl

end Waypoint

/-! ### Sessions -/

namespace Session

/-- **A settled session:** its history is well-formed and its cursor anchored, and as long as it
is not poisoned the term at a known end of execution equals itself. -/
structure Settled [BEq τ] (s : Session τ) : Prop where
  wellFormed : s.history.WellFormed
  anchored : s.Anchored
  equal : s.poisoned = none → ∀ t x, s.history.EndsAt t x → (x == x) = true

variable [BEq τ] {e : Engine σ τ ε} {s : Session τ} {engine : σ} {t k : Nat} {x : τ}

theorem start_settled (initial : τ) (config : Config) : (start initial config).Settled where
  wellFormed := History.new_wellFormed initial config.retention
  anchored := start_anchored initial config
  equal _ _ _ ends := nomatch ends.known

/-- Nothing is recorded past a known end, and the cursor is not past it either. -/
theorem Settled.current_le (settled : s.Settled) (known : s.terminal = some t) : s.current ≤ t :=
  settled.wellFormed.bounded t known _ _ settled.anchored.recorded

theorem Settled.endsAt (settled : s.Settled) (known : s.terminal = some t) :
    ∃ x, s.history.EndsAt t x := by
  obtain ⟨x, recorded⟩ := Option.isSome_iff_exists.1 (settled.wellFormed.terminal t known)
  exact ⟨x, known, recorded⟩

/-- The end of execution that a navigation comes upon has a term that equals itself, or else
the cursor would not have moved there. -/
theorem navigate_equal (usable : s.poisoned = none) (unknown : s.terminal = none) (k : Nat)
    (usable' : (s.navigate e k engine).session.poisoned = none)
    (ends : (s.navigate e k engine).session.history.EndsAt t x) : (x == x) = true := by
  obtain ⟨w, walk, lands⟩ := s.navigate_lands e usable k engine
  have route := enRoute_of_passes walk
  have unknown' : w.history.terminal = none := route.terminal.trans unknown
  generalize s.navigate e k engine = o at lands usable' ends
  cases lands with
  | stopped stop =>
    rw [conclude_history] at ends
    have known := (stop.terminal_of_setback).symm.trans ends.known
    rw [unknown'] at known
    cases known
  | refused => cases usable'
  | @moved h h' engine' stop pinned =>
    obtain ⟨checked, rfl⟩ := History.pin_eq_ok_iff.1 pinned
    have known : h.terminal = some t := by simpa using ends.known
    have here := fun y recorded => stop.eq_of_recorded route.clear (y := y) recorded
    cases stop with
    | arrived =>
      rw [unknown'] at known
      cases known
    | ended _ _ accepted =>
      obtain ⟨-, -, rfl⟩ := History.markTerminal_eq_ok_iff.1 accepted
      obtain rfl : w.index = t := Option.some.inj known
      -- the cursor was compared with the term recorded as the end, and that is the same term
      obtain ⟨y, recorded⟩ := Option.isSome_iff_exists.1
        (History.isSome_get?_hold w.history w.index w.state)
      have equal : (y == w.state) = true := (History.check_eq_ok_iff.1 checked).2 y recorded
      have reached : x = w.state := by
        rcases History.get?_hold_eq_some (History.get?_moveCursor_eq_some ends.recorded) with
          old | ⟨-, new⟩
        · exact here x old
        · exact new
      rw [here y recorded] at equal
      rw [reached, equal]

theorem navigate_settled (settled : s.Settled) (k : Nat) :
    (s.navigate e k engine).session.Settled where
  wellFormed := navigate_wellFormed e settled.wellFormed k engine
  anchored := navigate_anchored settled.anchored k
  equal usable' t x ends := by
    have usable : s.poisoned = none := by
      rw [navigate_poisoned] at usable'
      exact (Option.or_eq_none_iff.1 usable').2
    cases known : s.terminal with
    | none => exact navigate_equal usable known k usable' ends
    | some t' =>
      obtain ⟨y, before⟩ := settled.endsAt known
      obtain ⟨rfl, rfl⟩ := (navigate_history (History.endsAt_invariant t' y) before k).unique ends
      exact settled.equal usable _ _ before

theorem perform_settled (settled : s.Settled) (c : Command) :
    (s.perform e engine c).session.Settled := by
  refine perform_preserves (I := fun s _ => s.Settled) ?_ ?_ settled c
  · intro s engine k _ settled
    exact navigate_settled settled k
  · intro s engine i usable settled
    have same := (s.verify_frame e i engine).1
    constructor
    · rw [same]
      exact settled.wellFormed
    · exact verify_anchored settled.anchored i
    · rw [same]
      exact fun _ => settled.equal usable

/-- **Every session is settled,** whatever the engine answered and however commands failed. -/
theorem performAll_settled (settled : s.Settled) (cs : List Command) :
    (s.performAll e engine cs).session.Settled :=
  performAll_preserves (I := fun s _ => s.Settled)
    (fun _ _ c settled => perform_settled settled c) settled cs

/-- **A known end stays where it is,** with its term, whatever commands follow. -/
theorem performAll_endsAt (ends : s.history.EndsAt t x) (cs : List Command) :
    (s.performAll e engine cs).session.history.EndsAt t x :=
  performAll_history (History.endsAt_invariant t x) ends cs

/-- **At and past a known end** a navigation is answered from the history: it lands at the end,
with the term recorded there, and the engine is not called. -/
theorem navigate_past_end (settled : s.Settled) (usable : s.poisoned = none)
    (ends : s.history.EndsAt t x) (past : t ≤ k) :
    (s.navigate e k engine).answer = .ok ⟨x, t, k, true⟩ ∧
      (s.navigate e k engine).engine = engine := by
  have checked : s.history.check t x = .ok () := by
    refine History.check_eq_ok_iff.2 ⟨?_, ?_⟩
    · intro t' known
      exact Nat.le_of_eq (Option.some.inj (ends.known.symm.trans known))
    · intro y recorded
      obtain rfl : x = y := Option.some.inj (ends.recorded.symm.trans recorded)
      exact settled.equal usable t x ends
  have accepted := History.pin_eq_ok_iff.2 ⟨checked, rfl⟩
  have known : ((s.history.hold t x).moveCursor t).terminal = some t :=
    (History.terminal_invariant t).pin ends.known accepted
  unfold navigate
  simp only [usable, ends.clamp_eq, Nat.min_eq_right past,
    History.nearest_of_recorded ends.recorded, History.replay_zero, accepted, known,
    beq_self_eq_true, and_self]

/-- **Before a known end** a navigation lands where it was asked to, if it lands at all. -/
theorem navigate_before_end (ends : s.history.EndsAt t x) (before : k < t) {visit : Visit τ}
    (landed : (s.navigate e k engine).answer = .ok visit) :
    visit.index = k ∧ visit.terminated = false := by
  obtain ⟨w, h, h', engine', walk, stop, pinned, rfl, -⟩ := navigate_moved landed
  have reached : w.history.EndsAt t x := walk.preserves (History.endsAt_invariant t x) ends
  have target : s.history.clamp k = k := by
    rw [ends.clamp_eq, Nat.min_eq_left (Nat.le_of_lt before)]
  have there : w.index = k := by
    cases stop with
    | arrived there => rw [there, target]
    | ended short _ accepted =>
      -- a replay that stops short would be told of another end
      have same : t = w.index := reached.eq_of_markTerminal accepted
      omega
  have known := (stop.preserves (History.endsAt_invariant t x) reached).known
  refine ⟨there, ?_⟩
  rw [(History.terminal_invariant t).pin known pinned, there]
  simpa using Nat.ne_of_gt before

/-- **A command that requests an index at or past a known end** lands at the end, and makes no
call. -/
theorem perform_past_end (settled : s.Settled) (usable : s.poisoned = none)
    (ends : s.history.EndsAt t x) {c : Command} (requested : s.requested? c = some k)
    (past : t ≤ k) :
    (s.perform e engine c).answer = .ok (.visit ⟨x, t, k, true⟩) ∧ s.calls e engine c = [] := by
  constructor
  · rw [perform_of_requested e requested]
    exact map_visit_eq_ok.2 (navigate_past_end settled usable ends past).1
  · unfold calls
    rw [perform_of_requested e.logged requested]
    show (s.navigate e.logged k (engine, [])).engine.2 = []
    rw [(navigate_past_end settled usable ends past).2]

omit [BEq τ] in
/-- A forward step past the largest index requests the largest one, if the end is known. -/
theorem requested?_step_past_end {n : Nat} (past : Index.maxIndex < s.current + n)
    (known : s.terminal = some t) : s.requested? (.step n) = some Index.maxIndex := by
  simp only [requested?, if_neg (Nat.not_le_of_lt past), known, Option.isSome_some, if_true]

/-- **A command that requests an index before a known end** lands there, if it lands at all. -/
theorem perform_before_end (ends : s.history.EndsAt t x) {c : Command}
    (requested : s.requested? c = some k) (before : k < t) {visit : Visit τ}
    (landed : (s.perform e engine c).answer = .ok (.visit visit)) :
    visit.index = k ∧ visit.terminated = false := by
  rw [perform_of_requested e requested] at landed
  exact navigate_before_end ends before (map_visit_eq_ok.1 landed)

/-- **The end of execution is sticky.** In every run of a session over any engine, also over
one that changes its mind, and over any equality of terms: once execution is known to end at an
index, it is known to end there for the rest of the run, with the same term recorded there;
nothing is recorded past it, and the cursor is not past it. As long as the session is not
poisoned, every command that requests an index at or past the end lands there without a call,
and every one that requests an index before the end lands at that index, if it lands. -/
theorem end_is_sticky (e : Engine σ τ ε) (initial : τ) (config : Config) (engine : σ)
    (cs later : List Command) (t : Nat) :
    let before := (start initial config).performAll e engine cs
    let after := before.session.performAll e before.engine later
    before.session.terminal = some t →
      ∃ x, before.session.history.get? t = some (t, x) ∧
        after.session.terminal = some t ∧
        after.session.history.get? t = some (t, x) ∧
        (∀ entry ∈ after.session.history.entries, entry.1 ≤ t) ∧
        after.session.current ≤ t ∧
        (after.session.poisoned = none → ∀ c k, after.session.requested? c = some k →
          (t ≤ k →
            (after.session.perform e after.engine c).answer = .ok (.visit ⟨x, t, k, true⟩) ∧
              after.session.calls e after.engine c = []) ∧
          (k < t → ∀ visit,
            (after.session.perform e after.engine c).answer = .ok (.visit visit) →
              visit.index = k ∧ visit.terminated = false)) := by
  intro before after known
  have settled : before.session.Settled := performAll_settled (start_settled initial config) cs
  have settled' : after.session.Settled := performAll_settled settled later
  obtain ⟨x, ends⟩ := settled.endsAt known
  have ends' : after.session.history.EndsAt t x := performAll_endsAt ends later
  refine ⟨x, ends.get?_eq, ends'.known, ends'.get?_eq, ?_, settled'.current_le ends'.known, ?_⟩
  · rintro ⟨i, y⟩ listed
    exact settled'.wellFormed.bounded t ends'.known i y (Timeline.get?_eq_some_iff.2 listed)
  · intro usable c k requested
    refine ⟨fun past => perform_past_end settled' usable ends' requested past, ?_⟩
    intro earlier visit landed
    exact perform_before_end ends' requested earlier landed

/-- An engine that gives up after two calls ends execution at index two. Back at index one, a
jump past the end returns there without asking, and a jump before the end lands before it. -/
theorem end_is_sticky_for_tiring :
    let before := (start 0 {}).performAll (Engine.tiring 2) 0 [.jump 9]
    let after := before.session.performAll (Engine.tiring 2) before.engine [.back 1]
    before.session.terminal = some 2 ∧ after.session.terminal = some 2 ∧
      after.session.current = 1 ∧
      (after.session.perform (Engine.tiring 2) after.engine (.jump 7)).answer =
        .ok (.visit ⟨2, 2, 7, true⟩) ∧
      after.session.calls (Engine.tiring 2) after.engine (.jump 7) = [] ∧
      (after.session.perform (Engine.tiring 2) after.engine (.jump 1)).answer =
        .ok (.visit ⟨1, 1, 1, false⟩) := by
  intro before after
  obtain ⟨x, recorded, known, -, -, -, lands⟩ :=
    end_is_sticky (Engine.tiring 2) 0 {} 0 [.jump 9] [.back 1] 2 rfl
  change some (2, 2) = some (2, x) at recorded
  obtain rfl : 2 = x := (Prod.mk.inj (Option.some.inj recorded)).2
  obtain ⟨landed, silent⟩ := (lands rfl (.jump 7) 7 rfl).1 (by decide)
  refine ⟨rfl, known, rfl, landed, silent, ?_⟩
  unfold after before
  rfl

/-! ### Ends that a verification comes upon -/

/-- **A verification that comes upon an end** has compared it with the record, and goes no
further than it was asked to. -/
theorem verify_terminated {given : σ → τ → Reply τ ε → Prop} (ledger : e.Ledger given)
    {initial : τ} (grounded : s.Grounded (given engine) initial) {upTo : Nat}
    {report : Verification} (verified : (s.verify e upTo engine).answer = .ok report)
    (terminated : report.terminated = true) :
    s.history.checkEnd report.reached = .ok () ∧ report.reached ≤ upTo := by
  cases poisoned : s.poisoned with
  | some i =>
    rw [verify_of_poisoned e poisoned] at verified
    cases verified
  | none =>
    have ends := s.verify_ends e poisoned upTo engine
    have bounded := s.rechecked_grounded ledger grounded upTo
    generalize s.verify e upTo engine = o at ends verified
    generalize s.rechecked e upTo engine = r at ends bounded
    cases ends with
    | @stopped setback => cases setback <;> cases verified
    | refused => cases verified
    | reported found agrees =>
      obtain rfl := Except.ok.inj verified
      refine ⟨agrees terminated, ?_⟩
      cases bounded with
      | found within =>
        obtain ⟨rfl, rfl⟩ := Prod.mk.inj (Except.ok.inj found)
        exact Nat.le_trans within (s.history.clamp_le upTo)
      | contradicted | failed => cases found

/-- **A verification leaves an end known exactly if it was known before.** In every run of a
session over any engine: if a verification succeeds and reports that execution ends at some
index, then the end is known afterwards exactly if it was known before. If it was not known, the
position is no end afterwards, and a forward step past the largest index is refused. If it was
known, then for the rest of the run the cursor is told to stand at the end when it stands
there, and every command that requests an index at or past the end lands there, also a forward
step past the largest index. -/
theorem verified_end_known_iff (e : Engine σ τ ε) (initial : τ) (config : Config) (engine : σ)
    (cs : List Command) (upTo : Nat) (report : Verification) :
    let before := (start initial config).performAll e engine cs
    let verified := before.session.verify e upTo before.engine
    upTo ≤ Index.maxIndex → verified.answer = .ok report → report.terminated = true →
      (verified.session.terminal = some report.reached ↔ before.session.terminal.isSome) ∧
      (before.session.terminal = none →
        verified.session.position.terminated = false ∧
        ∀ n, Index.maxIndex < verified.session.current + n →
          (verified.session.perform e verified.engine (.step n)).answer =
            .error (.stepOverflow n verified.session.current)) ∧
      (before.session.terminal.isSome → ∀ later,
        let run := verified.session.performAll e verified.engine later
        (run.session.current = report.reached → run.session.position.terminated = true) ∧
        (run.session.poisoned = none →
          (∀ c k, run.session.requested? c = some k → report.reached ≤ k →
            ∃ x, (run.session.perform e run.engine c).answer =
              .ok (.visit ⟨x, report.reached, k, true⟩)) ∧
          ∀ n, Index.maxIndex < run.session.current + n →
            ∃ x, (run.session.perform e run.engine (.step n)).answer =
              .ok (.visit ⟨x, report.reached, Index.maxIndex, true⟩))) := by
  intro before verified bounded answered terminated
  have grounded : before.session.Grounded (fun _ _ => True) initial :=
    (performAll_grounded e.credulous_ledger (start_grounded _ initial config) cs).1
  obtain ⟨agrees, within⟩ := verify_terminated e.credulous_ledger grounded answered terminated
  have unrivalled := History.checkEnd_eq_ok_iff.1 agrees
  have same : verified.session.terminal = before.session.terminal :=
    congrArg History.terminal (before.session.verify_frame e upTo before.engine).1
  have settled : verified.session.Settled :=
    perform_settled (performAll_settled (start_settled initial config) cs) (.verify upTo)
  refine ⟨?_, ?_, ?_⟩
  · rw [same]
    refine ⟨fun known => known ▸ rfl, fun isSome => ?_⟩
    obtain ⟨t, known⟩ := Option.isSome_iff_exists.1 isSome
    rw [known, (History.endConflict?_eq_none_iff.1 unrivalled).1 t known]
  · intro unknown
    rw [unknown] at same
    constructor
    · show (verified.session.terminal == some verified.session.current) = false
      rw [same]
      rfl
    · intro n past
      rw [perform_step_of_requested_none e (requested?_step_eq_none_iff.2 ⟨past, same⟩)]
  · intro isSome later run
    obtain ⟨t, known⟩ := Option.isSome_iff_exists.1 isSome
    obtain rfl := (History.endConflict?_eq_none_iff.1 unrivalled).1 t known
    obtain ⟨x, ends⟩ := settled.endsAt (same.trans known)
    have settled' : run.session.Settled := performAll_settled settled later
    have ends' : run.session.history.EndsAt report.reached x := performAll_endsAt ends later
    have lands : run.session.poisoned = none → ∀ c k, run.session.requested? c = some k →
        report.reached ≤ k → ∃ x, (run.session.perform e run.engine c).answer =
          .ok (.visit ⟨x, report.reached, k, true⟩) :=
      fun usable c k requested past =>
        ⟨x, (perform_past_end settled' usable ends' requested past).1⟩
    refine ⟨?_, fun usable => ⟨lands usable, ?_⟩⟩
    · intro there
      show (run.session.history.terminal == some run.session.current) = true
      rw [ends'.known, there, beq_self_eq_true]
    · intro n past
      exact lands usable (.step n) Index.maxIndex (requested?_step_past_end past ends'.known)
        (Nat.le_trans within bounded)

/-- A jump past the end of a countdown makes the end known, and a verification leaves it so. A
step past the largest index then lands at the end. -/
theorem verified_end_known_for_countdown :
    let before := (start 3 {}).performAll (Engine.ofFn countdown) () [.jump 4]
    let verified := before.session.verify (Engine.ofFn countdown) 10 before.engine
    let run := verified.session.performAll (Engine.ofFn countdown) verified.engine [.back 2]
    verified.answer = .ok ⟨3, 3, true⟩ ∧ verified.session.terminal = some 3 ∧
      run.session.current = 1 ∧
      ∃ x, (run.session.perform (Engine.ofFn countdown) run.engine (.step Index.maxIndex)).answer =
        .ok (.visit ⟨x, 3, Index.maxIndex, true⟩) := by
  intro before verified run
  obtain ⟨known, -, kept⟩ := verified_end_known_iff (Engine.ofFn countdown) 3 {} () [.jump 4] 10
    ⟨3, 3, true⟩ (by decide) rfl rfl
  obtain ⟨-, lands⟩ := kept rfl [.back 2]
  have moved : run.session.current = 1 := by
    unfold run verified before
    rfl
  have past : Index.maxIndex < run.session.current + Index.maxIndex := by
    rw [moved]
    decide
  unfold run verified before at moved past ⊢
  exact ⟨rfl, known.2 rfl, moved, (lands rfl).2 Index.maxIndex past⟩

/-- **An end that a verification comes upon first is forgotten.** A jump to the last index of a
countdown does not ask whether execution ends there. The verification after it asks, and
reports the end; but afterwards the cursor stands at the end and is not told so, and a step
past the largest index is refused and does not lead to the end. -/
theorem verified_end_forgotten :
    let before := (start 3 {}).performAll (Engine.ofFn countdown) () [.jump 3]
    let verified := before.session.verify (Engine.ofFn countdown) 10 before.engine
    before.session.poisoned = none ∧ verified.answer = .ok ⟨3, 3, true⟩ ∧
      verified.session.terminal = none ∧ verified.session.current = 3 ∧
      verified.session.position.terminated = false ∧
      (verified.session.perform (Engine.ofFn countdown) verified.engine
        (.step Index.maxIndex)).answer = .error (.stepOverflow Index.maxIndex 3) := by
  intro before verified
  refine ⟨rfl, rfl, rfl, rfl, rfl, ?_⟩
  have overflows : verified.session.Overflows (.step Index.maxIndex) := ⟨by decide, rfl⟩
  rw [perform_step_of_requested_none _ (requested?_step_eq_none_iff.2 overflows)]
  rfl

end Session

end Retrace
