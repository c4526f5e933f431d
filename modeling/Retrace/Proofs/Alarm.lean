import Retrace.Proofs.Provenance

/-!
# No false alarms

When a session reports a contradiction, somebody did contradict himself. Either the engine
gave two answers to one term, and the log of its calls shows both; or a recorded term was
compared with itself and differs, which is the fault of the equality. No third case exists:
an engine that is consistent as far as it was asked, over terms that equal themselves, is
never accused.

## Main definitions

* `History.SelfContradicts` — a recorded term differs from itself.
* `Recheck.Grounded` — what a re-execution found rests on given answers.

## Main statements

* `Waypoint.Stop.selfContradicts`, `History.recheck_grounded` — what consistent answers can
  contradict, in a replay and in a re-execution.
* `Session.perform_selfContradicts` — so for every command.

The argument is about the answers given up to now, not about a function that the engine
computes, so it holds of engines that were consistent by chance.
-/

namespace Retrace

universe u v w

variable {σ : Type w} {τ : Type u} {ε : Type v}

/-! ### Terms that differ from themselves -/

namespace History

variable {answers : τ → Reply τ ε → Prop} {initial : τ} {h : History τ} {i : Nat} {x : τ}

/-- **Nothing recorded lies past an end of execution,** if no term has two answers. -/
theorem Grounded.le_of_halted (grounded : h.Grounded answers initial)
    (functional : Relator.RightUnique answers) (reached : Reaches answers initial i x)
    (halted : answers x .halted) : ∀ j y, h.timeline.get? j = some y → j ≤ i := by
  intro j y recorded
  exact reached.le_of_stop functional halted (by simp) (grounded.entry j y recorded)

/-- An end of execution that was answered has no rival in the record, if no term has two
answers. -/
theorem Grounded.endConflict?_eq_none (grounded : h.Grounded answers initial)
    (functional : Relator.RightUnique answers) (reached : Reaches answers initial i x)
    (halted : answers x .halted) (within : ∀ t, h.terminal = some t → i ≤ t) :
    h.endConflict? i = none := by
  have last := grounded.le_of_halted functional reached halted
  refine endConflict?_eq_none_iff.2 ⟨?_, last⟩
  intro t ht
  obtain ⟨y, recorded, -⟩ := grounded.terminal t ht
  exact Nat.le_antisymm (last t y recorded) (within t ht)

/-- A verification and a replay agree on which ends of execution have a rival. -/
theorem checkEnd_eq_ok_iff : h.checkEnd i = .ok () ↔ h.endConflict? i = none := by
  unfold checkEnd endConflict?
  cases h.terminal with
  | none => cases h.timeline.firstAfter? i <;> simp
  | some t =>
    by_cases same : t = i
    · cases h.timeline.firstAfter? i <;> simp [same]
    · cases h.timeline.firstAfter? i <;> simp [same]

variable [BEq τ]

/-- **A contradiction that is the recorded term's own:** it differs from itself. -/
def SelfContradicts (h : History τ) (cause : Contradiction) : Prop :=
  ∃ i x, cause = .differentTerm i ∧ h.timeline.get? i = some x ∧ (x == x) = false

/-- A term that is refused where no other term is recorded differs from itself. -/
theorem selfContradicts_of_check {cause : Contradiction} (refused : h.check i x = .error cause)
    (within : ∀ t, h.terminal = some t → i ≤ t)
    (same : ∀ y, h.timeline.get? i = some y → y = x) : h.SelfContradicts cause := by
  rcases check_eq_error_iff.1 refused with ⟨t, ht, past, -⟩ | ⟨-, rfl, y, recorded, unequal⟩
  · exact absurd past (Nat.not_lt_of_le (within t ht))
  · obtain rfl := same y recorded
    exact ⟨i, y, rfl, recorded, unequal⟩

theorem not_selfContradicts [ReflBEq τ] (h : History τ) (cause : Contradiction) :
    ¬h.SelfContradicts cause := by
  rintro ⟨i, x, -, -, unequal⟩
  rw [BEq.rfl] at unequal
  cases unequal

end History

/-! ### Replays -/

namespace Waypoint

variable [BEq τ] {e : Engine σ τ ε} {given : σ → τ → Reply τ ε → Prop} {initial : τ}
  {target : Nat} {w : Waypoint σ τ} {h h₀ : History τ} {engine : σ} {cause : Contradiction}

/-- **A replay under consistent answers is set back by a contradiction** only if a term
differs from itself. -/
theorem Stop.selfContradicts (ledger : e.Ledger given)
    (stop : w.Stop e target ⟨.error (.contradicted cause), h, engine⟩)
    (route : w.EnRoute h₀ target) (grounded : w.Grounded given initial)
    (functional : Relator.RightUnique (given engine)) : h.SelfContradicts cause := by
  obtain ⟨history, reached⟩ := stop.grounded ledger route.clear grounded
  cases stop with
  | endRefused before answer refused =>
    have halted : given (e.advance w.state w.engine).2 w.state .halted :=
      answer ▸ ledger.entered w.state w.engine
    have unrivalled :=
      history.endConflict?_eq_none functional reached halted route.index_le_terminal
    rcases History.markTerminal_eq_error_iff.1 refused with ⟨rival, found, -⟩ | ⟨-, differs⟩
    · rw [unrivalled] at found
      cases found
    · exact History.selfContradicts_of_check differs route.index_le_terminal route.clear.here
  | termRefused before answer refused => exact absurd refused (route.not_termRefused before)

/-- **Where a replay stops well, the cursor is refused** only for a term that differs from
itself, whatever the engine answers. -/
theorem Stop.pin_selfContradicts
    (stop : w.Stop e target ⟨.ok (w.index, w.state), h, engine⟩) (route : w.EnRoute h₀ target)
    (refused : h.pin w.index w.state = .error cause) : h.SelfContradicts cause :=
  History.selfContradicts_of_check (History.pin_eq_error_iff.1 refused)
    (stop.index_le_terminal route) fun _ recorded => stop.eq_of_recorded route.clear recorded

end Waypoint

/-! ### Re-executions -/

/-- **What a re-execution within `limit` found rests on given answers:** a chain of them
leads to the last term, an end of execution was answered, and a contradiction is a term's
own unless some term has two answers. -/
inductive Recheck.Grounded [BEq τ] (given : σ → τ → Reply τ ε → Prop) (h : History τ)
    (limit : Nat) : Recheck σ τ ε → Prop
  | found {report : Verification} {x : τ} {answered : Nat} {s : σ}
      (within : report.reached ≤ limit) (reached : Reaches (given s) h.origin report.reached x)
      (halted : report.terminated = true → given s x .halted) :
      Recheck.Grounded given h limit ⟨.ok (report, x), answered, s⟩
  | contradicted {cause : Contradiction} {answered : Nat} {s : σ}
      (blame : Relator.RightUnique (given s) → h.SelfContradicts cause) :
      Recheck.Grounded given h limit ⟨.error (.contradicted cause), answered, s⟩
  | failed {error : ε} {answered : Nat} {s : σ} :
      Recheck.Grounded given h limit ⟨.error (.failed error), answered, s⟩

namespace History

variable [BEq τ] {e : Engine σ τ ε} {given : σ → τ → Reply τ ε → Prop} {h : History τ}

theorem recheck_grounded (ledger : e.Ledger given) {gap i : Nat} {x : τ} {s : σ}
    (grounded : h.Grounded (given s) h.origin) (reached : Reaches (given s) h.origin i x)
    (within : ∀ t, h.terminal = some t → i + gap ≤ t) (checked answered : Nat) :
    (h.recheck e gap i checked answered x s).Grounded given h (i + gap) := by
  -- the ledger grows at every call, and what rested on it before rests on it still
  induction gap generalizing i checked answered x s with
  | zero => exact .found (Nat.le_refl i) reached nofun
  | succ gap ih =>
    have answer := ledger.entered x s
    have grounded' := grounded.mono (ledger.kept x s)
    have reached' := reached.mono (ledger.kept x s)
    rw [recheck]
    generalize e.advance x s = reply at answer grounded' reached' ⊢
    obtain ⟨r, s'⟩ := reply
    cases r with
    | rewrote y =>
      have next := reached'.rewrite answer
      have within' : ∀ t, h.terminal = some t → i + 1 + gap ≤ t := by
        intro t ht
        have := within t ht
        omega
      dsimp only
      split
      · have rest := ih grounded' next within'
        rw [Nat.add_right_comm, Nat.add_assoc] at rest
        exact rest _ _
      · next cause refused =>
        refine .contradicted fun functional => selfContradicts_of_check refused ?_ ?_
        · intro t ht
          have := within t ht
          omega
        · intro z recorded
          exact (grounded'.entry _ z recorded).unique functional next
    | halted => exact .found (Nat.le_add_right i _) reached' fun _ => answer
    | failed error => exact .failed

theorem recheckEnd_grounded (ledger : e.Ledger given) {limit : Nat} {r : Recheck σ τ ε}
    (grounded : h.Grounded (given r.engine) h.origin) (found : r.Grounded given h limit) :
    (h.recheckEnd e r).Grounded given h limit := by
  cases found with
  | contradicted blame => exact .contradicted blame
  | failed => exact .failed
  | @found report x answered s within reached halted =>
    simp only [recheckEnd]
    split
    · next asks =>
      have known : h.terminal = some report.reached := by
        simpa using (Bool.and_eq_true_iff.1 asks).2
      obtain ⟨y, recorded, ended⟩ := grounded.terminal _ known
      have answer := ledger.entered x s
      have kept := ledger.kept x s
      generalize e.advance x s = reply at answer kept ⊢
      obtain ⟨r, s'⟩ := reply
      cases r with
      | rewrote z =>
        -- the term that is rewritten now was reported to be the end before
        refine .contradicted fun functional => ?_
        have same := ((grounded.entry _ y recorded).mono kept).unique functional
          (reached.mono kept)
        have twice := functional (kept y _ ended) (same ▸ answer)
        cases twice
      | halted => exact .found within (reached.mono kept) fun _ => answer
      | failed error => exact .failed
    · exact .found within reached halted

end History

/-! ### Sessions -/

namespace Session

variable [BEq τ] {e : Engine σ τ ε} {given : σ → τ → Reply τ ε → Prop} {initial : τ}
  {s : Session τ} {engine : σ} {cause : Contradiction}

theorem rechecked_grounded (ledger : e.Ledger given)
    (grounded : s.Grounded (given engine) initial) (upTo : Nat) :
    (s.rechecked e upTo engine).Grounded given s.history (s.history.clamp upTo) := by
  have history := grounded.history
  rw [← history.origin_eq] at history
  have within : ∀ t, s.history.terminal = some t → 0 + s.history.clamp upTo ≤ t := by
    intro t ht
    rw [Nat.zero_add]
    exact History.clamp_le_terminal ht upTo
  have found := History.recheck_grounded ledger history .origin within 0 0
  rw [Nat.zero_add] at found
  refine History.recheckEnd_grounded ledger (history.mono fun x r known => ?_) found
  exact ledger.later (recheck_later ..) known

theorem navigate_selfContradicts (ledger : e.Ledger given)
    (grounded : s.Grounded (given engine) initial) (k : Nat)
    (violated : (s.navigate e k engine).answer = .error (.violation cause))
    (functional : Relator.RightUnique (given (s.navigate e k engine).engine)) :
    (s.navigate e k engine).session.history.SelfContradicts cause := by
  cases poisoned : s.poisoned with
  | some i =>
    rw [navigate_of_poisoned e poisoned] at violated
    cases violated
  | none =>
    obtain ⟨w, walk, lands⟩ := s.navigate_lands e poisoned k engine
    have route := enRoute_of_passes walk
    have pointed := walk.grounded ledger
      (Waypoint.nearest_grounded grounded.history (s.history.clamp k))
    generalize s.navigate e k engine = o at lands violated functional ⊢
    cases lands with
    | stopped stop =>
      obtain rfl := conclude_violation _ _ _ violated
      exact stop.selfContradicts ledger route pointed functional
    | refused stop contradicted =>
      obtain rfl := SessionError.violation.inj (Except.error.inj violated)
      exact stop.pin_selfContradicts route contradicted
    | moved => cases violated

theorem verify_selfContradicts (ledger : e.Ledger given)
    (grounded : s.Grounded (given engine) initial) (upTo : Nat)
    (violated : (s.verify e upTo engine).answer = .error (.violation cause))
    (functional : Relator.RightUnique (given (s.verify e upTo engine).engine)) :
    (s.verify e upTo engine).session.history.SelfContradicts cause := by
  rw [(s.verify_frame e upTo engine).1]
  cases poisoned : s.poisoned with
  | some i =>
    rw [verify_of_poisoned e poisoned] at violated
    cases violated
  | none =>
    have ends := s.verify_ends e poisoned upTo engine
    have found := s.rechecked_grounded ledger grounded upTo
    have history := grounded.history.mono fun _ _ known =>
      ledger.later (s.rechecked_later e upTo engine) known
    rw [← grounded.history.origin_eq] at history
    generalize s.verify e upTo engine = o at ends violated functional
    generalize s.rechecked e upTo engine = r at ends found history
    cases ends with
    | stopped set =>
      obtain rfl := conclude_violation _ _ _ violated
      rw [conclude_engine] at functional
      cases found with
      | contradicted blame =>
        obtain rfl := Setback.contradicted.inj (Except.error.inj set)
        exact blame functional
      | found | failed => cases set
    | refused done terminated contradicted =>
      cases found with
      | found within reached halted =>
        obtain ⟨rfl, rfl⟩ := Prod.mk.inj (Except.ok.inj done)
        have unrivalled := history.endConflict?_eq_none functional reached (halted terminated)
          fun t ht => Nat.le_trans within (History.clamp_le_terminal ht upTo)
        rw [History.checkEnd_eq_ok_iff.2 unrivalled] at contradicted
        cases contradicted
      | contradicted | failed => cases done
    | reported => cases violated

/-- **A command reports a contradiction under consistent answers** only if a recorded term
differs from itself. -/
theorem perform_selfContradicts (ledger : e.Ledger given)
    (grounded : s.Grounded (given engine) initial) (c : Command)
    (violated : (s.perform e engine c).answer = .error (.violation cause))
    (functional : Relator.RightUnique (given (s.perform e engine c).engine)) :
    (s.perform e engine c).session.history.SelfContradicts cause := by
  have done := s.perform_comesTo e engine c
  generalize s.perform e engine c = o at done violated functional ⊢
  cases done with
  | @navigated _ k =>
    exact navigate_selfContradicts ledger grounded k (map_answer_eq_error.1 violated) functional
  | overflowed | told => cases violated
  | verified upTo =>
    exact verify_selfContradicts ledger grounded upTo (map_answer_eq_error.1 violated) functional

/-- **Nothing is reported** under consistent answers over terms that equal themselves. -/
theorem perform_unviolated [ReflBEq τ] (ledger : e.Ledger given)
    (grounded : s.Grounded (given engine) initial) (c : Command)
    (functional : Relator.RightUnique (given (s.perform e engine c).engine)) :
    violation? (s.perform e engine c).answer = none :=
  violation?_eq_none_iff.2 fun cause violated =>
    History.not_selfContradicts _ cause
      (perform_selfContradicts ledger grounded c violated functional)

/-- **A session over a pure engine stays usable,** if terms equal themselves. -/
theorem performAll_usable [ReflBEq τ] {f : τ → Reply τ ε} (pure : e.AnswersBy f)
    (grounded : s.Grounded (fun x r => f x = r) initial) (usable : s.poisoned = none)
    (cs : List Command) : (s.performAll e engine cs).session.poisoned = none := by
  refine (performAll_preserves (I := fun s _ => s.Grounded (fun x r => f x = r) initial ∧
    s.poisoned = none) ?_ ⟨grounded, usable⟩ cs).2
  intro s engine c ⟨grounded, usable⟩
  refine ⟨(perform_grounded pure.ledger grounded c).1, ?_⟩
  rw [perform_poisoned, perform_unviolated pure.ledger grounded c (Engine.rightUnique_of_fn f),
    usable]
  rfl

/-- **No false alarm.** For every engine: if a command reports a contradiction, the log of all
calls of the session holds two different answers to one term, or the contradiction is that a
recorded term differs from itself. So a session over a pure engine and terms that equal
themselves is never poisoned. -/
theorem no_false_alarm (e : Engine σ τ ε) (initial : τ) (config : Config) (engine : σ)
    (cs : List Command) (c : Command) :
    let before := (start initial config).performAll e engine cs
    let after := before.session.perform e before.engine c
    let log := ((start initial config).performAll e.logged (engine, []) (cs ++ [c])).engine.2
    (∀ cause, after.answer = .error (.violation cause) →
      (∃ x r r', (x, r) ∈ log ∧ (x, r') ∈ log ∧ r ≠ r') ∨
        ∃ i x, cause = .differentTerm i ∧ (i, x) ∈ after.session.history.entries ∧
          (x == x) = false) ∧
    (∀ f, e.AnswersBy f → (∀ x : τ, (x == x) = true) → before.session.poisoned = none) := by
  intro before after log
  refine ⟨?_, ?_⟩
  · intro cause violated
    -- the session whose calls are logged is the same session
    let empty : σ × List (τ × Reply τ ε) := (engine, [])
    let before' := (start initial config).performAll e.logged empty cs
    let after' := before'.session.perform e.logged before'.engine c
    have hbefore : before'.view Prod.fst = before :=
      performAll_logged e (start initial config) engine [] cs
    have hafter : after'.view Prod.fst = after := by
      show (before'.session.perform e.logged before'.engine c).view Prod.fst =
        before.session.perform e before.engine c
      rw [perform_view e.logged_mimics, ← hbefore]
      rfl
    have hlog : log = after'.engine.2 := by
      show ((start initial config).performAll e.logged empty (cs ++ [c])).engine.2 = _
      rw [performAll_append]
      rfl
    have grounded : before'.session.Grounded (fun x r => (x, r) ∈ before'.engine.2) initial :=
      (performAll_grounded e.logged_ledger (start_grounded _ initial config) cs).1
    rw [← hafter] at violated ⊢
    rw [hlog]
    by_cases inconsistent : ∃ x r r',
        (x, r) ∈ after'.engine.2 ∧ (x, r') ∈ after'.engine.2 ∧ r ≠ r'
    · exact .inl inconsistent
    · have functional : Relator.RightUnique fun x r => (x, r) ∈ after'.engine.2 := by
        intro x r r' known known'
        exact Classical.byContradiction fun differ =>
          inconsistent ⟨x, r, r', known, known', differ⟩
      obtain ⟨i, x, rfl, recorded, unequal⟩ :=
        perform_selfContradicts e.logged_ledger grounded c violated functional
      exact .inr ⟨i, x, rfl, Timeline.get?_eq_some_iff.1 recorded, unequal⟩
  · intro f pure refl
    have : ReflBEq τ := ⟨refl _⟩
    exact performAll_usable pure (start_grounded _ initial config) rfl cs

/-- An engine that tires after two calls is caught by a verification, and its log convicts it;
a countdown is never caught. -/
theorem no_false_alarm_for_tiring :
    let before := (start 0 {}).performAll (Engine.tiring 2) 0 [.jump 2]
    let after := before.session.perform (Engine.tiring 2) before.engine (.verify 2)
    let log := ((start 0 {}).performAll (Engine.tiring 2).logged (0, [])
      [.jump 2, .verify 2]).engine.2
    after.answer = .error (.violation (.differentTerm 1)) ∧
      (∃ x r r', (x, r) ∈ log ∧ (x, r') ∈ log ∧ r ≠ r') ∧
      ((start 3 {}).performAll (Engine.ofFn countdown) () [.jump 9, .back 2]).session.poisoned =
        none := by
  intro before after log
  have violated : after.answer = .error (.violation (.differentTerm 1)) := rfl
  have warranted := (no_false_alarm (Engine.tiring 2) 0 {} 0 [.jump 2] (.verify 2)).1 _ violated
  have trusted := (no_false_alarm (Engine.ofFn countdown) 3 {} () [.jump 9, .back 2]
    .position).2 countdown (Engine.ofFn_answersBy countdown) fun _ => BEq.rfl
  refine ⟨violated, ?_, trusted⟩
  rcases warranted with inconsistent | ⟨i, x, -, -, unequal⟩
  · exact inconsistent
  · rw [BEq.rfl] at unequal
    cases unequal

end Session

end Retrace
