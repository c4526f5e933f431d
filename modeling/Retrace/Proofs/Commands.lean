import Retrace.Proofs.Replay
import Retrace.Session.Command

/-!
# What commands come down to

Five of the six commands consult the engine, and four of these are one manoeuvre,
which differ in the index they request. So a property of every run is a property of
navigations and verifications, and a navigation is a walk, a stop and a pin.

## Main definitions

* `Session.Lands` — how a navigation ends after its walk.
* `Session.Ends` — how a verification ends after its re-execution.
* `Session.requested?` — the index that a command requests.
* `Session.ComesTo` — what a command comes to.

## Main statements

* `Session.navigate_lands` — every navigation of a usable session is a walk that lands.
* `Session.navigate_moved` — one that answers has moved the cursor where its walk stopped.
* `Session.verify_ends` — every verification of a usable session is a re-execution that ends.
* `Session.perform_of_requested` — a command that requests an index navigates there.
* `Session.perform_comesTo` — every command comes to a navigation, a verification or nothing.
* `Session.perform_visit` — a visit tells where the cursor stands after the command.
* `Session.perform_poisoned` — a command poisons a session by reporting a contradiction.
* `Session.perform_preserves`, `Session.performAll_preserves` — what navigations and
  verifications preserve, every run preserves.
* `Session.performAll_history` — what no recording spoils, no run spoils.
-/

namespace Retrace

universe u v w z z'

variable {σ : Type w} {τ : Type u} {ε : Type v} [BEq τ]

namespace Session

/-! ### Navigations -/

/-- **How a navigation ends** that requests `k` and has walked to `w`: the walk stops for
an error, or the term it reached contradicts the record, or the cursor moves. -/
inductive Lands (e : Engine σ τ ε) (s : Session τ) (k : Nat) (w : Waypoint σ τ) :
    Outcome σ τ ε (Visit τ) → Prop
  | stopped {setback : Setback ε} {h : History τ} {engine : σ}
      (stop : w.Stop e (s.history.clamp k) ⟨.error setback, h, engine⟩) :
      Lands e s k w (({ s with history := h } : Session τ).conclude engine setback)
  | refused {cause : Contradiction} {h : History τ} {engine : σ}
      (stop : w.Stop e (s.history.clamp k) ⟨.ok (w.index, w.state), h, engine⟩)
      (contradicted : h.pin w.index w.state = .error cause) :
      Lands e s k w
        (({ s with history := h } : Session τ).conclude engine (.contradicted cause))
  | moved {h h' : History τ} {engine : σ}
      (stop : w.Stop e (s.history.clamp k) ⟨.ok (w.index, w.state), h, engine⟩)
      (pinned : h.pin w.index w.state = .ok h') :
      Lands e s k w
        { answer := .ok ⟨w.state, w.index, k, h'.terminal == some w.index⟩
          session :=
            { s with
              history := h'
              current := w.index
              cursor := w.state
              stats := s.stats.recordNavigation
                (w.index - (s.history.nearest (s.history.clamp k)).index) }
          engine }

/-- **Every navigation of a usable session is a walk that lands.** -/
theorem navigate_lands (e : Engine σ τ ε) {s : Session τ} (usable : s.poisoned = none)
    (k : Nat) (engine : σ) :
    ∃ w, (Waypoint.nearest s.history (s.history.clamp k) engine).Passes e
        (s.history.clamp k) w ∧ s.Lands e k w (s.navigate e k engine) := by
  obtain ⟨w, walk, stop⟩ := History.replay_stops e (s.history.nearest (s.history.clamp k)).gap
    (Waypoint.nearest s.history (s.history.clamp k) engine)
  have target : (Waypoint.nearest s.history (s.history.clamp k) engine).index +
      (s.history.nearest (s.history.clamp k)).gap = s.history.clamp k :=
    s.history.nearest_add_gap _
  rw [target] at walk stop
  refine ⟨w, walk, ?_⟩
  unfold navigate
  split
  · next i poisoned => rw [usable] at poisoned; cases poisoned
  · dsimp only [Waypoint.nearest] at stop ⊢
    generalize History.replay e _ _ _ s.history engine = r at stop ⊢
    obtain ⟨reached, h, engine'⟩ := r
    cases reached with
    | error setback => exact .stopped stop
    | ok place =>
      obtain ⟨i, x⟩ := place
      obtain ⟨rfl, rfl⟩ : i = w.index ∧ x = w.state := by
        cases stop <;> exact ⟨rfl, rfl⟩
      dsimp only
      split
      · next cause contradicted => exact .refused stop contradicted
      · next h' pinned => exact .moved stop pinned

/-- Wherever the walk of a navigation gets, it is on the way to the limited index. -/
theorem enRoute_of_passes {e : Engine σ τ ε} {s : Session τ} {k : Nat} {engine : σ}
    {w : Waypoint σ τ} (walk : (Waypoint.nearest s.history (s.history.clamp k) engine).Passes e
      (s.history.clamp k) w) : w.EnRoute s.history (s.history.clamp k) :=
  walk.enRoute fun _ ht => History.clamp_le_terminal ht k

theorem navigate_of_poisoned (e : Engine σ τ ε) {s : Session τ} {i : Nat}
    (poisoned : s.poisoned = some i) (k : Nat) (engine : σ) :
    s.navigate e k engine = ⟨.error (.poisoned i), s, engine⟩ := by
  unfold navigate
  rw [poisoned]

theorem verify_of_poisoned (e : Engine σ τ ε) {s : Session τ} {i : Nat}
    (poisoned : s.poisoned = some i) (upTo : Nat) (engine : σ) :
    s.verify e upTo engine = ⟨.error (.poisoned i), s, engine⟩ := by
  unfold verify
  rw [poisoned]

/-! ### Failed commands -/

section

variable {α : Type z} (s : Session τ) (engine : σ) (setback : Setback ε)

omit [BEq τ] in
@[simp] theorem conclude_history :
    (s.conclude engine setback : Outcome σ τ ε α).session.history = s.history := by
  cases setback <;> rfl

omit [BEq τ] in
@[simp] theorem conclude_current :
    (s.conclude engine setback : Outcome σ τ ε α).session.current = s.current := by
  cases setback <;> rfl

omit [BEq τ] in
@[simp] theorem conclude_cursor :
    (s.conclude engine setback : Outcome σ τ ε α).session.cursor = s.cursor := by
  cases setback <;> rfl

omit [BEq τ] in
@[simp] theorem conclude_config :
    (s.conclude engine setback : Outcome σ τ ε α).session.config = s.config := by
  cases setback <;> rfl

omit [BEq τ] in
@[simp] theorem conclude_stats :
    (s.conclude engine setback : Outcome σ τ ε α).session.stats = s.stats := by
  cases setback <;> rfl

omit [BEq τ] in
@[simp] theorem conclude_engine :
    (s.conclude engine setback : Outcome σ τ ε α).engine = engine := by
  cases setback <;> rfl

omit [BEq τ] in
/-- A command is concluded with a contradiction only if that is what set it back. -/
theorem conclude_violation {cause : Contradiction}
    (violated : (s.conclude engine setback : Outcome σ τ ε α).answer =
      .error (.violation cause)) : setback = .contradicted cause := by
  cases setback <;> cases violated
  rfl

omit [BEq τ] in
@[simp] theorem map_answer_eq_error {β : Type z'} {f : α → β} {o : Outcome σ τ ε α}
    {cause : SessionError ε} : (o.map f).answer = .error cause ↔ o.answer = .error cause := by
  obtain ⟨answer, after, engine'⟩ := o
  cases answer <;> simp [Outcome.map, Except.map]

omit [BEq τ] in
@[simp] theorem map_visit_eq_ok {o : Outcome σ τ ε (Visit τ)} {visit : Visit τ} :
    (o.map Answer.visit).answer = .ok (.visit visit) ↔ o.answer = .ok visit := by
  obtain ⟨answer, after, engine'⟩ := o
  cases answer <;> simp [Outcome.map, Except.map]

omit [BEq τ] in
/-- A report is no visit. -/
theorem map_report_ne_visit {o : Outcome σ τ ε Verification} {visit : Visit τ} :
    (o.map Answer.report).answer ≠ .ok (.visit visit) := by
  obtain ⟨answer, after, engine'⟩ := o
  cases answer <;> simp [Outcome.map, Except.map]

end

omit [BEq τ] in
/-- The index at which an answer reports a contradiction. -/
def violation? {α : Type z} : Except (SessionError ε) α → Option Nat
  | .error (.violation cause) => some cause.index
  | _ => none

section

variable {α : Type z} {β : Type z'}

omit [BEq τ] in
theorem violation?_eq_none_iff {answer : Except (SessionError ε) α} :
    violation? answer = none ↔ ∀ cause, answer ≠ .error (.violation cause) := by
  cases answer with
  | ok _ => simp [violation?]
  | error error => cases error <;> simp [violation?]

omit [BEq τ] in
@[simp] theorem violation?_map (f : α → β) (o : Outcome σ τ ε α) :
    violation? (o.map f).answer = violation? o.answer := by
  obtain ⟨answer, after, engine⟩ := o
  cases answer with
  | ok _ => rfl
  | error error => cases error <;> rfl

omit [BEq τ] in
theorem conclude_poisoned (s : Session τ) (engine : σ) (setback : Setback ε) :
    (s.conclude engine setback : Outcome σ τ ε α).session.poisoned =
      (violation? (s.conclude engine setback : Outcome σ τ ε α).answer).or s.poisoned := by
  cases setback <;> rfl

end

theorem navigate_poisoned (e : Engine σ τ ε) (s : Session τ) (k : Nat) (engine : σ) :
    (s.navigate e k engine).session.poisoned =
      (violation? (s.navigate e k engine).answer).or s.poisoned := by
  cases poisoned : s.poisoned with
  | some i =>
    rw [navigate_of_poisoned e poisoned]
    exact poisoned
  | none =>
    obtain ⟨w, -, lands⟩ := s.navigate_lands e poisoned k engine
    rw [← poisoned]
    generalize s.navigate e k engine = o at lands ⊢
    cases lands with
    | stopped => exact conclude_poisoned ..
    | refused => rfl
    | moved => rfl

/-! ### Verifications -/

/-- **How a verification ends** whose re-execution came to `r`: the re-execution was set
back, or the end of execution that it met contradicts the record, or there is a report. -/
inductive Ends (s : Session τ) (r : Recheck σ τ ε) : Outcome σ τ ε Verification → Prop
  | stopped {setback : Setback ε} (found : r.found = .error setback) :
      Ends s r
        (({ s with stats := s.stats.recordVerification r.answered } : Session τ).conclude
          r.engine setback)
  | refused {report : Verification} {x : τ} {cause : Contradiction}
      (found : r.found = .ok (report, x)) (terminated : report.terminated = true)
      (contradicted : s.history.checkEnd report.reached = .error cause) :
      Ends s r
        (({ s with stats := s.stats.recordVerification r.answered } : Session τ).conclude
          r.engine (.contradicted cause))
  | reported {report : Verification} {x : τ} (found : r.found = .ok (report, x))
      (agrees : report.terminated = true → s.history.checkEnd report.reached = .ok ()) :
      Ends s r
        ⟨.ok report, { s with stats := s.stats.recordVerification r.answered }, r.engine⟩

/-- What the re-execution of a verification comes to. -/
def rechecked (e : Engine σ τ ε) (s : Session τ) (upTo : Nat) (engine : σ) : Recheck σ τ ε :=
  s.history.recheckEnd e
    (s.history.recheck e (s.history.clamp upTo) 0 0 0 s.history.origin engine)

/-- **Every verification of a usable session ends in one of three ways.** -/
theorem verify_ends (e : Engine σ τ ε) {s : Session τ} (usable : s.poisoned = none) (upTo : Nat)
    (engine : σ) : s.Ends (s.rechecked e upTo engine) (s.verify e upTo engine) := by
  generalize hr : s.rechecked e upTo engine = r
  unfold rechecked at hr
  unfold verify
  split
  · next i poisoned => rw [usable] at poisoned; cases poisoned
  · dsimp only
    rw [hr]
    split
    · next setback found => exact .stopped found
    · next report x found =>
      split
      · next cause contradicted =>
        split at contradicted
        · next terminated => exact .refused found terminated contradicted
        · cases contradicted
      · next agrees =>
        refine .reported found fun terminated => ?_
        rwa [if_pos terminated] at agrees

theorem verify_poisoned (e : Engine σ τ ε) (s : Session τ) (upTo : Nat) (engine : σ) :
    (s.verify e upTo engine).session.poisoned =
      (violation? (s.verify e upTo engine).answer).or s.poisoned := by
  cases poisoned : s.poisoned with
  | some i =>
    rw [verify_of_poisoned e poisoned]
    exact poisoned
  | none =>
    have ends := s.verify_ends e poisoned upTo engine
    rw [← poisoned]
    generalize s.verify e upTo engine = o at ends ⊢
    cases ends with
    | stopped => exact conclude_poisoned ..
    | refused => rfl
    | reported => rfl

/-- **A verification changes nothing but the count of verified steps and the poison
mark,** however it ends. -/
theorem verify_frame (e : Engine σ τ ε) (s : Session τ) (upTo : Nat) (engine : σ) :
    (s.verify e upTo engine).session.history = s.history ∧
      (s.verify e upTo engine).session.current = s.current ∧
      (s.verify e upTo engine).session.cursor = s.cursor ∧
      (s.verify e upTo engine).session.config = s.config := by
  cases poisoned : s.poisoned with
  | some i =>
    rw [verify_of_poisoned e poisoned]
    exact ⟨rfl, rfl, rfl, rfl⟩
  | none =>
    have ends := s.verify_ends e poisoned upTo engine
    generalize s.verify e upTo engine = o at ends ⊢
    cases ends with
    | stopped => simp
    | refused => simp
    | reported => exact ⟨rfl, rfl, rfl, rfl⟩

theorem recheck_later (e : Engine σ τ ε) (h : History τ) (gap i checked answered : Nat) (x : τ)
    (s : σ) : e.Later s (h.recheck e gap i checked answered x s).engine := by
  induction gap generalizing i checked answered x s with
  | zero => exact .now
  | succ gap ih =>
    have call : e.Later s (e.advance x s).2 := Engine.Later.now.call x
    rw [History.recheck]
    rcases hcall : e.advance x s with ⟨r, s'⟩
    rw [hcall] at call
    cases r with
    | rewrote y =>
      dsimp only
      split
      · exact call.trans (ih ..)
      · exact call
    | halted => exact call
    | failed error => exact call

omit [BEq τ] in
theorem recheckEnd_later (e : Engine σ τ ε) (h : History τ) (r : Recheck σ τ ε) :
    e.Later r.engine (h.recheckEnd e r).engine := by
  unfold History.recheckEnd
  split
  · exact .now
  · next report x _ =>
    have call : e.Later r.engine (e.advance x r.engine).2 := Engine.Later.now.call x
    split
    · rcases hcall : e.advance x r.engine with ⟨reply, s'⟩
      rw [hcall] at call
      cases reply <;> exact call
    · exact .now

theorem rechecked_later (e : Engine σ τ ε) (s : Session τ) (upTo : Nat) (engine : σ) :
    e.Later engine (s.rechecked e upTo engine).engine :=
  (recheck_later e s.history (s.history.clamp upTo) 0 0 0 s.history.origin engine).trans
    (recheckEnd_later e s.history _)

theorem verify_later (e : Engine σ τ ε) (s : Session τ) (upTo : Nat) (engine : σ) :
    e.Later engine (s.verify e upTo engine).engine := by
  cases poisoned : s.poisoned with
  | some i =>
    rw [verify_of_poisoned e poisoned]
    exact .now
  | none =>
    have ends := s.verify_ends e poisoned upTo engine
    have later := s.rechecked_later e upTo engine
    generalize s.verify e upTo engine = o at ends ⊢
    cases ends with
    | stopped =>
      rw [conclude_engine]
      exact later
    | refused => exact later
    | reported => exact later

theorem navigate_later (e : Engine σ τ ε) (s : Session τ) (k : Nat) (engine : σ) :
    e.Later engine (s.navigate e k engine).engine := by
  cases poisoned : s.poisoned with
  | some i =>
    rw [navigate_of_poisoned e poisoned]
    exact .now
  | none =>
    obtain ⟨w, walk, lands⟩ := s.navigate_lands e poisoned k engine
    have later : ∀ {r : Replay σ τ ε}, w.Stop e (s.history.clamp k) r →
        e.Later engine r.engine := fun stop => walk.later.trans stop.later
    generalize s.navigate e k engine = o at lands ⊢
    cases lands with
    | stopped stop =>
      rw [conclude_engine]
      exact later stop
    | refused stop => exact later stop
    | moved stop => exact later stop

/-- A navigation leaves the configuration alone. -/
theorem navigate_config (e : Engine σ τ ε) (s : Session τ) (k : Nat) (engine : σ) :
    (s.navigate e k engine).session.config = s.config := by
  cases poisoned : s.poisoned with
  | some i => rw [navigate_of_poisoned e poisoned]
  | none =>
    obtain ⟨w, -, lands⟩ := s.navigate_lands e poisoned k engine
    generalize s.navigate e k engine = o at lands ⊢
    cases lands with
    | stopped => rw [conclude_config]
    | refused => rfl
    | moved => rfl

/-! ### The index requested -/

omit [BEq τ] in
/-- **The index that a command requests.** A forward step whose target is no step index
requests the largest one if the end of execution is known, and otherwise nothing. -/
def requested? (s : Session τ) : Command → Option Nat
  | .step n =>
    if s.current + n ≤ Index.maxIndex then some (s.current + n)
    else if s.terminal.isSome then some Index.maxIndex
    else none
  | .back n => some (s.current - n)
  | .jump i => some i
  | .resume =>
    some (min (s.current + s.config.resumeLimit.getD Index.maxIndex) Index.maxIndex)
  | .position => none
  | .verify _ => none

omit [BEq τ] in
/-- A forward step to a step index requests it. -/
theorem requested?_step {s : Session τ} {n : Nat} (within : s.current + n ≤ Index.maxIndex) :
    s.requested? (.step n) = some (s.current + n) :=
  if_pos within

omit [BEq τ] in
/-- What a command requests depends on the index of the cursor, the known end of execution and the
limit to running forward. -/
theorem requested?_congr {s s' : Session τ} (current : s.current = s'.current)
    (terminal : s.terminal = s'.terminal)
    (resumeLimit : s.config.resumeLimit = s'.config.resumeLimit) (c : Command) :
    s.requested? c = s'.requested? c := by
  cases c with
  | step n => rw [requested?, requested?, current, terminal]
  | back n => rw [requested?, requested?, current]
  | resume => rw [requested?, requested?, current, resumeLimit]
  | jump | position | verify => rfl

/-- **A command that requests an index navigates there.** -/
theorem perform_of_requested (e : Engine σ τ ε) {s : Session τ} {c : Command} {k : Nat}
    (requested : s.requested? c = some k) (engine : σ) :
    s.perform e engine c = (s.navigate e k engine).map .visit := by
  cases c with
  | step n =>
    simp only [requested?] at requested
    simp only [perform, step, Index.add?]
    split at requested
    · next within =>
      rw [if_pos within, ← Option.some.inj requested]
    · next past =>
      rw [if_neg past]
      split at requested
      · next known =>
        rw [← Option.some.inj requested]
        simp only [known, if_true]
      · cases requested
  | back n =>
    rw [← Option.some.inj requested]
    rfl
  | jump i =>
    rw [← Option.some.inj requested]
    rfl
  | resume =>
    rw [← Option.some.inj requested]
    rfl
  | position => cases requested
  | verify i => cases requested

/-- A forward step that requests nothing is refused, and nothing else happens. -/
theorem perform_step_of_requested_none (e : Engine σ τ ε) {s : Session τ} {n : Nat}
    (requested : s.requested? (.step n) = none) (engine : σ) :
    s.perform e engine (.step n) = ⟨.error (.stepOverflow n s.current), s, engine⟩ := by
  simp only [requested?] at requested
  split at requested
  · cases requested
  · next past =>
    split at requested
    · cases requested
    · next unknown =>
      simp only [perform, step, Index.add?, if_neg past, unknown]
      rfl

/-- **What a command comes to:** a navigation, a verification, or an answer that leaves
everything as it is. -/
inductive ComesTo (e : Engine σ τ ε) (s : Session τ) (engine : σ) :
    Command → Outcome σ τ ε (Answer τ) → Prop
  | navigated {c : Command} {k : Nat} (requested : s.requested? c = some k) :
      ComesTo e s engine c ((s.navigate e k engine).map .visit)
  | overflowed {n : Nat} (requested : s.requested? (.step n) = none) :
      ComesTo e s engine (.step n) ⟨.error (.stepOverflow n s.current), s, engine⟩
  | told : ComesTo e s engine .position ⟨.ok (.visit s.position), s, engine⟩
  | verified (upTo : Nat) :
      ComesTo e s engine (.verify upTo) ((s.verify e upTo engine).map .report)

/-- **Every command comes to one of these.** -/
theorem perform_comesTo (e : Engine σ τ ε) (s : Session τ) (engine : σ) (c : Command) :
    s.ComesTo e engine c (s.perform e engine c) := by
  cases requested : s.requested? c with
  | some k =>
    rw [perform_of_requested e requested]
    exact .navigated requested
  | none =>
    cases c with
    | step n =>
      rw [perform_step_of_requested_none e requested]
      exact .overflowed requested
    | position => exact .told
    | verify upTo => exact .verified upTo
    | back | jump | resume => cases requested

/-! ### What a visit tells -/

/-- **A navigation that answers has moved the cursor:** its walk stopped without a setback, and
the history took the term reached for that at the cursor. -/
theorem navigate_moved {e : Engine σ τ ε} {s : Session τ} {k : Nat} {engine : σ}
    {visit : Visit τ} (landed : (s.navigate e k engine).answer = .ok visit) :
    ∃ (w : Waypoint σ τ) (h h' : History τ) (engine' : σ),
      (Waypoint.nearest s.history (s.history.clamp k) engine).Passes e (s.history.clamp k) w ∧
      w.Stop e (s.history.clamp k) ⟨.ok (w.index, w.state), h, engine'⟩ ∧
      h.pin w.index w.state = .ok h' ∧
      visit = ⟨w.state, w.index, k, h'.terminal == some w.index⟩ ∧
      (s.navigate e k engine).session =
        { s with
          history := h'
          current := w.index
          cursor := w.state
          stats := s.stats.recordNavigation
            (w.index - (s.history.nearest (s.history.clamp k)).index) } := by
  cases poisoned : s.poisoned with
  | some i =>
    rw [navigate_of_poisoned e poisoned] at landed
    cases landed
  | none =>
    obtain ⟨w, walk, lands⟩ := s.navigate_lands e poisoned k engine
    generalize s.navigate e k engine = o at lands landed ⊢
    cases lands with
    | @stopped setback => cases setback <;> cases landed
    | refused => cases landed
    | moved stop pinned =>
      refine ⟨w, _, _, _, walk, stop, pinned, (Except.ok.inj landed).symm, ?_⟩
      rw [poisoned]

theorem navigate_visit {e : Engine σ τ ε} {s : Session τ} {k : Nat} {engine : σ}
    {visit : Visit τ} (landed : (s.navigate e k engine).answer = .ok visit) :
    visit = { (s.navigate e k engine).session.position with requested := k } := by
  obtain ⟨w, h, h', engine', -, -, -, rfl, after⟩ := navigate_moved landed
  rw [after]
  rfl

/-- **A visit tells where the cursor stands after the command,** and which index was
requested. -/
theorem perform_visit {e : Engine σ τ ε} {s : Session τ} {engine : σ} {c : Command}
    {visit : Visit τ} (answered : (s.perform e engine c).answer = .ok (.visit visit)) :
    visit = { (s.perform e engine c).session.position with requested := visit.requested } := by
  have done := s.perform_comesTo e engine c
  generalize s.perform e engine c = o at done answered ⊢
  cases done with
  | navigated requested =>
    obtain rfl := navigate_visit (map_visit_eq_ok.1 answered)
    rfl
  | overflowed => cases answered
  | told =>
    cases answered
    rfl
  | verified upTo => exact absurd answered map_report_ne_visit

/-! ### Runs -/

/-- **What navigations and verifications of a usable session preserve, every command
preserves.** -/
theorem perform_preserves {e : Engine σ τ ε} {I : Session τ → σ → Prop}
    (navigate : ∀ s engine k, s.poisoned = none → I s engine →
      I (s.navigate e k engine).session (s.navigate e k engine).engine)
    (verify : ∀ s engine i, s.poisoned = none → I s engine →
      I (s.verify e i engine).session (s.verify e i engine).engine)
    {s : Session τ} {engine : σ} (h : I s engine) (c : Command) :
    I (s.perform e engine c).session (s.perform e engine c).engine := by
  -- a poisoned session refuses, and nothing happens
  have navigate' : ∀ k, I (s.navigate e k engine).session (s.navigate e k engine).engine := by
    intro k
    cases poisoned : s.poisoned with
    | none => exact navigate s engine k poisoned h
    | some i =>
      rw [navigate_of_poisoned e poisoned]
      exact h
  have done := s.perform_comesTo e engine c
  generalize s.perform e engine c = o at done ⊢
  cases done with
  | @navigated _ k => exact navigate' k
  | overflowed | told => exact h
  | verified i =>
    show I (s.verify e i engine).session (s.verify e i engine).engine
    cases poisoned : s.poisoned with
    | none => exact verify s engine i poisoned h
    | some j =>
      rw [verify_of_poisoned e poisoned]
      exact h

/-- **What a command preserves, a run preserves.** -/
theorem performAll_preserves {e : Engine σ τ ε} {I : Session τ → σ → Prop}
    (perform : ∀ s engine c, I s engine →
      I (s.perform e engine c).session (s.perform e engine c).engine)
    {s : Session τ} {engine : σ} (h : I s engine) (cs : List Command) :
    I (s.performAll e engine cs).session (s.performAll e engine cs).engine := by
  induction cs generalizing s engine with
  | nil => exact h
  | cons c rest ih =>
    rw [performAll_cons]
    exact ih (perform s engine c h)

/-- **A command poisons a session exactly by reporting a contradiction,** at the index that
it reports, and a poisoned session stays poisoned there. -/
theorem perform_poisoned (e : Engine σ τ ε) (s : Session τ) (engine : σ) (c : Command) :
    (s.perform e engine c).session.poisoned =
      (violation? (s.perform e engine c).answer).or s.poisoned := by
  have done := s.perform_comesTo e engine c
  generalize s.perform e engine c = o at done ⊢
  cases done with
  | @navigated _ k =>
    rw [violation?_map]
    exact s.navigate_poisoned e k engine
  | overflowed | told => rfl
  | verified i =>
    rw [violation?_map]
    exact s.verify_poisoned e i engine

/-- Every command is answered. -/
theorem length_answers (e : Engine σ τ ε) (s : Session τ) (engine : σ) (cs : List Command) :
    (s.performAll e engine cs).answers.length = cs.length := by
  induction cs generalizing s engine with
  | nil => rfl
  | cons c rest ih =>
    rw [performAll_cons, List.length_cons, List.length_cons, ih]

/-- **A sequence of commands can be cut anywhere.** -/
theorem performAll_append (e : Engine σ τ ε) (s : Session τ) (engine : σ)
    (cs ds : List Command) :
    s.performAll e engine (cs ++ ds) =
      let first := s.performAll e engine cs
      let others := first.session.performAll e first.engine ds
      ⟨first.answers ++ others.answers, others.session, others.engine⟩ := by
  induction cs generalizing s engine with
  | nil => rfl
  | cons c rest ih =>
    rw [List.cons_append, performAll_cons, performAll_cons]
    dsimp only
    rw [ih]
    rfl

theorem perform_later (e : Engine σ τ ε) (s : Session τ) (engine : σ) (c : Command) :
    e.Later engine (s.perform e engine c).engine :=
  perform_preserves (I := fun _ engine' => e.Later engine engine')
    (fun s engine' k _ later => later.trans (s.navigate_later e k engine'))
    (fun s engine' i _ later => later.trans (s.verify_later e i engine')) .now c

theorem performAll_later (e : Engine σ τ ε) (s : Session τ) (engine : σ) (cs : List Command) :
    e.Later engine (s.performAll e engine cs).engine :=
  performAll_preserves (I := fun _ engine' => e.Later engine engine')
    (fun s engine' c later => later.trans (s.perform_later e engine' c)) .now cs

/-! ### Invariants of the history -/

section

variable {I : History τ → Prop} (inv : History.Invariant I) {e : Engine σ τ ε} {s : Session τ}
  {engine : σ}

include inv

/-- **What no recording spoils, no navigation spoils,** however it ends. -/
theorem navigate_history (before : I s.history) (k : Nat) :
    I (s.navigate e k engine).session.history := by
  cases poisoned : s.poisoned with
  | some i =>
    rw [navigate_of_poisoned e poisoned]
    exact before
  | none =>
    obtain ⟨w, walk, lands⟩ := s.navigate_lands e poisoned k engine
    have reached : I w.history := walk.preserves inv before
    generalize s.navigate e k engine = o at lands ⊢
    cases lands with
    | stopped stop =>
      rw [conclude_history]
      exact stop.preserves inv reached
    | refused stop => exact stop.preserves inv reached
    | moved stop pinned => exact inv.pin (stop.preserves inv reached) pinned

/-- **Nor does any command,** since a verification records nothing. -/
theorem perform_history (before : I s.history) (c : Command) :
    I (s.perform e engine c).session.history := by
  refine perform_preserves (I := fun s _ => I s.history) ?_ ?_ before c
  · intro s engine k _ before
    exact navigate_history inv before k
  · intro s engine i _ before
    rw [(s.verify_frame e i engine).1]
    exact before

/-- **Nor does any run.** -/
theorem performAll_history (before : I s.history) (cs : List Command) :
    I (s.performAll e engine cs).session.history :=
  performAll_preserves (I := fun s _ => I s.history)
    (fun _ _ c before => perform_history inv before c) before cs

end

theorem navigate_wellFormed (e : Engine σ τ ε) {s : Session τ} (wf : s.history.WellFormed)
    (k : Nat) (engine : σ) : (s.navigate e k engine).session.history.WellFormed :=
  navigate_history History.wellFormed_invariant wf k

/-- **The history of every reachable session is well-formed,** whatever the engine answered
and however commands failed. -/
theorem performAll_wellFormed (e : Engine σ τ ε) (initial : τ) (config : Config) (engine : σ)
    (cs : List Command) :
    ((start initial config).performAll e engine cs).session.history.WellFormed :=
  performAll_history History.wellFormed_invariant
    (History.new_wellFormed initial config.retention) cs

end Session

end Retrace
