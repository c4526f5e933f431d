import Retrace.Engine.Run
import Retrace.Session.Command

/-!
# Logging changes nothing

A session learns of its engine by the replies only. So an engine that answers as
another one does, whatever else it keeps in its state, drives every session to the same
answers and the same record. In particular a logged engine does: what its log holds are
the calls of the session that runs without one.

## Main definitions

* `Engine.Mimics` — an engine answers as another one does on a view of its state.
* `Outcome.view`, `Transcript.view` — what a command, or a sequence of commands, leaves
  behind, with a view of the engine state.

## Main statements

* `Engine.run_view` — an engine that mimics another one can take its place in direct execution.
* `Session.performAll_view` — and in every session.
* `Session.performAll_logged` — a logged engine can take the place of the engine.
-/

namespace Retrace

universe u v w w' z

variable {σ : Type w} {σ' : Type w'} {τ : Type u} {ε : Type v} {α : Type z}

/-! ### Views -/

/-- **One engine mimics another** through a view of its state: it gives the same replies,
and the view of the state goes through the states of the other. -/
def Engine.Mimics (d : Engine σ' τ ε) (e : Engine σ τ ε) (view : σ' → σ) : Prop :=
  ∀ x s, e.advance x (view s) = ((d.advance x s).1, view (d.advance x s).2)

theorem Engine.logged_mimics (e : Engine σ τ ε) : e.logged.Mimics e Prod.fst :=
  fun _ _ => rfl

/-- What was logged before makes no difference to what is logged after. -/
theorem Engine.logged_mimics_from (e : Engine σ τ ε) (log : List (τ × Reply τ ε)) :
    e.logged.Mimics e.logged fun s => (s.1, log ++ s.2) := by
  intro x s
  simp only [Engine.logged, List.append_assoc]

/-- The same replay with a view of the engine state. -/
def Replay.view (view : σ' → σ) (r : Replay σ' τ ε) : Replay σ τ ε :=
  ⟨r.reached, r.history, view r.engine⟩

/-- The same re-execution with a view of the engine state. -/
def Recheck.view (view : σ' → σ) (r : Recheck σ' τ ε) : Recheck σ τ ε :=
  ⟨r.found, r.answered, view r.engine⟩

/-- The same outcome with a view of the engine state. -/
def Outcome.view (view : σ' → σ) (o : Outcome σ' τ ε α) : Outcome σ τ ε α :=
  ⟨o.answer, o.session, view o.engine⟩

/-- The same transcript with a view of the engine state. -/
def Transcript.view (view : σ' → σ) (t : Transcript σ' τ ε) : Transcript σ τ ε :=
  ⟨t.answers, t.session, view t.engine⟩

variable {d : Engine σ' τ ε} {e : Engine σ τ ε} {view : σ' → σ}

/-! ### Direct execution -/

namespace Engine

theorem runFrom_view (mimics : d.Mimics e view) (budget steps : Nat) (x : τ) (s : σ') :
    Prod.map id view (d.runFrom budget steps x s) = e.runFrom budget steps x (view s) := by
  induction budget generalizing steps x s with
  | zero => rfl
  | succ budget ih =>
    rw [runFrom_succ, runFrom_succ, mimics x s]
    rcases d.advance x s with ⟨r, s'⟩
    cases r with
    | rewrote y => exact ih (steps + 1) y s'
    | halted | failed => rfl

/-- **An engine that mimics another one can take its place** in direct execution. -/
theorem run_view (mimics : d.Mimics e view) (budget : Nat) (x : τ) (s : σ') :
    Prod.map id view (d.run budget x s) = e.run budget x (view s) :=
  runFrom_view mimics budget 0 x s

end Engine

/-! ### Re-executions -/

namespace History

variable [BEq τ]

theorem replay_view (mimics : d.Mimics e view) (gap i : Nat) (x : τ) (h : History τ) (s : σ') :
    (replay d gap i x h s).view view = replay e gap i x h (view s) := by
  induction gap generalizing i x h s with
  | zero => rfl
  | succ gap ih =>
    rw [replay, replay, mimics x s]
    rcases d.advance x s with ⟨r, s'⟩
    cases r with
    | rewrote y =>
      dsimp only
      cases h.put (i + 1) y with
      | ok accepted => exact ih (i + 1) y accepted.2 s'
      | error cause => rfl
    | halted =>
      dsimp only
      cases h.markTerminal i x <;> rfl
    | failed error => rfl

theorem recheck_view (mimics : d.Mimics e view) (h : History τ) (gap i checked answered : Nat)
    (x : τ) (s : σ') :
    (h.recheck d gap i checked answered x s).view view =
      h.recheck e gap i checked answered x (view s) := by
  induction gap generalizing i checked answered x s with
  | zero => rfl
  | succ gap ih =>
    rw [recheck, recheck, mimics x s]
    rcases d.advance x s with ⟨r, s'⟩
    cases r with
    | rewrote y =>
      dsimp only
      cases h.check (i + 1) y with
      | ok _ => exact ih ..
      | error cause => rfl
    | halted => rfl
    | failed error => rfl

omit [BEq τ] in
theorem recheckEnd_view (mimics : d.Mimics e view) (h : History τ) (r : Recheck σ' τ ε) :
    (h.recheckEnd d r).view view = h.recheckEnd e (r.view view) := by
  obtain ⟨found, answered, s⟩ := r
  cases found with
  | error setback => rfl
  | ok found =>
    obtain ⟨report, x⟩ := found
    simp only [recheckEnd, Recheck.view]
    by_cases asks : (!report.terminated && h.terminal == some report.reached) = true
    · rw [if_pos asks, if_pos asks, mimics x s]
      rcases d.advance x s with ⟨r, s'⟩
      cases r <;> rfl
    · rw [if_neg asks, if_neg asks]

end History

/-! ### Commands -/

namespace Session

theorem conclude_view (s : Session τ) (engine : σ') (setback : Setback ε) :
    (s.conclude engine setback : Outcome σ' τ ε α).view view =
      s.conclude (view engine) setback := by
  cases setback <;> rfl

variable [BEq τ]

theorem navigate_view (mimics : d.Mimics e view) (s : Session τ) (k : Nat) (engine : σ') :
    (s.navigate d k engine).view view = s.navigate e k (view engine) := by
  simp only [navigate, ← History.replay_view mimics]
  generalize History.replay d _ _ _ s.history engine = r
  obtain ⟨reached, h, engine'⟩ := r
  cases s.poisoned with
  | some i => rfl
  | none =>
    cases reached with
    | error setback => exact conclude_view ..
    | ok place =>
      dsimp only [Replay.view]
      cases h.pin place.1 place.2 <;> rfl

theorem verify_view (mimics : d.Mimics e view) (s : Session τ) (upTo : Nat) (engine : σ') :
    (s.verify d upTo engine).view view = s.verify e upTo (view engine) := by
  simp only [verify, ← History.recheck_view mimics, ← History.recheckEnd_view mimics]
  generalize History.recheckEnd d s.history _ = r
  obtain ⟨found, answered, engine'⟩ := r
  cases s.poisoned with
  | some i => rfl
  | none =>
    cases found with
    | error setback => exact conclude_view ..
    | ok found =>
      dsimp only [Recheck.view]
      split <;> rfl

theorem perform_view (mimics : d.Mimics e view) (s : Session τ) (engine : σ') (c : Command) :
    (s.perform d engine c).view view = s.perform e (view engine) c := by
  have navigates : ∀ k, ((s.navigate d k engine).map Answer.visit).view view =
      (s.navigate e k (view engine)).map .visit := by
    intro k
    rw [← s.navigate_view mimics]
    rfl
  cases c with
  | step n =>
    simp only [perform, step]
    split
    · next target _ => exact navigates target
    · split
      · exact navigates Index.maxIndex
      · rfl
  | back n => exact navigates (s.current - n)
  | jump i => exact navigates i
  | resume => exact navigates _
  | position => rfl
  | verify upTo =>
    rw [perform, perform, ← s.verify_view mimics]
    rfl

/-- **An engine that mimics another one can take its place** in any sequence of commands. -/
theorem performAll_view (mimics : d.Mimics e view) (s : Session τ) (engine : σ')
    (cs : List Command) :
    (s.performAll d engine cs).view view = s.performAll e (view engine) cs := by
  induction cs generalizing s engine with
  | nil => rfl
  | cons c rest ih =>
    have others := ih (s.perform d engine c).session (s.perform d engine c).engine
    rw [performAll_cons, performAll_cons, ← s.perform_view mimics]
    dsimp only [Outcome.view]
    rw [← others]
    rfl

/-- **Logging changes nothing** that a session answers or records. -/
theorem performAll_logged (e : Engine σ τ ε) (s : Session τ) (engine : σ)
    (log : List (τ × Reply τ ε)) (cs : List Command) :
    (s.performAll e.logged (engine, log) cs).view Prod.fst = s.performAll e engine cs :=
  performAll_view e.logged_mimics s (engine, log) cs

end Session

end Retrace
