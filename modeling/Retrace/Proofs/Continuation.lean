import Retrace.Engine.Wrapper
import Retrace.Proofs.Execution
import Retrace.Proofs.Logging

/-!
# Direct execution goes on

Direct execution is what every navigation is compared with, and it has a law of its own: it makes no
difference whether a budget is given at once or in two parts. The run over the whole budget is the
run over the first part, and if that spent what it had, then it goes on from where it stands with
the second part. If it ended or failed, then the second part changes nothing.

All of this holds of every engine, as long as the second part goes on with the state in which the
first one left the engine. A pure engine answers the same in whatever state it is, so there the
second part may as well be a run of its own.

## Main definitions

* `Execution.after` — the same execution, counted from an earlier start.
* `Engine.resume` — go on from where a run ended.
* `Engine.calls`, `Engine.callsBehind` — the calls that direct execution makes to an engine, asked
  as it is or through wrappers.
* `Execution.ToldBy` — what a list of calls, each about the term that the one before it produced,
  tells of the run that makes them.

## Main statements

* `Engine.run_add` — direct execution over a sum of budgets.
* `Engine.run_toldBy` — direct execution ends as its calls tell.
* `Execution.ToldBy.length_eq` — one call for each step, and one more for the end of execution.
* `Engine.run_add_of_spent`, `Engine.run_add_of_done` — how a run goes on, and
  `Engine.calls_add_of_spent`, `Engine.calls_add_of_done` — how its calls do.
* `Engine.direct_execution_composes` — the law for a pure engine behind wrappers.

What is load-bearing is the boundary: a run that spends its budget does not ask about the term it
stopped at, so an end of execution that is met exactly there is reported by the second run, with no
step of its own.
-/

namespace Retrace

universe u v w

variable {σ : Type w} {τ : Type u} {ε : Type v}

/-- **The same execution,** counted from a start `n` steps earlier. -/
def Execution.after (n : Nat) (d : Execution τ) : Execution τ :=
  { d with steps := n + d.steps }

namespace Engine

/-! ### Budgets add up -/

/-- The steps done before only add to the count. -/
theorem runFrom_after (e : Engine σ τ ε) (budget n steps : Nat) (x : τ) (s : σ) :
    e.runFrom budget (n + steps) x s =
      Prod.map (Except.map (Execution.after n)) id (e.runFrom budget steps x s) := by
  induction budget generalizing steps x s with
  | zero => rfl
  | succ budget ih =>
    rw [runFrom_succ, runFrom_succ]
    rcases e.advance x s with ⟨r, s'⟩
    cases r with
    | rewrote y => exact ih (steps + 1) y s'
    | halted | failed => rfl

/-- A run with steps behind it is direct execution, counted from its start. -/
theorem runFrom_eq_run (e : Engine σ τ ε) (budget n : Nat) (x : τ) (s : σ) :
    e.runFrom budget n x s = Prod.map (Except.map (Execution.after n)) id (e.run budget x s) :=
  e.runFrom_after budget n 0 x s

/-- **The first call of direct execution** decides whether there is more of it. -/
theorem run_succ (e : Engine σ τ ε) (budget : Nat) (x : τ) (s : σ) :
    e.run (budget + 1) x s =
      match e.advance x s with
      | (.rewrote y, s') => Prod.map (Except.map (Execution.after 1)) id (e.run budget y s')
      | (.halted, s') => (.ok ⟨x, 0, true⟩, s')
      | (.failed error, s') => (.error error, s') := by
  rw [run, runFrom_succ]
  rcases e.advance x s with ⟨r, s'⟩
  cases r with
  | rewrote y => exact e.runFrom_eq_run budget 1 y s'
  | halted | failed => rfl

/-- **Go on** from where a run ended, if it spent its budget. There is nothing to go on with if it
came to the end of execution or failed. -/
def resume (e : Engine σ τ ε) (budget : Nat) :
    Except ε (Execution τ) × σ → Except ε (Execution τ) × σ
  | (.ok ⟨x, steps, false⟩, s) => e.runFrom budget steps x s
  | done => done

theorem runFrom_add (e : Engine σ τ ε) (a b steps : Nat) (x : τ) (s : σ) :
    e.runFrom (a + b) steps x s = e.resume b (e.runFrom a steps x s) := by
  induction a generalizing steps x s with
  | zero => rw [Nat.zero_add]; rfl
  | succ a ih =>
    rw [Nat.succ_add, runFrom_succ, runFrom_succ]
    rcases e.advance x s with ⟨r, s'⟩
    cases r with
    | rewrote y => exact ih (steps + 1) y s'
    | halted | failed => rfl

/-- **Direct execution over a sum of budgets** goes on from where the first one ended it. -/
theorem run_add (e : Engine σ τ ε) (a b : Nat) (x : τ) (s : σ) :
    e.run (a + b) x s = e.resume b (e.run a x s) :=
  e.runFrom_add a b 0 x s

/-! ### The calls of direct execution -/

/-- **The calls that direct execution makes,** with the replies, in order. -/
def calls (e : Engine σ τ ε) (budget : Nat) (x : τ) (s : σ) : List (τ × Reply τ ε) :=
  (e.logged.run budget x (s, [])).2.2

/-- **The calls that reach an engine behind wrappers,** with the replies, in order. -/
def callsBehind (e : Engine σ τ ε) (ws : List (Wrapper ε)) (budget : Nat) (x : τ) (s : σ) :
    List (τ × Reply τ ε) :=
  ((e.logged.behindAll ws).run budget x (s, [])).2.2

theorem callsBehind_eq (e : Engine σ τ ε) (ws : List (Wrapper ε)) : e.callsBehind ws = e.calls := by
  funext budget x s
  rw [callsBehind, behindAll_eq, calls]

/-- **Direct execution adds its calls to the log,** and is the same execution. -/
theorem run_logged (e : Engine σ τ ε) (budget : Nat) (x : τ) (s : σ)
    (log : List (τ × Reply τ ε)) :
    e.logged.run budget x (s, log) =
      ((e.run budget x s).1, (e.run budget x s).2, log ++ e.calls budget x s) := by
  have fresh := run_view (e.logged_mimics_from log) budget x (s, [])
  rw [List.append_nil] at fresh
  rw [← fresh, ← run_view e.logged_mimics budget x (s, [])]
  rfl

theorem calls_succ (e : Engine σ τ ε) (budget : Nat) (x : τ) (s : σ) :
    e.calls (budget + 1) x s =
      (x, (e.advance x s).1) ::
        match e.advance x s with
        | (.rewrote y, s') => e.calls budget y s'
        | _ => [] := by
  have first : e.logged.advance x (s, []) =
      ((e.advance x s).1, (e.advance x s).2, [(x, (e.advance x s).1)]) := rfl
  rw [calls, run_succ, first]
  rcases e.advance x s with ⟨r, s'⟩
  cases r with
  | rewrote y =>
    dsimp only
    rw [run_logged]
    rfl
  | halted | failed => rfl

end Engine

/-- **What calls tell of the run that makes them,** if it starts with `x` and has a budget. Each of
them is about the term that the one before it produced, and the run ends with the first that is not
answered by a rewrite, or with as many calls as its budget. -/
inductive Execution.ToldBy : Nat → τ → List (τ × Reply τ ε) → Except ε (Execution τ) → Prop
  /-- Without a budget nothing is asked. -/
  | spent (x : τ) : ToldBy 0 x [] (.ok ⟨x, 0, false⟩)
  /-- A rewrite is one step, and the later calls tell the rest. -/
  | rewrote {budget : Nat} {y : τ} {calls : List (τ × Reply τ ε)} {o : Except ε (Execution τ)}
      (x : τ) (later : ToldBy budget y calls o) :
      ToldBy (budget + 1) x ((x, .rewrote y) :: calls) (o.map (Execution.after 1))
  /-- Nothing is asked after the end of execution. -/
  | halted (budget : Nat) (x : τ) : ToldBy (budget + 1) x [(x, .halted)] (.ok ⟨x, 0, true⟩)
  /-- Nor after a failure. -/
  | failed (budget : Nat) (x : τ) (error : ε) :
      ToldBy (budget + 1) x [(x, .failed error)] (.error error)

namespace Execution.ToldBy

variable {budget : Nat} {x : τ} {calls : List (τ × Reply τ ε)} {d : Execution τ}

/-- **There is one call for each step,** and one more if execution came to its end. -/
theorem length_eq (h : ToldBy budget x calls (.ok d)) :
    calls.length = d.steps + d.terminated.toNat := by
  generalize ended : Except.ok d = o at h
  induction h generalizing d with
  | spent x => cases ended; rfl
  | @rewrote _ _ _ o x _ ih =>
    cases o with
    | error error => cases ended
    | ok d' =>
      cases ended
      have counted := ih rfl
      simp only [List.length_cons, Execution.after]
      omega
  | halted budget x => cases ended; rfl
  | failed budget x error => cases ended

end Execution.ToldBy

namespace Engine

/-- **Direct execution ends as its calls tell.** -/
theorem run_toldBy (e : Engine σ τ ε) (budget : Nat) (x : τ) (s : σ) :
    Execution.ToldBy budget x (e.calls budget x s) (e.run budget x s).1 := by
  induction budget generalizing x s with
  | zero => exact .spent x
  | succ budget ih =>
    rw [calls_succ, run_succ]
    rcases e.advance x s with ⟨r, s'⟩
    cases r with
    | rewrote y => exact .rewrote x (ih y s')
    | halted => exact .halted budget x
    | failed error => exact .failed budget x error

/-! ### How a run goes on -/

section

variable {e : Engine σ τ ε} {a n : Nat} {x y : τ} {s s' : σ} {o : Except ε (Execution τ)}

/-- A run that is logged from the start is the run, with its calls for a log. -/
theorem run_logged_of_run (h : e.run a x s = (o, s')) :
    e.logged.run a x (s, []) = (o, s', e.calls a x s) := by
  rw [run_logged, h, List.nil_append]

/-- **A run that spent its budget** goes on with direct execution from where it stands. -/
theorem run_add_of_spent (h : e.run a x s = (.ok ⟨y, n, false⟩, s')) (b : Nat) :
    e.run (a + b) x s = Prod.map (Except.map (Execution.after n)) id (e.run b y s') := by
  rw [run_add, h]
  exact e.runFrom_eq_run b n y s'

/-- After its calls come those of the execution it goes on with. -/
theorem calls_add_of_spent (h : e.run a x s = (.ok ⟨y, n, false⟩, s')) (b : Nat) :
    e.calls (a + b) x s = e.calls a x s ++ e.calls b y s' := by
  have whole := run_add_of_spent (run_logged_of_run h) b
  rw [e.run_logged (a + b), e.run_logged b] at whole
  exact congrArg (fun run => run.2.2) whole

/-- **A run that came to the end of execution or failed** is the same run within a larger budget. -/
theorem run_add_of_done (done : ∀ y n, o ≠ .ok ⟨y, n, false⟩) (h : e.run a x s = (o, s'))
    (b : Nat) : e.run (a + b) x s = (o, s') := by
  rw [run_add, h]
  unfold resume
  split
  · next spent => exact absurd (Prod.mk.inj spent).1 (done _ _)
  · rfl

/-- And it makes the same calls. -/
theorem calls_add_of_done (done : ∀ y n, o ≠ .ok ⟨y, n, false⟩) (h : e.run a x s = (o, s'))
    (b : Nat) : e.calls (a + b) x s = e.calls a x s :=
  congrArg (fun run => run.2.2) (run_add_of_done done (run_logged_of_run h) b)

end

/-! ### Pure engines -/

variable {e : Engine σ τ ε} {f : τ → Reply τ ε}

/-- A pure engine logs what the function logs that it answers by. -/
theorem AnswersBy.logged_mimics (pure : e.AnswersBy f) :
    e.logged.Mimics (ofFn f).logged fun s => ((), s.2) := by
  intro x s
  simp only [logged, ofFn_advance, pure x s.1]

/-- **Direct execution over a pure engine** ends alike and makes the same calls, whatever state the
engine is in. -/
theorem AnswersBy.run_eq (pure : e.AnswersBy f) (budget : Nat) (x : τ) (s s' : σ) :
    (e.run budget x s).1 = (e.run budget x s').1 ∧ e.calls budget x s = e.calls budget x s' := by
  have same := fun s => run_view pure.logged_mimics budget x (s, [])
  have alike := (same s).trans (same s').symm
  rw [run_logged, run_logged, Prod.map_apply, Prod.map_apply] at alike
  obtain ⟨result, made⟩ := Prod.mk.inj alike
  exact ⟨result, (Prod.mk.inj made).2⟩

/-- Every call to a pure engine is answered by the function. -/
theorem AnswersBy.answered (pure : e.AnswersBy f) (budget : Nat) (x : τ) (s : σ) :
    ∀ call ∈ e.calls budget x s, f call.1 = call.2 := by
  induction budget generalizing x s with
  | zero => nofun
  | succ budget ih =>
    rw [calls_succ]
    refine List.forall_mem_cons.2 ⟨(pure x s).symm, ?_⟩
    rcases e.advance x s with ⟨r, s'⟩
    cases r with
    | rewrote y => exact ih y s'
    | halted | failed => nofun

/-- **Direct execution composes,** call for call and behind wrappers of whatever kind. Let an engine
be pure, and let it be asked through any wrappers inside one another. That is as good as asking it
itself: direct execution has the same result and leaves the same state, and the calls that it makes
are those that reach the engine. Each of them is answered by the function of the engine, and they
tell the result. If a run fails within a budget, then it fails alike within any larger one. If it is
told of the end of execution, then it made fewer steps than it has a budget for and one call more
than steps, and within any larger budget it is the same run. If it spends its budget, then it makes
as many steps and as many calls, and within a larger budget it is continued by a run of its own over
the rest, with the steps counted on and the calls in a row.

Budgets need no bound for that. A run never makes more steps than it has a budget for, so a word
that holds the budget holds the count. -/
theorem direct_execution_composes (pure : e.AnswersBy f) (ws : List (Wrapper ε)) (x : τ)
    (a b : Nat) (s s' : σ) :
    let g := e.behindAll ws
    let calls := e.callsBehind ws
    (∀ n y t, g.run n y t = e.run n y t ∧ g.calls n y t = e.calls n y t ∧
      calls n y t = e.calls n y t) ∧
    Execution.ToldBy a x (calls a x s) (g.run a x s).1 ∧
    (∀ call ∈ calls a x s, f call.1 = call.2) ∧
    match (g.run a x s).1 with
    | .error error =>
      (g.run (a + b) x s).1 = .error error ∧ calls (a + b) x s = calls a x s
    | .ok ⟨y, n, true⟩ =>
      n < a ∧ (calls a x s).length = n + 1 ∧
        (g.run (a + b) x s).1 = .ok ⟨y, n, true⟩ ∧ calls (a + b) x s = calls a x s
    | .ok ⟨y, n, false⟩ =>
      n = a ∧ (calls a x s).length = n ∧
        (g.run (a + b) x s).1 = (g.run b y s').1.map (Execution.after a) ∧
        calls (a + b) x s = calls a x s ++ calls b y s' := by
  intro g calls
  rw [show g = e from e.behindAll_eq ws, show calls = e.calls from e.callsBehind_eq ws]
  have told := e.run_toldBy a x s
  have finishes := run_finishes pure a x s
  refine ⟨fun _ _ _ => ⟨rfl, rfl, rfl⟩, told, pure.answered a x s, ?_⟩
  rcases first : e.run a x s with ⟨o, s₁⟩
  rw [first] at told finishes
  match o with
  | .error error =>
    exact ⟨congrArg Prod.fst (run_add_of_done nofun first b), calls_add_of_done nofun first b⟩
  | .ok ⟨y, n, true⟩ =>
    exact ⟨finishes.lt_iff.2 rfl, told.length_eq,
      congrArg Prod.fst (run_add_of_done nofun first b), calls_add_of_done nofun first b⟩
  | .ok ⟨y, n, false⟩ =>
    have spent : ¬ n < a := fun short => Bool.false_ne_true (finishes.lt_iff.1 short)
    obtain rfl : n = a := Nat.le_antisymm finishes.steps_le (Nat.le_of_not_lt spent)
    -- the engine is left in some state, and answers in it as in any other
    obtain ⟨result, made⟩ := pure.run_eq b y s₁ s'
    refine ⟨rfl, told.length_eq, ?_, ?_⟩
    · rw [run_add_of_spent first b, ← result]
      rfl
    · rw [calls_add_of_spent first b, made]

/-- A countdown from three, over an engine that counts its calls and is asked by a step function
through two references. A budget of three is spent at the end of execution without asking about it,
so that a second run, over the engine in some later state, is told of it at once. A budget of four
is enough to be told, and one of six changes nothing. Nor does a larger budget for an engine that
fails. -/
theorem direct_execution_composes_in_countdown :
    let ws : List (Wrapper String) := [.step, .shared, .borrowed]
    let counted : Engine Nat Nat String := ⟨fun x answered => (countdown x, answered + 1)⟩
    let g := counted.behindAll ws
    let stuck := (ofFn (stuckAt 4) : Engine Unit Nat String).behindAll ws
    (g.run 3 3 0).1 = .ok ⟨0, 3, false⟩ ∧ (g.run 2 0 7).1 = .ok ⟨0, 0, true⟩ ∧
      (g.run 5 3 0).1 = .ok ⟨0, 3, true⟩ ∧
      counted.callsBehind ws 5 3 0 =
        [(3, .rewrote 2), (2, .rewrote 1), (1, .rewrote 0)] ++ [(0, .halted)] ∧
      (g.run 4 3 0).1 = .ok ⟨0, 3, true⟩ ∧ (counted.callsBehind ws 4 3 0).length = 4 ∧
      (g.run 6 3 0).1 = .ok ⟨0, 3, true⟩ ∧
      (stuck.run 3 2 ()).1 = .error "stuck" ∧ (stuck.run 7 2 ()).1 = .error "stuck" := by
  intro ws counted g stuck
  have pure : counted.AnswersBy countdown := fun _ _ => rfl
  obtain ⟨-, -, -, -, -, whole, made⟩ := direct_execution_composes pure ws 3 3 2 0 7
  obtain ⟨-, -, -, -, length, same, -⟩ := direct_execution_composes pure ws 3 4 2 0 7
  obtain ⟨-, -, -, fails, -⟩ :=
    direct_execution_composes (ofFn_answersBy (stuckAt 4)) ws 2 3 4 () ()
  exact ⟨rfl, rfl, whole, made, rfl, length, same, rfl, fails⟩

end Engine

end Retrace
