import Mathlib.Logic.Relator
import Retrace.Engine.Run

/-!
# Executions as chains of answers

Which terms may stand at which index, and on whose word. An index is reached by a
chain of rewrites from the initial term, and every link of the chain is an answer
that somebody vouches for. Who vouches is left open: it may be a function of the
term, or the log of everything an engine ever answered. The invariants of a
session are stated once over this relation and hold of either.

## Main definitions

* `Reaches` — a chain of granted rewrites of a given length.
* `Engine.AnswersBy` — the replies of an engine are those of a function of the term,
  whatever its state does meanwhile.
* `Engine.Ledger` — a set of answers read off the engine state, which holds every
  answer given so far.
* `Finishes` — how direct execution within a budget ends, as a relation.
* `Halts`, `Engine.HaltsAt` — where execution halts, by its answers and by its runs.
* `countdown`, `counting`, `stuckAt`, `Engine.tiring` — three programs and an unreliable engine
  to try things on.

## Main statements

* `Reaches.unique`, `Reaches.le_of_stop` — if answers do not disagree, neither do
  chains, and no chain goes past a term without a rewrite.
* `Engine.logged_ledger`, `Engine.AnswersBy.ledger` — the two ledgers.
* `Engine.run_eq_iff` — direct execution has exactly the result that `Finishes`
  describes.
* `Finishes.terminated_iff` — it reports the end exactly if execution halts within the budget.
* `Finishes.resume` — it goes on from where a budget ended it.
-/

namespace Retrace

universe u v w

variable {σ : Type w} {τ : Type u} {ε : Type v}

/-! ### Chains -/

/-- **A chain of granted rewrites.** `Reaches answers x i y` says that `y` comes from
`x` by `i` rewrites in a row, each of them among the `answers`. -/
inductive Reaches (answers : τ → Reply τ ε → Prop) (x : τ) : Nat → τ → Prop
  /-- No rewrite leads from a term to itself. -/
  | origin : Reaches answers x 0 x
  /-- One more rewrite. -/
  | rewrite {i : Nat} {y z : τ} (before : Reaches answers x i y)
      (granted : answers y (.rewrote z)) : Reaches answers x (i + 1) z

namespace Reaches

variable {answers : τ → Reply τ ε → Prop} {x y z : τ} {i j : Nat}

theorem mono {more : τ → Reply τ ε → Prop} (le : ∀ y r, answers y r → more y r)
    (h : Reaches answers x i y) : Reaches more x i y := by
  induction h with
  | origin => exact origin
  | rewrite _ granted ih => exact ih.rewrite (le _ _ granted)

theorem eq_origin (h : Reaches answers x 0 y) : y = x := by
  cases h
  rfl

/-- A chain passes a term at every index below its end. -/
theorem exists_of_le (h : Reaches answers x i y) (hle : j ≤ i) :
    ∃ z, Reaches answers x j z := by
  induction h with
  | origin => exact ⟨x, Nat.le_zero.1 hle ▸ origin⟩
  | @rewrite i y z before granted ih =>
    rcases Nat.lt_or_ge i j with hlt | hge
    · have hj : j = i + 1 := by omega
      exact ⟨z, hj ▸ before.rewrite granted⟩
    · exact ih hge

/-- A chain that ends past an index rewrites the term at that index. -/
theorem exists_rewrite_of_lt (h : Reaches answers x i y) (hlt : j < i) :
    ∃ z next, Reaches answers x j z ∧ answers z (.rewrote next) ∧
      Reaches answers x (j + 1) next := by
  obtain ⟨next, hnext⟩ := h.exists_of_le (j := j + 1) hlt
  cases hnext with
  | @rewrite _ z _ before granted => exact ⟨z, next, before, granted, before.rewrite granted⟩

/-- **One term for each index,** if no term has two answers. -/
theorem unique (functional : Relator.RightUnique answers) (hy : Reaches answers x i y)
    (hz : Reaches answers x i z) : y = z := by
  induction hy generalizing z with
  | origin => exact hz.eq_origin.symm
  | rewrite _ granted ih =>
    cases hz with
    | rewrite before' granted' =>
      rw [ih before'] at granted
      have hreply := functional granted granted'
      rwa [Reply.rewrote.injEq] at hreply

/-- **No chain goes past a term that is not rewritten.** -/
theorem le_of_stop (functional : Relator.RightUnique answers) {r : Reply τ ε}
    (hy : Reaches answers x i y) (stop : answers y r) (last : ∀ next, r ≠ .rewrote next)
    (hz : Reaches answers x j z) : j ≤ i := by
  -- a longer chain would rewrite the term at `i`, which is `y`
  refine Nat.le_of_not_lt fun hlt => ?_
  obtain ⟨y', next, hy', granted, -⟩ := hz.exists_rewrite_of_lt hlt
  rw [hy'.unique functional hy] at granted
  exact last next (functional stop granted)

/-- **Chains stop in one place only:** neither of two stops is passed by the chain to
the other. -/
theorem stop_unique (functional : Relator.RightUnique answers) {r r' : Reply τ ε}
    (hy : Reaches answers x i y) (stop : answers y r) (last : ∀ next, r ≠ .rewrote next)
    (hz : Reaches answers x j z) (stop' : answers z r') (last' : ∀ next, r' ≠ .rewrote next) :
    i = j ∧ y = z ∧ r = r' := by
  have hji : j ≤ i := hy.le_of_stop functional stop last hz
  have hij : i ≤ j := hz.le_of_stop functional stop' last' hy
  obtain rfl : i = j := Nat.le_antisymm hij hji
  obtain rfl : y = z := hy.unique functional hz
  exact ⟨rfl, rfl, functional stop stop'⟩

end Reaches

/-! ### Who vouches for an answer -/

namespace Engine

/-- **The replies are those of a function of the term,** whatever the state is. The
state may still change, so an engine that counts its calls qualifies. -/
def AnswersBy (e : Engine σ τ ε) (f : τ → Reply τ ε) : Prop :=
  ∀ x s, (e.advance x s).1 = f x

theorem ofFn_answersBy (f : τ → Reply τ ε) : (ofFn f : Engine σ τ ε).AnswersBy f :=
  fun _ _ => rfl

/-- The answers of a function never disagree. -/
theorem rightUnique_of_fn (f : τ → Reply τ ε) : Relator.RightUnique (fun x r => f x = r) :=
  fun _ _ _ h h' => h.symm.trans h'

/-- **A ledger of answers.** `given s x r` says that state `s` knows of the answer `r` to
the term `x`. A ledger knows every reply as soon as it is given and forgets none. -/
structure Ledger (e : Engine σ τ ε) (given : σ → τ → Reply τ ε → Prop) : Prop where
  /-- The reply just given is known. -/
  entered : ∀ x s, given (e.advance x s).2 x (e.advance x s).1
  /-- What was known before is known still. -/
  kept : ∀ x s y r, given s y r → given (e.advance x s).2 y r

/-- The log of a logged engine is a ledger. -/
theorem logged_ledger (e : Engine σ τ ε) : e.logged.Ledger (fun s x r => (x, r) ∈ s.2) where
  entered x s := by
    rw [logged_advance_log, logged_advance_fst]
    exact List.mem_append_right _ (List.mem_singleton.2 rfl)
  kept x s y r known := by
    rw [logged_advance_log]
    exact List.mem_append_left _ known

/-- A function of the term is a ledger that never changes. -/
theorem AnswersBy.ledger {e : Engine σ τ ε} {f : τ → Reply τ ε} (pure : e.AnswersBy f) :
    e.Ledger (fun _ x r => f x = r) where
  entered x s := (pure x s).symm
  kept _ _ _ _ known := known

/-- The ledger that takes every reply for known serves where any ledger will do. -/
theorem credulous_ledger (e : Engine σ τ ε) : e.Ledger (fun _ _ _ => True) where
  entered _ _ := trivial
  kept _ _ _ _ _ := trivial

/-- **Engine states after further calls.** -/
inductive Later (e : Engine σ τ ε) (s : σ) : σ → Prop
  /-- No call. -/
  | now : Later e s s
  /-- One more call. -/
  | call {s' : σ} (before : Later e s s') (x : τ) : Later e s (e.advance x s').2

theorem Later.trans {e : Engine σ τ ε} {s s' s'' : σ} (h : e.Later s s') (h' : e.Later s' s'') :
    e.Later s s'' := by
  induction h' with
  | now => exact h
  | call _ x ih => exact ih.call x

theorem Ledger.later {e : Engine σ τ ε} {given : σ → τ → Reply τ ε → Prop}
    (ledger : e.Ledger given) {s s' : σ} (h : e.Later s s') {x : τ} {r : Reply τ ε}
    (known : given s x r) : given s' x r := by
  induction h with
  | now => exact known
  | call _ y ih => exact ledger.kept y _ x r ih

end Engine

/-! ### Direct execution -/

/-- **No execution both ends and fails.** -/
theorem Reaches.ne_failed_of_halted {f : τ → Reply τ ε} {x y z : τ} {i j : Nat}
    (hy : Reaches (fun x r => f x = r) x i y) (halted : f y = .halted)
    (hz : Reaches (fun x r => f x = r) x j z) (error : ε) : f z ≠ .failed error := by
  intro failed
  obtain ⟨-, -, same⟩ :=
    hy.stop_unique (Engine.rightUnique_of_fn f) halted (by simp) hz failed (by simp)
  cases same

/-- **How direct execution ends** that starts with `x` and has a budget of `limit`
steps: the budget is spent, the end of execution comes before, or a failure does. -/
inductive Finishes (f : τ → Reply τ ε) (x : τ) (limit : Nat) :
    Except ε (Execution τ) → Prop
  /-- The budget is spent, and nobody asks about the last term. -/
  | spent {y : τ} (reached : Reaches (fun x r => f x = r) x limit y) :
      Finishes f x limit (.ok ⟨y, limit, false⟩)
  /-- Execution ends within the budget. -/
  | halted {n : Nat} {y : τ} (within : n < limit) (reached : Reaches (fun x r => f x = r) x n y)
      (answer : f y = .halted) : Finishes f x limit (.ok ⟨y, n, true⟩)
  /-- The engine fails within the budget. -/
  | failed {n : Nat} {y : τ} {error : ε} (within : n < limit)
      (reached : Reaches (fun x r => f x = r) x n y) (answer : f y = .failed error) :
      Finishes f x limit (.error error)

namespace Engine

variable {e : Engine σ τ ε} {f : τ → Reply τ ε}

theorem runFrom_finishes (pure : e.AnswersBy f) {x₀ x : τ} {budget steps : Nat}
    (reached : Reaches (fun x r => f x = r) x₀ steps x) (s : σ) :
    Finishes f x₀ (steps + budget) (e.runFrom budget steps x s).1 := by
  -- the steps done and the budget left add up to the same limit at every step
  induction budget generalizing steps x s with
  | zero => exact .spent reached
  | succ budget ih =>
    have within : steps < steps + (budget + 1) := by omega
    have answer := pure x s
    rw [runFrom_succ]
    rcases hcall : e.advance x s with ⟨r, s'⟩
    rw [hcall] at answer
    cases r with
    | rewrote y =>
      have hfinish := ih (reached.rewrite answer.symm) s'
      rwa [Nat.add_right_comm] at hfinish
    | halted => exact .halted within reached answer.symm
    | failed error => exact .failed within reached answer.symm

theorem run_finishes (pure : e.AnswersBy f) (budget : Nat) (x : τ) (s : σ) :
    Finishes f x budget (e.run budget x s).1 := by
  have hfinish : Finishes f x (0 + budget) (e.runFrom budget 0 x s).1 :=
    runFrom_finishes pure .origin s
  rwa [Nat.zero_add] at hfinish

end Engine

/-- Two ends of one execution are the same: neither comes before the other. -/
theorem Finishes.unique {f : τ → Reply τ ε} {x : τ} {limit : Nat}
    {o o' : Except ε (Execution τ)} (h : Finishes f x limit o) (h' : Finishes f x limit o') :
    o = o' := by
  have functional := Engine.rightUnique_of_fn f
  cases h with
  | spent reached =>
    cases h' with
    | spent reached' => rw [reached.unique functional reached']
    | halted within reached' answer =>
      have := reached'.le_of_stop functional answer (by simp) reached
      omega
    | failed within reached' answer =>
      have := reached'.le_of_stop functional answer (by simp) reached
      omega
  | halted within reached answer =>
    cases h' with
    | spent reached' =>
      have := reached.le_of_stop functional answer (by simp) reached'
      omega
    | halted _ reached' answer' =>
      obtain ⟨rfl, rfl, -⟩ :=
        reached.stop_unique functional answer (by simp) reached' answer' (by simp)
      rfl
    | failed _ reached' answer' =>
      exact absurd answer' (reached.ne_failed_of_halted answer reached' _)
  | failed within reached answer =>
    cases h' with
    | spent reached' =>
      have := reached.le_of_stop functional answer (by simp) reached'
      omega
    | halted _ reached' answer' =>
      exact absurd answer (reached'.ne_failed_of_halted answer' reached _)
    | failed _ reached' answer' =>
      obtain ⟨-, -, same⟩ :=
        reached.stop_unique functional answer (by simp) reached' answer' (by simp)
      rw [Reply.failed.inj same]

/-- **Direct execution has exactly the result described by** `Finishes`. -/
theorem Engine.run_eq_iff {e : Engine σ τ ε} {f : τ → Reply τ ε} (pure : e.AnswersBy f)
    {budget : Nat} {x : τ} {s : σ} {o : Except ε (Execution τ)} :
    (e.run budget x s).1 = o ↔ Finishes f x budget o := by
  constructor
  · rintro rfl
    exact run_finishes pure budget x s
  · exact (run_finishes pure budget x s).unique

/-! ### Where execution halts -/

/-- **Execution by** `f` **halts at index** `t` when it starts with `x`. -/
def Halts (f : τ → Reply τ ε) (x : τ) (t : Nat) : Prop :=
  ∃ y, Reaches (fun x r => f x = r) x t y ∧ f y = .halted

/-- **Direct execution halts at index** `t`: given a budget of one step more, it ends there. -/
def Engine.HaltsAt (e : Engine σ τ ε) (x : τ) (s : σ) (t : Nat) : Prop :=
  ∃ y, (e.run (t + 1) x s).1 = .ok ⟨y, t, true⟩

/-- Execution halts at one index at most. -/
theorem Halts.unique {f : τ → Reply τ ε} {x : τ} {t t' : Nat} (h : Halts f x t)
    (h' : Halts f x t') : t = t' := by
  obtain ⟨y, reached, halted⟩ := h
  obtain ⟨y', reached', halted'⟩ := h'
  exact (reached.stop_unique (Engine.rightUnique_of_fn f) halted (by simp) reached' halted'
    (by simp)).1

/-- No chain goes past the index where execution halts. -/
theorem Halts.le {f : τ → Reply τ ε} {x y : τ} {t i : Nat} (h : Halts f x t)
    (reached : Reaches (fun x r => f x = r) x i y) : i ≤ t := by
  obtain ⟨z, end_reached, halted⟩ := h
  exact end_reached.le_of_stop (Engine.rightUnique_of_fn f) halted (by simp) reached

/-- **A run within a budget reports the end of execution** exactly if execution halts before the
budget is spent. -/
theorem Finishes.terminated_iff {f : τ → Reply τ ε} {x : τ} {limit t : Nat} {d : Execution τ}
    (h : Finishes f x limit (.ok d)) :
    d.terminated = true ∧ d.steps = t ↔ Halts f x t ∧ t < limit := by
  constructor
  · rintro ⟨terminated, rfl⟩
    cases h with
    | spent => cases terminated
    | halted within reached answer => exact ⟨⟨_, reached, answer⟩, within⟩
  · rintro ⟨⟨y, reached, answer⟩, within⟩
    obtain rfl := Except.ok.inj (h.unique (.halted within reached answer))
    exact ⟨rfl, rfl⟩

/-- **A run gets as far as its budget,** unless execution halts before. -/
theorem Finishes.lt_iff {f : τ → Reply τ ε} {x : τ} {limit : Nat} {d : Execution τ}
    (h : Finishes f x limit (.ok d)) : d.steps < limit ↔ d.terminated = true := by
  cases h with
  | spent => simp
  | halted within => simp [within]

/-- An engine that never fails brings every run to an end. -/
theorem Finishes.exists_ok {f : τ → Reply τ ε} {x : τ} {limit : Nat}
    {o : Except ε (Execution τ)} (infallible : ∀ y error, f y ≠ .failed error)
    (h : Finishes f x limit o) : ∃ d, o = .ok d := by
  cases h with
  | spent | halted => exact ⟨_, rfl⟩
  | failed _ _ answer => exact absurd answer (infallible _ _)

/-- A run ends with the term that execution reaches in as many steps. -/
theorem Finishes.reached {f : τ → Reply τ ε} {x : τ} {limit : Nat} {d : Execution τ}
    (h : Finishes f x limit (.ok d)) : Reaches (fun x r => f x = r) x d.steps d.state := by
  cases h with
  | spent reached => exact reached
  | halted _ reached => exact reached

/-- A run makes no more steps than it has a budget for. -/
theorem Finishes.steps_le {f : τ → Reply τ ε} {x : τ} {limit : Nat} {d : Execution τ}
    (h : Finishes f x limit (.ok d)) : d.steps ≤ limit := by
  cases h with
  | spent => exact Nat.le_refl limit
  | halted within => exact Nat.le_of_lt within

/-- A run gets as far as execution can get within the budget. -/
theorem Finishes.le_steps {f : τ → Reply τ ε} {x y : τ} {limit i : Nat} {d : Execution τ}
    (h : Finishes f x limit (.ok d)) (within : i ≤ limit)
    (reached : Reaches (fun x r => f x = r) x i y) : i ≤ d.steps := by
  cases h with
  | spent => exact within
  | halted _ last answer => exact Halts.le ⟨_, last, answer⟩ reached

/-- **A run makes as many steps as it has a budget for,** or as there are before execution
halts. -/
theorem Finishes.steps_eq {f : τ → Reply τ ε} {x : τ} {limit : Nat} {d : Execution τ}
    (h : Finishes f x limit (.ok d)) :
    (∀ t, Halts f x t → d.steps = min limit t) ∧ ((∀ t, ¬ Halts f x t) → d.steps = limit) := by
  cases h with
  | spent reached =>
    exact ⟨fun t halts => (Nat.min_eq_left (halts.le reached)).symm, fun _ => rfl⟩
  | @halted n y within reached answer =>
    have met : Halts f x n := ⟨y, reached, answer⟩
    refine ⟨fun t halts => ?_, fun endless => absurd met (endless n)⟩
    rw [← met.unique halts]
    exact (Nat.min_eq_right (Nat.le_of_lt within)).symm

theorem Engine.haltsAt_iff {e : Engine σ τ ε} {f : τ → Reply τ ε} (pure : e.AnswersBy f)
    {x : τ} {s : σ} {t : Nat} : e.HaltsAt x s t ↔ Halts f x t := by
  constructor
  · rintro ⟨y, ran⟩
    exact ((run_eq_iff pure).1 ran).terminated_iff.1 ⟨rfl, rfl⟩ |>.1
  · rintro ⟨y, reached, answer⟩
    exact ⟨y, (run_eq_iff pure).2 (.halted (Nat.lt_succ_self t) reached answer)⟩

/-! ### Executions that go on -/

/-- An execution that fails within a budget fails within any larger one. -/
theorem Finishes.error_mono {f : τ → Reply τ ε} {x : τ} {n limit : Nat} {error : ε}
    (h : Finishes f x n (.error error)) (le : n ≤ limit) : Finishes f x limit (.error error) := by
  cases h with
  | failed within reached answer => exact .failed (Nat.lt_of_lt_of_le within le) reached answer

/-- An execution that does not fail within a budget does not fail within a smaller one. -/
theorem Finishes.exists_ok_of_le {f : τ → Reply τ ε} {x : τ} {n limit : Nat} {d : Execution τ}
    (h : Finishes f x limit (.ok d)) (le : n ≤ limit) : ∃ d', Finishes f x n (.ok d') := by
  have finishes := Engine.run_finishes (Engine.ofFn_answersBy f) n x ()
  cases outcome : ((Engine.ofFn f).run n x ()).1 with
  | ok d' => exact ⟨d', outcome ▸ finishes⟩
  | error error =>
    rw [outcome] at finishes
    cases (finishes.error_mono le).unique h

/-- **Direct execution goes on from where a budget ended it.** If it halted within that budget,
then it ends at the same place within any larger one, and asking for more steps from there shows
as much of the end, on top of what may be known of it. -/
theorem Finishes.resume {f : τ → Reply τ ε} {x : τ} {total n : Nat} {d d' : Execution τ}
    (h : Finishes f x total (.ok d)) (h' : Finishes f x (d.steps + n) (.ok d')) :
    ∃ d'', Finishes f x (total + n) (.ok d'') ∧ d''.steps = d'.steps ∧ d''.state = d'.state ∧
      ∀ known, (if d''.terminated then some d''.steps else known) =
        if d'.terminated then some d'.steps else if d.terminated then some d.steps else known := by
  cases h with
  | spent reached =>
    refine ⟨d', h', rfl, rfl, fun known => ?_⟩
    simp only [Bool.false_eq_true, if_false]
  | @halted t y within reached answer =>
    have halts : Halts f x t := ⟨y, reached, answer⟩
    have steps : d'.steps = t :=
      Nat.le_antisymm (halts.le h'.reached) (h'.le_steps (Nat.le_add_right t n) reached)
    have last := h'.reached
    rw [steps] at last
    refine ⟨⟨y, t, true⟩, .halted (Nat.lt_add_right n within) reached answer, steps.symm,
      reached.unique (Engine.rightUnique_of_fn f) last, fun known => ?_⟩
    simp only [if_true, steps, ite_self]

/-! ### Programs to try things on -/

/-- Counting down to zero, and halting there. -/
def countdown : Nat → Reply Nat String
  | 0 => .halted
  | n + 1 => .rewrote n

/-- Counting up without end. -/
def counting (n : Nat) : Reply Nat String := .rewrote (n + 1)

/-- Counting up, with one number that the engine fails on. -/
def stuckAt (bad n : Nat) : Reply Nat String :=
  if n = bad then .failed "stuck" else .rewrote (n + 1)

/-- Counting up for a number of calls and giving up after them, an engine that contradicts
itself as soon as it is asked about an old term again. -/
def Engine.tiring (calls : Nat) : Engine Nat Nat String where
  advance x answered := (if answered < calls then .rewrote (x + 1) else .halted, answered + 1)

end Retrace
