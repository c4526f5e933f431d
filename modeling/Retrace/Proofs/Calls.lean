import Retrace.Proofs.Commands
import Retrace.Proofs.Logging

/-!
# The calls of a command

Which calls a command makes to the engine. The replay of a navigation asks about one index
after the other, starting with the recorded entry nearest to its target. So the calls of a
command, in order, are calls about successive indices, and all but the last are answered by
a rewrite.

## Main definitions

* `Produces` — the terms that a list of calls produces, by index.
* `Session.ancestor?` — the index about which the replay of a command asks first.
* `Session.calls` — the calls of a command, with the replies.
* `Waypoint.Calls` — the calls of a replay that walks to a waypoint and stops there.

## Main statements

* `Session.perform_calls` — the calls of every navigation of a usable session.
* `Session.length_calls_le` — how many there are at most.
* `Waypoint.Calls.countP_isRewrote` — a replay gets as far as the engine rewrites.
* `Waypoint.Calls.length_eq` — how many calls a replay makes.
* `Waypoint.Calls.halted_iff` — a replay is told of an end of execution where it stops.
-/

namespace Retrace

universe u v w

variable {σ : Type w} {τ : Type u} {ε : Type v}

/-- Whether the engine rewrote the term. -/
def Reply.isRewrote : Reply τ ε → Bool
  | rewrote _ => true
  | halted | failed _ => false

/-! ### What a list of calls tells -/

/-- What stands in a list with one more entry. -/
theorem getElem?_concat_eq_some_iff {α : Type u} {l : List α} {a b : α} {n : Nat} :
    (l ++ [a])[n]? = some b ↔ l[n]? = some b ∨ n = l.length ∧ a = b := by
  grind

section

variable {calls rewrites : List (τ × Reply τ ε)} {last : τ × Reply τ ε} {n : Nat} {x : τ}

/-- One more rewrite after rewrites. -/
theorem forall_isRewrote_concat {y : τ} (rewrote : ∀ call ∈ rewrites, call.2.isRewrote = true) :
    ∀ call ∈ rewrites ++ [(x, .rewrote y)], call.2.isRewrote = true :=
  List.forall_mem_append.2 ⟨rewrote, List.forall_mem_singleton.2 rfl⟩

/-- No rewrite is an end of execution. -/
theorem getElem?_ne_halted (rewrote : ∀ call ∈ rewrites, call.2.isRewrote = true) :
    rewrites[n]? ≠ some (x, .halted) := by
  intro found
  exact absurd (rewrote _ (List.mem_of_getElem? found)) Bool.false_ne_true

/-- After rewrites only the last call can be answered by an end of execution. -/
theorem getElem?_concat_eq_halted_iff (rewrote : ∀ call ∈ rewrites, call.2.isRewrote = true) :
    (rewrites ++ [last])[n]? = some (x, .halted) ↔ n = rewrites.length ∧ last = (x, .halted) := by
  rw [getElem?_concat_eq_some_iff, or_iff_right (getElem?_ne_halted rewrote)]

/-- **The term that calls produce at an index,** if the first of them is about index `start` and
each of the others about the next one: a call about an index produces the term at the index after
it, if it is answered by a rewrite. -/
def Produces (start : Nat) (calls : List (τ × Reply τ ε)) (i : Nat) (y : τ) : Prop :=
  ∃ n x, start + n + 1 = i ∧ calls[n]? = some (x, .rewrote y)

/-- **One more call** produces at most one more term. -/
theorem produces_concat_iff {start i : Nat} {y : τ} {r : Reply τ ε} :
    Produces start (calls ++ [(x, r)]) i y ↔
      Produces start calls i y ∨ i = start + calls.length + 1 ∧ r = .rewrote y := by
  simp only [Produces, getElem?_concat_eq_some_iff, Prod.mk.injEq]
  constructor
  · rintro ⟨n, z, rfl, old | ⟨rfl, -, new⟩⟩
    · exact .inl ⟨n, z, rfl, old⟩
    · exact .inr ⟨rfl, new⟩
  · rintro (⟨n, z, rfl, old⟩ | ⟨rfl, new⟩)
    · exact ⟨n, z, rfl, .inl old⟩
    · exact ⟨calls.length, x, rfl, .inr ⟨rfl, rfl, new⟩⟩

end

/-! ### Replays of a logged engine -/

namespace Waypoint

/-- **The calls of a replay** that starts at index `start`, walks to `w` and stops there: a
rewrite for each step of the walk, and if the target is not reached one more call, which is
not answered by a rewrite. -/
inductive Calls (e : Engine σ τ ε) (start target : Nat)
    (w : Waypoint (σ × List (τ × Reply τ ε)) τ) : List (τ × Reply τ ε) → Prop
  | arrived {rewrites : List (τ × Reply τ ε)} (there : w.index = target)
      (length : start + rewrites.length = w.index)
      (rewrote : ∀ call ∈ rewrites, call.2.isRewrote = true) : Calls e start target w rewrites
  | stopped {rewrites : List (τ × Reply τ ε)} (before : w.index < target)
      (length : start + rewrites.length = w.index)
      (rewrote : ∀ call ∈ rewrites, call.2.isRewrote = true)
      (last : (e.logged.advance w.state w.engine).1.isRewrote = false) :
      Calls e start target w (rewrites ++ [(w.state, (e.logged.advance w.state w.engine).1)])

namespace Calls

variable {e : Engine σ τ ε} {start target : Nat} {w : Waypoint (σ × List (τ × Reply τ ε)) τ}
  {calls : List (τ × Reply τ ε)}

/-- **A replay gets as far as the engine rewrites.** -/
theorem countP_isRewrote (h : Calls e start target w calls) :
    start + calls.countP (fun call => call.2.isRewrote) = w.index := by
  cases h with
  | arrived there length rewrote => rw [List.countP_eq_length.2 rewrote, length]
  | stopped before length rewrote last =>
    rw [List.countP_append, List.countP_eq_length.2 rewrote, List.countP_singleton, last,
      if_neg Bool.false_ne_true, Nat.add_zero, length]

/-- **A replay makes one call for each step,** and one more if it stops short of its target. -/
theorem length_eq (h : Calls e start target w calls) :
    start + calls.length = w.index + if w.index < target then 1 else 0 := by
  cases h with
  | arrived there length =>
    rw [length, there, if_neg (Nat.lt_irrefl target), Nat.add_zero]
  | stopped before length =>
    rw [List.length_append, List.length_singleton, ← Nat.add_assoc, length, if_pos before]

/-- So it makes no more calls than there are steps to its target. -/
theorem length_le (h : Calls e start target w calls) (le : w.index ≤ target) :
    start + calls.length ≤ target := by
  rw [h.length_eq]
  split <;> omega

/-- **A replay is told of an end of execution only where it stops,** short of its target. -/
theorem halted_iff (h : Calls e start target w calls) {n : Nat} :
    (∃ x, calls[n]? = some (x, .halted)) ↔
      start + n = w.index ∧ w.index < target ∧
        (e.logged.advance w.state w.engine).1 = .halted := by
  cases h with
  | arrived there length rewrote =>
    constructor
    · rintro ⟨x, found⟩
      exact absurd found (getElem?_ne_halted rewrote)
    · rintro ⟨-, before, -⟩
      omega
  | @stopped rewrites before length rewrote last =>
    simp only [getElem?_concat_eq_halted_iff rewrote]
    constructor
    · rintro ⟨x, rfl, told⟩
      exact ⟨length, before, (Prod.mk.inj told).2⟩
    · rintro ⟨hn, -, answer⟩
      exact ⟨w.state, by omega, by rw [answer]⟩

end Calls

variable [BEq τ] {e : Engine σ τ ε} {target : Nat} {w w' : Waypoint (σ × List (τ × Reply τ ε)) τ}
  {r : Replay (σ × List (τ × Reply τ ε)) τ ε}

/-- **A walk logs one rewrite for each of its steps.** -/
theorem Passes.calls (walk : Passes e.logged target w w') :
    ∃ rewrites, w'.engine.2 = w.engine.2 ++ rewrites ∧
      w.index + rewrites.length = w'.index ∧ ∀ call ∈ rewrites, call.2.isRewrote = true := by
  refine Passes.invariant (I := fun w' => ∃ rewrites, w'.engine.2 = w.engine.2 ++ rewrites ∧
      w.index + rewrites.length = w'.index ∧ ∀ call ∈ rewrites, call.2.isRewrote = true)
    ?_ walk ⟨[], (List.append_nil _).symm, rfl, nofun⟩
  rintro w₁ w₂ ⟨-, answer, -⟩ ⟨rewrites, log, length, rewrote⟩
  refine ⟨rewrites ++ [(w₁.state, (e.logged.advance w₁.state w₁.engine).1)], ?_, ?_, ?_⟩
  · rw [Engine.logged_advance_log, log, List.append_assoc]
    rfl
  · simp only [List.length_append, List.length_singleton]
    omega
  · rw [answer]
    exact forall_isRewrote_concat rewrote

/-- A stop logs no rewrite, and nothing at all if the target is reached. -/
theorem Stop.calls {h : History τ} {start : Nat} {rewrites : List (τ × Reply τ ε)}
    (stop : Stop e.logged target w r) (route : w.EnRoute h target)
    (log : w.engine.2 = rewrites) (length : start + rewrites.length = w.index)
    (rewrote : ∀ call ∈ rewrites, call.2.isRewrote = true) :
    w.Calls e start target r.engine.2 := by
  subst log
  cases stop with
  | arrived there => exact .arrived there length rewrote
  | ended before answer | endRefused before answer | failed before answer =>
    exact .stopped before length rewrote (by rw [answer]; rfl)
  | termRefused before _ refused => exact absurd refused (route.not_termRefused before)

end Waypoint

/-! ### Commands -/

namespace Session

variable [BEq τ]

/-- **The calls that a command makes** to the engine, with the replies, in order. -/
def calls (e : Engine σ τ ε) (s : Session τ) (engine : σ) (c : Command) : List (τ × Reply τ ε) :=
  (s.perform e.logged (engine, []) c).engine.2

omit [BEq τ] in
/-- **Where the replay of a command starts:** the recorded index nearest to its target. -/
def ancestor? (s : Session τ) (c : Command) : Option Nat :=
  (s.requested? c).map fun k => (s.history.nearest (s.history.clamp k)).index

/-- A logged command is the same command. -/
theorem perform_logged (e : Engine σ τ ε) (s : Session τ) (engine : σ) (c : Command) :
    (s.perform e.logged (engine, []) c).view Prod.fst = s.perform e engine c :=
  s.perform_view e.logged_mimics (engine, []) c

/-- A poisoned session makes no call. -/
theorem calls_of_poisoned (e : Engine σ τ ε) {s : Session τ} {i : Nat}
    (poisoned : s.poisoned = some i) (engine : σ) (c : Command) : s.calls e engine c = [] := by
  have done := s.perform_comesTo e.logged (engine, []) c
  unfold calls
  generalize s.perform e.logged (engine, []) c = o at done ⊢
  cases done with
  | @navigated _ k =>
    show (s.navigate e.logged k (engine, [])).engine.2 = []
    rw [navigate_of_poisoned e.logged poisoned]
  | overflowed | told => rfl
  | verified upTo =>
    show (s.verify e.logged upTo (engine, [])).engine.2 = []
    rw [verify_of_poisoned e.logged poisoned]

/-- **The calls of every navigation of a usable session** are those of its replay. -/
theorem perform_calls (e : Engine σ τ ε) {s : Session τ} (usable : s.poisoned = none)
    {c : Command} {k : Nat} (requested : s.requested? c = some k) (engine : σ) :
    ∃ w, (Waypoint.nearest s.history (s.history.clamp k) (engine, [])).Passes e.logged
        (s.history.clamp k) w ∧
      s.Lands e.logged k w (s.navigate e.logged k (engine, [])) ∧
      w.Calls e (s.history.nearest (s.history.clamp k)).index (s.history.clamp k)
        (s.calls e engine c) := by
  obtain ⟨w, walk, lands⟩ := s.navigate_lands e.logged usable k (engine, [])
  refine ⟨w, walk, lands, ?_⟩
  have route := enRoute_of_passes walk
  obtain ⟨rewrites, log, length, rewrote⟩ := walk.calls
  unfold calls
  rw [perform_of_requested e.logged requested]
  show w.Calls e _ _ (s.navigate e.logged k (engine, [])).engine.2
  generalize s.navigate e.logged k (engine, []) = o at lands
  cases lands with
  | stopped stop =>
    rw [conclude_engine]
    exact stop.calls route log length rewrote
  | refused stop => exact stop.calls route log length rewrote
  | moved stop => exact stop.calls route log length rewrote

/-- **A navigation makes no more calls than there are steps** from the recorded index nearest to
its target. -/
theorem length_calls_le (e : Engine σ τ ε) {s : Session τ} {c : Command} {k : Nat}
    (requested : s.requested? c = some k) (engine : σ) :
    (s.history.nearest (s.history.clamp k)).index + (s.calls e engine c).length ≤
      s.history.clamp k := by
  cases poisoned : s.poisoned with
  | some i =>
    rw [calls_of_poisoned e poisoned]
    exact s.history.timeline.nearest_le _
  | none =>
    obtain ⟨w, walk, -, made⟩ := s.perform_calls e poisoned requested engine
    exact made.length_le (enRoute_of_passes walk).index_le

end Session

end Retrace
