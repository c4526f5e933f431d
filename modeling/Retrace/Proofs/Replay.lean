import Mathlib.Logic.Relation
import Retrace.Proofs.Acceptance
import Retrace.Proofs.Execution
import Retrace.Session.Navigation

/-!
# What a replay passes

A replay is a walk. It starts at the recorded entry nearest to its target, records
one more term at each step, and stops for one of five reasons. The recursion on the
gap is opened once, here: everything else about replays is said of one step
(`Waypoint.Next`) and of one stop (`Waypoint.Stop`).

## Main definitions

* `Waypoint` — index, term, history and engine state in the middle of a replay.
* `Waypoint.Next` — one rewrite, put on record.
* `Waypoint.Stop` — why a replay goes no further, and what it leaves behind.
* `Waypoint.Clear` — nothing is recorded between a waypoint and the target, and
  nothing but its own term at the waypoint itself.
* `Waypoint.EnRoute` — what holds at every waypoint of a replay.

## Main statements

* `History.replay_stops` — every replay is a walk that stops.
* `Waypoint.Passes.invariant` — what one step preserves, a walk preserves.
* `Waypoint.Passes.preserves`, `Waypoint.Stop.preserves` — what no recording spoils, neither a
  walk nor a stop spoils.
* `Waypoint.Clear.put_isOk` — on a clear way no rewrite is refused, whatever the
  engine answers.
* `Waypoint.Passes.enRoute` — a walk from the nearest entry leads through such waypoints.
* `Waypoint.Stop.pin_isOk` — where a replay stops well, the cursor can be moved to.
-/

namespace Retrace

universe u v w

/-- **In the middle of a replay.** -/
structure Waypoint (σ : Type w) (τ : Type u) where
  /-- The index reached. -/
  index : Nat
  /-- The term reached. -/
  state : τ
  /-- The history with everything recorded on the way. -/
  history : History τ
  /-- The engine state after the calls on the way. -/
  engine : σ

variable {σ : Type w} {τ : Type u} {ε : Type v} [BEq τ]

namespace Waypoint

/-- **One step of a replay:** the engine rewrites the term, and the history accepts it. -/
inductive Next (e : Engine σ τ ε) (target : Nat) (w : Waypoint σ τ) : Waypoint σ τ → Prop
  | rewrite {y : τ} {fresh : Bool} {h : History τ} (before : w.index < target)
      (answer : (e.advance w.state w.engine).1 = .rewrote y)
      (accepted : w.history.put (w.index + 1) y = .ok (fresh, h)) :
      Next e target w ⟨w.index + 1, y, h, (e.advance w.state w.engine).2⟩

/-- The waypoints that a replay passes. -/
abbrev Passes (e : Engine σ τ ε) (target : Nat) : Waypoint σ τ → Waypoint σ τ → Prop :=
  Relation.ReflTransGen (Next e target)

/-- **Why a replay stops,** with what it leaves behind. -/
inductive Stop (e : Engine σ τ ε) (target : Nat) (w : Waypoint σ τ) : Replay σ τ ε → Prop
  /-- The target is reached. -/
  | arrived (there : w.index = target) :
      Stop e target w ⟨.ok (w.index, w.state), w.history, w.engine⟩
  /-- Execution ends, and the history accepts that. -/
  | ended {h : History τ} (before : w.index < target)
      (answer : (e.advance w.state w.engine).1 = .halted)
      (accepted : w.history.markTerminal w.index w.state = .ok h) :
      Stop e target w ⟨.ok (w.index, w.state), h, (e.advance w.state w.engine).2⟩
  /-- Execution ends where the history knows better. -/
  | endRefused {cause : Contradiction} (before : w.index < target)
      (answer : (e.advance w.state w.engine).1 = .halted)
      (refused : w.history.markTerminal w.index w.state = .error cause) :
      Stop e target w
        ⟨.error (.contradicted cause), w.history, (e.advance w.state w.engine).2⟩
  /-- The next term contradicts the history. -/
  | termRefused {y : τ} {cause : Contradiction} (before : w.index < target)
      (answer : (e.advance w.state w.engine).1 = .rewrote y)
      (refused : w.history.put (w.index + 1) y = .error cause) :
      Stop e target w
        ⟨.error (.contradicted cause), w.history, (e.advance w.state w.engine).2⟩
  /-- The engine fails. -/
  | failed {error : ε} (before : w.index < target)
      (answer : (e.advance w.state w.engine).1 = .failed error) :
      Stop e target w ⟨.error (.failed error), w.history, (e.advance w.state w.engine).2⟩

/-- What one step preserves, a walk preserves. -/
theorem Passes.invariant {e : Engine σ τ ε} {target : Nat} {I : Waypoint σ τ → Prop}
    (step : ∀ w w', Next e target w w' → I w → I w') {w w' : Waypoint σ τ}
    (walk : Passes e target w w') (start : I w) : I w' := by
  induction walk with
  | refl => exact start
  | tail _ last ih => exact step _ _ last ih

end Waypoint

/-- **Every replay is a walk that stops.** -/
theorem History.replay_stops (e : Engine σ τ ε) (gap : Nat) (w : Waypoint σ τ) :
    ∃ w', w.Passes e (w.index + gap) w' ∧
      w'.Stop e (w.index + gap) (replay e gap w.index w.state w.history w.engine) := by
  induction gap generalizing w with
  | zero => exact ⟨w, .refl, .arrived rfl⟩
  | succ gap ih =>
    have before : w.index < w.index + (gap + 1) := by omega
    rw [replay]
    rcases hcall : e.advance w.state w.engine with ⟨r, s'⟩
    obtain rfl : (e.advance w.state w.engine).2 = s' := by rw [hcall]
    have answer : (e.advance w.state w.engine).1 = r := by rw [hcall]
    cases r with
    | rewrote y =>
      dsimp only
      split
      · next h accepted =>
        -- the rest of the walk has the same target, counted from one step further on
        obtain ⟨w', walk, stop⟩ := ih ⟨w.index + 1, y, h, (e.advance w.state w.engine).2⟩
        rw [Nat.add_assoc, Nat.add_comm 1] at walk stop
        exact ⟨w', .head (.rewrite before answer accepted) walk, stop⟩
      · next cause refused => exact ⟨w, .refl, .termRefused before answer refused⟩
    | halted =>
      dsimp only
      split
      · next h accepted => exact ⟨w, .refl, .ended before answer accepted⟩
      · next cause refused => exact ⟨w, .refl, .endRefused before answer refused⟩
    | failed error => exact ⟨w, .refl, .failed before answer⟩

namespace Waypoint

variable {e : Engine σ τ ε} {target : Nat} {w w' : Waypoint σ τ} {r : Replay σ τ ε}

/-! ### What every walk preserves -/

theorem Next.history_frame (next : Next e target w w') :
    w'.history.terminal = w.history.terminal ∧ w'.history.pinned = w.history.pinned ∧
      w'.history.retention = w.history.retention := by
  cases next with
  | rewrite _ _ accepted =>
    obtain ⟨-, after⟩ := History.put_eq_ok_iff.1 accepted
    split at after <;> rw [(Prod.mk.inj after).2] <;> exact ⟨rfl, rfl, rfl⟩

/-- **A walk records terms and does nothing else:** what is known of the end of execution,
the place of the cursor and the policy stay as they are. -/
theorem Passes.history_frame (walk : Passes e target w w') :
    w'.history.terminal = w.history.terminal ∧ w'.history.pinned = w.history.pinned ∧
      w'.history.retention = w.history.retention := by
  refine Passes.invariant (I := fun w' => w'.history.terminal = w.history.terminal ∧
    w'.history.pinned = w.history.pinned ∧
    w'.history.retention = w.history.retention) ?_ walk ⟨rfl, rfl, rfl⟩
  intro w₁ w₂ next ⟨hterminal, hpinned, hretention⟩
  obtain ⟨hterminal', hpinned', hretention'⟩ := next.history_frame
  exact ⟨hterminal'.trans hterminal, hpinned'.trans hpinned, hretention'.trans hretention⟩

/-- A walk does not go back. -/
theorem Passes.le_index (walk : Passes e target w w') : w.index ≤ w'.index := by
  refine Passes.invariant (I := fun w' => w.index ≤ w'.index) ?_ walk (Nat.le_refl _)
  rintro w₁ w₂ ⟨-, -, -⟩ le
  exact Nat.le_succ_of_le le

/-- A walk does not go past its target. -/
theorem Passes.index_le (walk : Passes e target w w') (le : w.index ≤ target) :
    w'.index ≤ target := by
  refine Passes.invariant (I := fun w => w.index ≤ target) ?_ walk le
  rintro w₁ w₂ ⟨before, -, -⟩ -
  exact before

/-- What no recording spoils, no walk spoils. -/
theorem Passes.preserves {I : History τ → Prop} (inv : History.Invariant I)
    (walk : Passes e target w w') (start : I w.history) : I w'.history := by
  refine Passes.invariant (I := fun w => I w.history) ?_ walk start
  rintro w₁ w₂ ⟨-, -, accepted⟩ before
  exact inv.put before accepted

theorem Passes.wellFormed (walk : Passes e target w w') (wf : w.history.WellFormed) :
    w'.history.WellFormed :=
  walk.preserves History.wellFormed_invariant wf

theorem Passes.later (walk : Passes e target w w') : e.Later w.engine w'.engine := by
  refine Passes.invariant (I := fun w' => e.Later w.engine w'.engine) ?_ walk .now
  rintro w₁ w₂ ⟨-, -, -⟩ later
  exact later.call w₁.state

/-- A walk loses nothing that was recorded. -/
theorem Passes.keeps (walk : Passes e target w w') {j : Nat} {y : τ}
    (recorded : w.history.timeline.get? j = some y) : w'.history.timeline.get? j = some y := by
  refine Passes.invariant (I := fun w => w.history.timeline.get? j = some y) ?_ walk recorded
  rintro w₁ w₂ ⟨-, -, accepted⟩ recorded
  obtain ⟨-, after⟩ := History.put_eq_ok_iff.1 accepted
  split at after
  · rw [(Prod.mk.inj after).2]
    exact History.get?_hold_of_some recorded
  · rw [(Prod.mk.inj after).2]
    exact recorded

/-- A walk records nothing past the index where it is. -/
theorem Passes.beyond (walk : Passes e target w w') {j : Nat} (past : w'.index < j) :
    w'.history.timeline.get? j = w.history.timeline.get? j := by
  refine Passes.invariant (I := fun w' => ∀ j, w'.index < j →
    w'.history.timeline.get? j = w.history.timeline.get? j) ?_ walk (fun _ _ => rfl) j past
  rintro w₁ w₂ ⟨-, -, accepted⟩ ih j past
  obtain ⟨-, after⟩ := History.put_eq_ok_iff.1 accepted
  rw [← ih j (Nat.lt_of_succ_lt past)]
  split at after
  · rw [(Prod.mk.inj after).2, History.get?_hold, if_neg (Nat.ne_of_gt past)]
  · rw [(Prod.mk.inj after).2]

/-- Nor does a stop lose anything. -/
theorem Stop.keeps (stop : Stop e target w r) {j : Nat} {y : τ}
    (recorded : w.history.timeline.get? j = some y) : r.history.timeline.get? j = some y := by
  cases stop with
  | ended _ _ accepted =>
    obtain ⟨-, -, rfl⟩ := History.markTerminal_eq_ok_iff.1 accepted
    exact History.get?_hold_of_some recorded
  | arrived | endRefused | termRefused | failed => exact recorded

theorem Stop.history_frame (stop : Stop e target w r) :
    r.history.pinned = w.history.pinned ∧ r.history.retention = w.history.retention := by
  cases stop with
  | ended _ _ accepted =>
    obtain ⟨-, -, rfl⟩ := History.markTerminal_eq_ok_iff.1 accepted
    exact ⟨rfl, rfl⟩
  | arrived | endRefused | termRefused | failed => exact ⟨rfl, rfl⟩

/-- What no recording spoils, no stop spoils. -/
theorem Stop.preserves {I : History τ → Prop} (inv : History.Invariant I)
    (stop : Stop e target w r) (before : I w.history) : I r.history := by
  cases stop with
  | ended _ _ accepted => exact inv.markTerminal before accepted
  | arrived | endRefused | termRefused | failed => exact before

theorem Stop.later (stop : Stop e target w r) : e.Later w.engine r.engine := by
  cases stop with
  | arrived => exact .now
  | ended | endRefused | termRefused | failed => exact Engine.Later.now.call w.state

/-! ### A clear way -/

/-- **Nothing stands in the way:** between the waypoint and the target nothing is
recorded, and at the waypoint nothing but its own term. -/
structure Clear (w : Waypoint σ τ) (target : Nat) : Prop where
  /-- A term recorded here is the one at hand, not just an equal one. -/
  here : ∀ y, w.history.timeline.get? w.index = some y → y = w.state
  /-- No term is recorded further on. -/
  ahead : ∀ j, w.index < j → j ≤ target → w.history.timeline.get? j = none

/-- Where a replay towards `target` starts. -/
def nearest (h : History τ) (target : Nat) (s : σ) : Waypoint σ τ where
  index := (h.nearest target).index
  state := (h.nearest target).state
  history := h
  engine := s

omit [BEq τ] in
theorem nearest_clear (h : History τ) (target : Nat) (s : σ) :
    (nearest h target s).Clear target := by
  constructor
  · intro y recorded
    exact Option.some.inj (recorded.symm.trans (h.nearest_recorded target))
  · intro j past hle
    cases recorded : h.timeline.get? j with
    | none => exact recorded
    | some y =>
      -- an entry between the nearest one and the target would be nearer
      have hnearer : j ≤ (h.nearest target).index :=
        Timeline.le_nearest (Timeline.get?_eq_some_iff.1 recorded) hle
      exact absurd past (Nat.not_lt_of_le hnearer)

theorem Next.clear (next : Next e target w w') (clear : w.Clear target) : w'.Clear target := by
  obtain ⟨before, -, accepted⟩ := next
  obtain ⟨-, after⟩ := History.put_eq_ok_iff.1 accepted
  have hfree := clear.ahead (w.index + 1) (Nat.lt_succ_self _) before
  split at after
  · rw [(Prod.mk.inj after).2]
    constructor
    · intro y recorded
      rcases History.get?_hold_eq_some recorded with old | ⟨-, new⟩
      · exact absurd old (by rw [hfree]; nofun)
      · exact new
    · intro j past hle
      have hj : j ≠ w.index + 1 := Nat.ne_of_gt past
      show (w.history.hold _ _).timeline.get? j = none
      rw [History.get?_hold, if_neg hj]
      exact clear.ahead j (Nat.lt_of_succ_lt past) hle
  · rw [(Prod.mk.inj after).2]
    constructor
    · intro y recorded
      exact absurd recorded (by rw [hfree]; nofun)
    · intro j past hle
      exact clear.ahead j (Nat.lt_of_succ_lt past) hle

theorem Passes.clear (walk : Passes e target w w') (clear : w.Clear target) :
    w'.Clear target :=
  Passes.invariant (fun _ _ next => next.clear) walk clear

/-- **On a clear way no rewrite is refused,** whatever the engine answers. -/
theorem Clear.put_isOk (clear : w.Clear target) (before : w.index < target)
    (within : ∀ t, w.history.terminal = some t → target ≤ t) (y : τ) :
    ∃ accepted, w.history.put (w.index + 1) y = .ok accepted := by
  have hfree := clear.ahead (w.index + 1) (Nat.lt_succ_self _) before
  have checked : w.history.check (w.index + 1) y = .ok () := by
    refine History.check_eq_ok_iff.2 ⟨?_, ?_⟩
    · intro t ht
      exact Nat.le_trans before (within t ht)
    · intro z recorded
      exact absurd recorded (by rw [hfree]; nofun)
  exact ⟨_, History.put_eq_ok_iff.2 ⟨checked, rfl⟩⟩

/-- A term that equals itself agrees with the record on a clear way. -/
theorem Clear.check_isOk [ReflBEq τ] (clear : w.Clear target)
    (within : ∀ t, w.history.terminal = some t → w.index ≤ t) :
    w.history.check w.index w.state = .ok () := by
  refine History.check_eq_ok_iff.2 ⟨within, ?_⟩
  intro y recorded
  rw [clear.here y recorded]
  exact BEq.rfl

/-! ### On the way of a replay -/

/-- **On the way to a target** from the entry recorded nearest to it: what holds at every
waypoint of a replay of the history `h`. -/
structure EnRoute (h : History τ) (target : Nat) (w : Waypoint σ τ) : Prop where
  /-- Nothing stands in the way. -/
  clear : w.Clear target
  /-- The way leads forward from the nearest entry. -/
  start_le : (h.nearest target).index ≤ w.index
  /-- It leads no further than the target. -/
  index_le : w.index ≤ target
  /-- The target is not past a known end of execution. -/
  within : ∀ t, h.terminal = some t → target ≤ t
  /-- What is known of the end of execution stays as it is. -/
  terminal : w.history.terminal = h.terminal
  /-- So does the place of the cursor. -/
  pinned : w.history.pinned = h.pinned
  /-- So does the policy. -/
  retention : w.history.retention = h.retention
  /-- So does everything recorded further on. -/
  beyond : ∀ j, w.index < j → w.history.timeline.get? j = h.timeline.get? j

theorem Passes.enRoute {h : History τ} {s : σ} (walk : (nearest h target s).Passes e target w)
    (within : ∀ t, h.terminal = some t → target ≤ t) : w.EnRoute h target := by
  obtain ⟨terminal, pinned, retention⟩ := walk.history_frame
  constructor
  · exact walk.clear (nearest_clear h target s)
  · exact walk.le_index
  · exact walk.index_le (h.timeline.nearest_le target)
  · exact within
  · exact terminal
  · exact pinned
  · exact retention
  · exact fun j past => walk.beyond past

namespace EnRoute

variable {h : History τ}

omit [BEq τ] in
theorem target_le (route : w.EnRoute h target) : ∀ t, w.history.terminal = some t → target ≤ t :=
  fun t ht => route.within t (route.terminal ▸ ht)

omit [BEq τ] in
theorem index_le_terminal (route : w.EnRoute h target) :
    ∀ t, w.history.terminal = some t → w.index ≤ t :=
  fun t ht => Nat.le_trans route.index_le (route.target_le t ht)

/-- **No rewrite on the way is refused,** whatever the engine answers. -/
theorem not_termRefused (route : w.EnRoute h target) (before : w.index < target) {y : τ}
    {cause : Contradiction} : w.history.put (w.index + 1) y ≠ .error cause := by
  intro refused
  obtain ⟨accepted, haccepted⟩ := route.clear.put_isOk before route.target_le y
  rw [haccepted] at refused
  cases refused

end EnRoute

/-- Where a replay stops well, the one term that may be recorded is the term reached. -/
theorem Stop.eq_of_recorded {h : History τ} {engine : σ}
    (stop : w.Stop e target ⟨.ok (w.index, w.state), h, engine⟩) (clear : w.Clear target) {y : τ}
    (recorded : h.timeline.get? w.index = some y) : y = w.state := by
  cases stop with
  | arrived => exact clear.here y recorded
  | ended _ _ accepted =>
    obtain ⟨-, -, rfl⟩ := History.markTerminal_eq_ok_iff.1 accepted
    rcases History.get?_hold_eq_some recorded with old | ⟨-, new⟩
    · exact clear.here y old
    · exact new

/-- A replay stops no further than execution is known to end. -/
theorem Stop.index_le_terminal {h h₀ : History τ} {engine : σ}
    (stop : w.Stop e target ⟨.ok (w.index, w.state), h, engine⟩) (route : w.EnRoute h₀ target) :
    ∀ t, h.terminal = some t → w.index ≤ t := by
  cases stop with
  | arrived => exact route.index_le_terminal
  | ended _ _ accepted =>
    obtain ⟨-, -, rfl⟩ := History.markTerminal_eq_ok_iff.1 accepted
    intro t ht
    exact Nat.le_of_eq (Option.some.inj ht)

/-- **Where a replay stops well, the cursor can be moved to,** whatever the engine answers. -/
theorem Stop.pin_isOk [ReflBEq τ] {h h₀ : History τ} {engine : σ}
    (stop : w.Stop e target ⟨.ok (w.index, w.state), h, engine⟩) (route : w.EnRoute h₀ target) :
    ∃ h', h.pin w.index w.state = .ok h' := by
  suffices checked : h.check w.index w.state = .ok () from
    ⟨_, History.pin_eq_ok_iff.2 ⟨checked, rfl⟩⟩
  refine History.check_eq_ok_iff.2 ⟨stop.index_le_terminal route, ?_⟩
  intro y recorded
  rw [stop.eq_of_recorded route.clear recorded]
  exact BEq.rfl

end Waypoint

end Retrace
