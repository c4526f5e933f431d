import Mathlib.Data.List.Sort
import Retrace.Proofs.Calls
import Retrace.Proofs.Coherence

/-!
# What is recorded

Which indices a session holds is no accident of the order of its commands. Let the furthest
index be the highest one that any replay of the session has reached by a rewrite. Then the
history holds every index up to it that the policy retains, the cursor, the end of execution
if that is known, and nothing else: no jump, eviction or failure on the way leaves a hole or
a leftover.

## Main definitions

* `Session.furthestOf`, `Session.furthest` — how far the replay of a command, and the replays
  of a sequence of commands, get by rewrites.
* `History.Covers` — a history holds what it should up to an index.

## Main statements

* `History.Covers.put`, `History.Covers.markTerminal`, `History.Covers.pin` — what each
  recording does to the indices covered.
* `Session.perform_covers`, `Session.performAll_covers` — a command covers as far as its
  replay gets, and so does a run.

What is load-bearing is that a replay starts at a covered index and goes on in single steps,
so that it cannot leave a gap behind.
-/

namespace Retrace

universe u v w

variable {σ : Type w} {τ : Type u} {ε : Type v}

/-! ### Histories -/

/-- **A history covers the indices up to** `furthest`: of these it holds the ones that the
policy retains, and besides them the cursor and a known end of execution, which lie no
further. -/
structure History.Covers (h : History τ) (retention : Retention) (furthest : Nat) : Prop where
  policy : h.retention = retention
  recorded : ∀ i, (h.timeline.get? i).isSome ↔
    i ≤ furthest ∧ retention.retains i = true ∨ i = h.pinned ∨ h.terminal = some i
  pinned_le : h.pinned ≤ furthest
  terminal_le : ∀ t, h.terminal = some t → t ≤ furthest

namespace History

variable {retention : Retention} {furthest : Nat} {h h' : History τ}

theorem new_covers (initial : τ) (retention : Retention) :
    (new initial retention).Covers retention 0 where
  policy := rfl
  recorded i := by
    change ((Timeline.ofOrigin initial).get? i).isSome ↔ i ≤ 0 ∧ _ ∨ i = 0 ∨ none = some i
    rw [Timeline.get?_ofOrigin]
    rcases Nat.eq_zero_or_pos i with rfl | positive
    · simp
    · simp [Nat.ne_of_gt positive]
  pinned_le := Nat.le_refl 0
  terminal_le _ ht := nomatch ht

namespace Covers

/-- Nothing is recorded further on. -/
theorem le_furthest (covers : h.Covers retention furthest) {i : Nat}
    (recorded : (h.timeline.get? i).isSome) : i ≤ furthest := by
  rcases (covers.recorded i).1 recorded with ⟨le, -⟩ | rfl | known
  · exact le
  · exact covers.pinned_le
  · exact covers.terminal_le i known

theorem nearest_le (covers : h.Covers retention furthest) (i : Nat) :
    (h.nearest i).index ≤ furthest := by
  refine covers.le_furthest ?_
  rw [h.nearest_recorded]
  rfl

variable [BEq τ] {i : Nat} {x : τ}

/-- **One index further.** A step from an index covered covers the next one. -/
theorem put (covers : h.Covers retention furthest) (le : i ≤ furthest) {fresh : Bool}
    (accepted : h.put (i + 1) x = .ok (fresh, h')) :
    h'.Covers retention (max furthest (i + 1)) := by
  obtain ⟨-, after⟩ := put_eq_ok_iff.1 accepted
  have further : ∀ j, j ≤ max furthest (i + 1) ↔ j ≤ furthest ∨ j = i + 1 := by
    intro j
    omega
  have policy := covers.policy
  have pinned_le := Nat.le_trans covers.pinned_le (Nat.le_max_left furthest (i + 1))
  have terminal_le := fun t ht =>
    Nat.le_trans (covers.terminal_le t ht) (Nat.le_max_left furthest (i + 1))
  rw [policy] at after
  split at after
  · next retained =>
    rw [(Prod.mk.inj after).2]
    refine ⟨policy, ?_, pinned_le, terminal_le⟩
    intro j
    rw [isSome_get?_hold_iff, covers.recorded, further, hold_pinned, hold_terminal]
    grind
  · next released =>
    rw [(Prod.mk.inj after).2]
    refine ⟨policy, ?_, pinned_le, terminal_le⟩
    intro j
    rw [covers.recorded, further]
    grind

/-- **The end of execution is recorded besides.** -/
theorem markTerminal (covers : h.Covers retention furthest) (le : i ≤ furthest)
    (accepted : h.markTerminal i x = .ok h') : h'.Covers retention furthest := by
  obtain ⟨last, -, rfl⟩ := markTerminal_eq_ok_iff.1 accepted
  have unmarked := (endConflict?_eq_none_iff.1 last).1
  refine ⟨covers.policy, ?_, covers.pinned_le, ?_⟩
  · intro j
    show ((h.hold i x).timeline.get? j).isSome ↔
      j ≤ furthest ∧ retention.retains j = true ∨ j = h.pinned ∨ some i = some j
    rw [isSome_get?_hold_iff, covers.recorded]
    grind
  · intro t ht
    obtain rfl : i = t := Option.some.inj ht
    exact le

/-- **The cursor is recorded where it goes,** and where it was only if something else keeps
it there. -/
theorem pin (covers : h.Covers retention furthest) (le : i ≤ furthest)
    (accepted : h.pin i x = .ok h') : h'.Covers retention furthest := by
  obtain ⟨-, rfl⟩ := pin_eq_ok_iff.1 accepted
  refine ⟨?_, ?_, ?_, ?_⟩
  · rw [moveCursor_retention, hold_retention, covers.policy]
  · intro j
    have held := isSome_get?_hold_iff (h := h) (i := i) (j := j) (x := x)
    rw [covers.recorded] at held
    rw [get?_moveCursor, moveCursor_pinned, moveCursor_terminal, hold_pinned, hold_retention,
      hold_terminal, covers.policy]
    split
    · next left =>
      simp only [Option.isSome_none, Bool.false_eq_true, false_iff]
      grind
    · next kept =>
      have pinned_le := covers.pinned_le
      rw [held]
      grind
  · rw [moveCursor_pinned]
    exact le
  · intro t ht
    rw [moveCursor_terminal, hold_terminal] at ht
    exact covers.terminal_le t ht

end Covers

end History

/-! ### Nothing else to tell apart -/

/-- A timeline is what is found in it. -/
theorem Timeline.eq_of_get? {t t' : Timeline τ} (same : ∀ i, t.get? i = t'.get? i) : t = t' := by
  have irreflexive : Std.Irrefl fun a b : Nat × τ => a.1 < b.1 := ⟨fun a => Nat.lt_irrefl a.1⟩
  have antisymmetric : Std.Antisymm fun a b : Nat × τ => a.1 < b.1 :=
    ⟨fun _ _ lt gt => absurd gt (Nat.lt_asymm lt)⟩
  have listed : t.toList = t'.toList := by
    refine t.pairwise_toList.eq_of_mem_iff t'.pairwise_toList fun entry => ?_
    rw [← get?_eq_some_iff, ← get?_eq_some_iff, same]
  obtain ⟨origin, later, descending, positive⟩ := t
  obtain ⟨origin', later', descending', positive'⟩ := t'
  obtain ⟨first, others⟩ := List.cons.inj listed
  obtain rfl : origin = origin' := (Prod.mk.inj first).2
  obtain rfl : later = later' := List.reverse_injective others
  rfl

/-- **A history has no memory of how it came about:** if it rests on answers that do not
disagree, then how far it covers, the cursor and the end of execution determine it. -/
theorem History.Covers.unique {retention : Retention} {furthest : Nat} {h h' : History τ}
    {answers : τ → Reply τ ε → Prop} {initial : τ} (functional : Relator.RightUnique answers)
    (covers : h.Covers retention furthest) (covers' : h'.Covers retention furthest)
    (grounded : h.Grounded answers initial) (grounded' : h'.Grounded answers initial)
    (pinned : h.pinned = h'.pinned) (terminal : h.terminal = h'.terminal) : h = h' := by
  have timeline : h.timeline = h'.timeline := by
    refine Timeline.eq_of_get? fun i => ?_
    have both : (h.timeline.get? i).isSome ↔ (h'.timeline.get? i).isSome := by
      rw [covers.recorded, covers'.recorded, pinned, terminal]
    cases recorded : h.timeline.get? i with
    | none =>
      cases recorded' : h'.timeline.get? i with
      | none => rfl
      | some y =>
        rw [recorded, recorded'] at both
        cases both.2 rfl
    | some x =>
      rw [recorded] at both
      obtain ⟨y, recorded'⟩ := Option.isSome_iff_exists.1 (both.1 rfl)
      have reached := grounded.entry i x recorded
      rw [recorded', reached.unique functional (grounded'.entry i y recorded')]
  have policy : h.retention = h'.retention := covers.policy.trans covers'.policy.symm
  obtain ⟨_, _, _, _⟩ := h
  obtain ⟨_, _, _, _⟩ := h'
  cases timeline
  cases policy
  cases terminal
  cases pinned
  rfl

/-! ### Counting -/

section

variable {retention : Retention} {furthest : Nat} {h : History τ}

/-- **Without a policy nothing is missing.** -/
theorem History.Covers.indices_eq_range (covers : h.Covers .unbounded furthest) :
    h.entries.map Prod.fst = List.range (furthest + 1) := by
  refine h.timeline.pairwise_indices.eq_of_mem_iff List.pairwise_lt_range fun i => ?_
  rw [← Timeline.isSome_get?_iff, List.mem_range, Nat.lt_succ_iff]
  constructor
  · exact covers.le_furthest
  · intro le
    exact (covers.recorded i).2 (.inl ⟨le, Retention.retains_unbounded i⟩)

/-- **With checkpoints** no more is recorded than these, the cursor and the end. -/
theorem History.Covers.size_le {interval : Nat} (positive : 0 < interval)
    (covers : h.Covers (.checkpoints interval) furthest) : h.size ≤ furthest / interval + 3 := by
  let checkpoints := (List.range (furthest / interval + 1)).map fun i => i * interval
  have nodup : (h.entries.map Prod.fst).Nodup :=
    h.timeline.pairwise_indices.imp fun lt => Nat.ne_of_lt lt
  have subset : h.entries.map Prod.fst ⊆ checkpoints ++ h.pinned :: h.terminal.toList := by
    intro i listed
    rw [List.mem_append, List.mem_cons, Option.mem_toList]
    rcases (covers.recorded i).1 (Timeline.isSome_get?_iff.2 listed) with
      ⟨le, retained⟩ | pinned | known
    · left
      have whole := (Retention.retains_checkpoints positive i).1 retained
      refine List.mem_map.2 ⟨i / interval, ?_, Nat.div_mul_cancel (Nat.dvd_of_mod_eq_zero whole)⟩
      exact List.mem_range.2 (Nat.lt_succ_of_le (Nat.div_le_div_right le))
    · exact .inr (.inl pinned)
    · exact .inr (.inr known)
  have few : h.terminal.toList.length ≤ 1 := by
    cases h.terminal <;> simp
  calc h.size = (h.entries.map Prod.fst).length := by
        rw [List.length_map, History.entries, Timeline.length_toList, History.size]
    _ ≤ (checkpoints ++ h.pinned :: h.terminal.toList).length :=
        (List.subperm_of_subset nodup subset).length_le
    _ = furthest / interval + 1 + (h.terminal.toList.length + 1) := by
        rw [List.length_append, List.length_map, List.length_range, List.length_cons]
    _ ≤ furthest / interval + 3 := by omega

end

/-! ### Replays -/

namespace Waypoint

variable [BEq τ] {e : Engine σ τ ε} {target : Nat} {w w' : Waypoint σ τ} {r : Replay σ τ ε}
  {retention : Retention} {furthest : Nat}

/-- **A walk covers as far as it gets.** -/
theorem Passes.covers (walk : Passes e target w w')
    (covers : w.history.Covers retention (max furthest w.index)) :
    w'.history.Covers retention (max furthest w'.index) := by
  refine Passes.invariant (I := fun w => w.history.Covers retention (max furthest w.index)) ?_
    walk covers
  rintro w₁ w₂ ⟨-, -, accepted⟩ covers
  have further := covers.put (Nat.le_max_right furthest w₁.index) accepted
  rwa [Nat.max_assoc, Nat.max_eq_right (Nat.le_succ w₁.index)] at further

theorem Stop.covers (stop : Stop e target w r) (le : w.index ≤ furthest)
    (covers : w.history.Covers retention furthest) : r.history.Covers retention furthest := by
  cases stop with
  | ended _ _ accepted => exact covers.markTerminal le accepted
  | arrived | endRefused | termRefused | failed => exact covers

end Waypoint

/-! ### Sessions -/

namespace Session

variable [BEq τ]

/-- **How far the replay of a command gets by rewrites:** the highest index that it reaches
by one, and `0` if there is none. Each rewrite leads one index further. -/
def furthestOf (e : Engine σ τ ε) (s : Session τ) (engine : σ) (c : Command) : Nat :=
  let rewrites := (s.calls e engine c).countP fun call => call.2.isRewrote
  match s.ancestor? c with
  | some start => if rewrites = 0 then 0 else start + rewrites
  | none => 0

/-- **The highest index that any replay reaches by a rewrite** during a sequence of commands,
and `0` if none does. -/
def furthest (e : Engine σ τ ε) : Session τ → σ → List Command → Nat
  | _, _, [] => 0
  | s, engine, c :: rest =>
    let first := s.perform e engine c
    max (s.furthestOf e engine c) (furthest e first.session first.engine rest)

omit [BEq τ] in
theorem start_covers (initial : τ) (config : Config) :
    (start initial config).history.Covers config.retention 0 :=
  History.new_covers initial config.retention

variable {e : Engine σ τ ε} {s : Session τ} {engine : σ} {retention : Retention}
  {sofar : Nat}

/-- **A navigation covers as far as its walk gets,** however it lands. -/
theorem Lands.covers {k : Nat} {w : Waypoint σ τ} {o : Outcome σ τ ε (Visit τ)}
    (covers : s.history.Covers retention sofar)
    (walk : (Waypoint.nearest s.history (s.history.clamp k) engine).Passes e (s.history.clamp k) w)
    (lands : s.Lands e k w o) : o.session.history.Covers retention (max sofar w.index) := by
  have start : s.history.Covers retention
      (max sofar (s.history.nearest (s.history.clamp k)).index) := by
    rwa [Nat.max_eq_left (covers.nearest_le _)]
  have passed : w.history.Covers retention (max sofar w.index) := walk.covers start
  have le : w.index ≤ max sofar w.index := Nat.le_max_right _ _
  cases lands with
  | stopped stop =>
    rw [conclude_history]
    exact stop.covers le passed
  | refused stop => exact stop.covers le passed
  | moved stop pinned => exact (stop.covers le passed).pin le pinned

/-- A visit covers as far as it leads. -/
theorem navigate_covers (covers : s.history.Covers retention sofar) {k : Nat} {visit : Visit τ}
    (landed : (s.navigate e k engine).answer = .ok visit) :
    (s.navigate e k engine).session.history.Covers retention (max sofar visit.index) := by
  obtain ⟨w, h, h', engine', walk, stop, pinned, rfl, after⟩ := navigate_moved landed
  rw [after]
  exact Lands.covers covers walk (.moved stop pinned)

/-- **A command covers as far as its replay gets,** whether it succeeds or fails. -/
theorem perform_covers (covers : s.history.Covers retention sofar) (c : Command) :
    (s.perform e engine c).session.history.Covers retention
      (max sofar (s.furthestOf e engine c)) := by
  have unmoved : s.history.Covers retention (max sofar 0) := by
    rwa [Nat.max_zero]
  cases requested : s.requested? c with
  | none =>
    have hfurthest : s.furthestOf e engine c = 0 := by
      rw [furthestOf, ancestor?, requested]
      rfl
    have done := s.perform_comesTo e engine c
    rw [hfurthest]
    generalize s.perform e engine c = o at done ⊢
    cases done with
    | navigated some =>
      rw [requested] at some
      cases some
    | overflowed | told => exact unmoved
    | verified upTo =>
      show (s.verify e upTo engine).session.history.Covers retention (max sofar 0)
      rw [(s.verify_frame e upTo engine).1]
      exact unmoved
  | some k =>
    have hsession : (s.perform e engine c).session =
        (s.navigate e.logged k (engine, [])).session := by
      rw [← s.perform_logged, perform_of_requested e.logged requested]
      rfl
    cases poisoned : s.poisoned with
    | some i =>
      have hfurthest : s.furthestOf e engine c = 0 := by
        rw [furthestOf, ancestor?, requested, calls_of_poisoned e poisoned]
        rfl
      rw [hsession, hfurthest, navigate_of_poisoned e.logged poisoned]
      exact unmoved
    | none =>
      obtain ⟨w, walk, lands, made⟩ := s.perform_calls e poisoned requested engine
      have covered := Lands.covers covers walk lands
      have start_le := covers.nearest_le (s.history.clamp k)
      -- a replay without a rewrite stays at an index that is covered already
      have hfurthest : max sofar (s.furthestOf e engine c) = max sofar w.index := by
        have reached := made.countP_isRewrote
        rw [furthestOf, ancestor?, requested]
        dsimp only [Option.map_some]
        split <;> omega
      rwa [hsession, hfurthest]

/-- **A run covers as far as its replays get.** -/
theorem performAll_covers (covers : s.history.Covers retention sofar) (cs : List Command) :
    (s.performAll e engine cs).session.history.Covers retention
      (max sofar (s.furthest e engine cs)) := by
  induction cs generalizing s engine sofar with
  | nil =>
    rw [furthest, Nat.max_zero]
    exact covers
  | cons c rest ih =>
    rw [furthest, ← Nat.max_assoc]
    exact ih (perform_covers covers c)

/-- A run of a fresh session covers exactly as far. -/
theorem start_performAll_covers (e : Engine σ τ ε) (initial : τ) (config : Config) (engine : σ)
    (cs : List Command) :
    ((start initial config).performAll e engine cs).session.history.Covers config.retention
      ((start initial config).furthest e engine cs) := by
  rw [← Nat.zero_max (furthest _ _ _ _)]
  exact performAll_covers (start_covers initial config) cs

/-- **The recorded indices are exactly determined.** For every engine and every sequence of
commands, whatever fails on the way: the history holds the indices that the policy retains up
to the highest one that any replay reached by a rewrite, the cursor, and the end of execution
if that is known. So without a policy it holds all of them, and with checkpoints at most two
more than these. -/
theorem recorded_indices_determined (e : Engine σ τ ε) (initial : τ) (config : Config)
    (engine : σ) (cs : List Command) :
    let s := ((start initial config).performAll e engine cs).session
    let highest := (start initial config).furthest e engine cs
    let indices := s.history.entries.map Prod.fst
    (∀ i, i ∈ indices ↔
      i ≤ highest ∧ config.retention.retains i = true ∨ i = s.current ∨ s.terminal = some i) ∧
    (config.retention = .unbounded → indices = List.range (highest + 1)) ∧
    ∀ interval, 0 < interval → config.retention = .checkpoints interval →
      s.history.size ≤ highest / interval + 3 := by
  intro s highest indices
  have covers : s.history.Covers config.retention highest := by
    have whole : s.history.Covers config.retention (max 0 highest) :=
      performAll_covers (start_covers initial config) cs
    rwa [Nat.zero_max] at whole
  have anchored : s.Anchored := performAll_anchored e initial config engine cs
  refine ⟨?_, ?_, ?_⟩
  · intro i
    show i ∈ s.history.timeline.toList.map Prod.fst ↔ _
    rw [← Timeline.isSome_get?_iff, covers.recorded, anchored.pinned]
    rfl
  · intro unbounded
    rw [unbounded] at covers
    exact covers.indices_eq_range
  · intro interval positive checkpoints
    rw [checkpoints] at covers
    exact covers.size_le positive

/-- An engine that tires after five calls poisons the session at its second jump; of the five
indices reached every other one is recorded still, and the cursor. -/
theorem recorded_indices_determined_for_tiring :
    let cs := [Command.jump 5, .jump 3]
    let s := ((start 0 { retention := .checkpoints 2 }).performAll (Engine.tiring 5) 0 cs).session
    let s' := ((start 0 {}).performAll (Engine.tiring 5) 0 cs).session
    s.poisoned = some 2 ∧ s.history.entries.map Prod.fst = [0, 2, 4, 5] ∧
      s.history.size ≤ 5 / 2 + 3 ∧ s'.history.entries.map Prod.fst = List.range 6 := by
  intro cs s s'
  have sparse := recorded_indices_determined (Engine.tiring 5) 0 { retention := .checkpoints 2 }
    0 cs
  have full := recorded_indices_determined (Engine.tiring 5) 0 {} 0 cs
  exact ⟨rfl, rfl, sparse.2.2 2 Nat.two_pos rfl, full.2.1 rfl⟩

end Session

end Retrace
