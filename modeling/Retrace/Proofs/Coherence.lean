import Retrace.Proofs.Provenance

/-!
# The cursor and the record

A session keeps its cursor twice: as an index and a term of its own, and as the pinned
index of its history. The two copies never drift apart, whatever the engine answers and
however commands fail: a command moves both, or neither.

## Main definitions

* `Session.Anchored` — the pinned index is the cursor's, and the very term of the cursor is
  recorded there.

## Main statements

* `Session.navigate_anchored`, `Session.performAll_anchored` — every session is anchored.
* `Session.Anchored.recorded_visit` — a visit is the entry at the cursor.
* `Session.cursor_and_record_agree` — what the cursor and the record have to do with each other
  after every command.

The term recorded at the cursor is the same term and not just an equal one, since a replay
walks a clear way to it (`Waypoint.Stop.eq_of_recorded`).
-/

namespace Retrace

universe u v w

variable {σ : Type w} {τ : Type u} {ε : Type v}

namespace Session

/-- **An anchored session:** its cursor stands where the history has it pinned, and the term
at the cursor is the one recorded there. -/
structure Anchored (s : Session τ) : Prop where
  pinned : s.history.pinned = s.current
  recorded : s.history.timeline.get? s.current = some s.cursor

theorem start_anchored (initial : τ) (config : Config) : (start initial config).Anchored where
  pinned := rfl
  recorded := rfl

variable [BEq τ] {e : Engine σ τ ε} {s : Session τ} {engine : σ}

theorem navigate_anchored (anchored : s.Anchored) (k : Nat) :
    (s.navigate e k engine).session.Anchored := by
  cases poisoned : s.poisoned with
  | some i =>
    rw [navigate_of_poisoned e poisoned]
    exact anchored
  | none =>
    obtain ⟨w, walk, lands⟩ := s.navigate_lands e poisoned k engine
    have route := enRoute_of_passes walk
    -- a command that fails moves neither copy, and what it recorded replaced nothing
    have left : ∀ {r : Replay σ τ ε}, w.Stop e (s.history.clamp k) r →
        r.history.pinned = s.current ∧ r.history.timeline.get? s.current = some s.cursor := by
      intro r stop
      refine ⟨?_, stop.keeps (walk.keeps anchored.recorded)⟩
      rw [stop.history_frame.1, route.pinned, anchored.pinned]
    generalize s.navigate e k engine = o at lands ⊢
    cases lands with
    | @stopped setback h engine' stop =>
      obtain ⟨hpinned, hrecorded⟩ := left stop
      constructor
      · rw [conclude_history, conclude_current]
        exact hpinned
      · rw [conclude_history, conclude_current, conclude_cursor]
        exact hrecorded
    | refused stop =>
      obtain ⟨hpinned, hrecorded⟩ := left stop
      exact ⟨hpinned, hrecorded⟩
    | @moved h h' engine' stop pinned =>
      obtain ⟨-, rfl⟩ := History.pin_eq_ok_iff.1 pinned
      refine ⟨History.moveCursor_pinned _ _, ?_⟩
      show ((h.hold w.index w.state).moveCursor w.index).timeline.get? w.index = some w.state
      rw [History.get?_moveCursor_of_kept (.inr rfl), History.get?_hold, if_pos rfl]
      cases recorded : h.timeline.get? w.index with
      | none => rfl
      | some y => rw [stop.eq_of_recorded route.clear recorded, Option.some_or]

theorem verify_anchored (anchored : s.Anchored) (upTo : Nat) :
    (s.verify e upTo engine).session.Anchored := by
  obtain ⟨hhistory, hcurrent, hcursor, -⟩ := s.verify_frame e upTo engine
  constructor
  · rw [hhistory, hcurrent]
    exact anchored.pinned
  · rw [hhistory, hcurrent, hcursor]
    exact anchored.recorded

theorem perform_anchored (anchored : s.Anchored) (c : Command) :
    (s.perform e engine c).session.Anchored :=
  perform_preserves (I := fun s _ => s.Anchored)
    (fun _ _ k _ anchored => navigate_anchored anchored k)
    (fun _ _ upTo _ anchored => verify_anchored anchored upTo) anchored c

/-- **Every session is anchored,** whatever the engine answered and however commands failed. -/
theorem performAll_anchored (e : Engine σ τ ε) (initial : τ) (config : Config) (engine : σ)
    (cs : List Command) : ((start initial config).performAll e engine cs).session.Anchored :=
  performAll_preserves (I := fun s _ => s.Anchored)
    (fun _ _ c anchored => perform_anchored anchored c) (start_anchored initial config) cs

/-! ### Looking up where the cursor stands -/

omit [BEq τ] in
/-- **The entry at the cursor is found under the cursor's index,** which no known end of
execution cuts short. -/
theorem Anchored.get?_current (anchored : s.Anchored) (wf : s.history.WellFormed) :
    s.history.get? s.current = some (s.current, s.cursor) := by
  have within : ∀ t, s.history.terminal = some t → s.current ≤ t := fun t known =>
    wf.bounded t known _ _ anchored.recorded
  rw [History.get?_of_within within, anchored.recorded]
  rfl

/-- **A visit is the entry at the cursor** as the command leaves it. -/
theorem Anchored.recorded_visit (anchored : s.Anchored) (wf : s.history.WellFormed) {c : Command}
    {visit : Visit τ} (answered : (s.perform e engine c).answer = .ok (.visit visit)) :
    visit.index = (s.perform e engine c).session.history.pinned ∧
      (visit.index, visit.state) ∈ (s.perform e engine c).session.history.entries ∧
      (s.perform e engine c).session.history.get? visit.index =
        some (visit.index, visit.state) := by
  have after : (s.perform e engine c).session.Anchored := perform_anchored anchored c
  have wf' : (s.perform e engine c).session.history.WellFormed :=
    perform_history History.wellFormed_invariant wf c
  have told := perform_visit answered
  have index : visit.index = (s.perform e engine c).session.current := congrArg Visit.index told
  have state : visit.state = (s.perform e engine c).session.cursor := congrArg Visit.state told
  rw [index, state]
  exact ⟨after.pinned.symm, Timeline.get?_eq_some_iff.1 after.recorded, after.get?_current wf'⟩

/-- **The cursor and the record agree after every command.** For every engine and every
equality of terms, and however the commands of a run fail: the history has pinned the index of
the cursor, and holds the very term of the cursor there; a known end of execution is recorded,
and nothing is recorded past it; and index `0` holds the initial term. Whatever command comes
next, if it answers with a visit, then the visit is the pinned entry, and is found in the
history under its index. -/
theorem cursor_and_record_agree (e : Engine σ τ ε) (initial : τ) (config : Config) (engine : σ)
    (cs : List Command) :
    let run := (start initial config).performAll e engine cs
    let s := run.session
    s.history.pinned = s.current ∧
      (s.current, s.cursor) ∈ s.history.entries ∧
      s.history.get? s.current = some (s.current, s.cursor) ∧
      (∀ t, s.terminal = some t →
        (∃ x, (t, x) ∈ s.history.entries) ∧ ∀ entry ∈ s.history.entries, entry.1 ≤ t) ∧
      s.history.get? 0 = some (0, initial) ∧
      ∀ c visit, (s.perform e run.engine c).answer = .ok (.visit visit) →
        let after := (s.perform e run.engine c).session
        visit.index = after.history.pinned ∧
          (visit.index, visit.state) ∈ after.history.entries ∧
          after.history.get? visit.index = some (visit.index, visit.state) := by
  intro run s
  have anchored : s.Anchored := performAll_anchored e initial config engine cs
  have wf : s.history.WellFormed := performAll_wellFormed e initial config engine cs
  refine ⟨anchored.pinned, Timeline.get?_eq_some_iff.1 anchored.recorded,
    anchored.get?_current wf, ?_, ?_, ?_⟩
  · intro t known
    obtain ⟨x, recorded⟩ := Option.isSome_iff_exists.1 (wf.terminal t known)
    refine ⟨⟨x, Timeline.get?_eq_some_iff.1 recorded⟩, ?_⟩
    rintro ⟨i, y⟩ listed
    exact wf.bounded t known i y (Timeline.get?_eq_some_iff.2 listed)
  · have origin : s.history.origin = initial := performAll_origin e initial config engine cs
    rw [History.get?_of_within fun t _ => Nat.zero_le t, Timeline.get?_zero, ← origin]
    rfl
  · intro c visit answered
    exact anchored.recorded_visit wf answered

/-- An engine that gives up after three calls ends execution at index three. A step back takes the
cursor to a checkpoint, and a jump past the end takes it to the end again. -/
theorem cursor_and_record_agree_for_tiring :
    let run := (start 0 { retention := .checkpoints 2 }).performAll (Engine.tiring 3) 0
      [.jump 9, .back 1]
    let after := (run.session.perform (Engine.tiring 3) run.engine (.jump 7)).session
    run.session.current = 2 ∧ run.session.history.entries = [(0, 0), (2, 2), (3, 3)] ∧
      (∀ entry ∈ run.session.history.entries, entry.1 ≤ 3) ∧
      after.history.pinned = 3 ∧ after.history.get? 3 = some (3, 3) := by
  intro run after
  obtain ⟨-, -, -, ended, -, visits⟩ := cursor_and_record_agree (Engine.tiring 3) 0
    { retention := .checkpoints 2 } 0 [.jump 9, .back 1]
  obtain ⟨pinned, -, found⟩ := visits (.jump 7) ⟨3, 3, 7, true⟩ rfl
  exact ⟨rfl, rfl, (ended 3 rfl).2, pinned.symm, found⟩

end Session

end Retrace
