import Mathlib.Order.Bounds.Basic
import Retrace.Proofs.Calls

/-!
# What a navigation detects

A navigation compares every term it comes by with the record, yet of all the ways in which
an engine can contradict the record it detects exactly one: an end of execution before an
index that is recorded. Terms that differ from earlier ones go unnoticed, since a replay
starts at the recorded entry nearest to its target and so meets no other. To find these,
a verification is needed.

## Main definitions

* `History.Rival` — what an end of execution is held against.
* `Session.MeetsEnd` — in the course of a command the engine reports an end of execution.

## Main statements

* `History.isSome_endConflict?_iff` — an end of execution is contradicted by what is recorded
  past it.
* `Session.Lands.violation` — the one contradiction that a navigation can report.
* `Session.Lands.violation_iff` — when it reports it.
* `Session.Lands.detected` — what it leaves behind then.
* `Session.navigation_detects_early_end` — all three, for every reachable session.
-/

namespace Retrace

universe u v w w'

variable {σ : Type w} {τ : Type u} {ε : Type v}

/-! ### Histories -/

/-- The first entry past an index, as the least index recorded there. -/
theorem Timeline.firstAfter?_eq_some_iff_isLeast {t : Timeline τ} {i j : Nat} :
    t.firstAfter? i = some j ↔ IsLeast {k | i < k ∧ (t.get? k).isSome} j := by
  rw [firstAfter?_eq_some_iff]
  constructor
  · rintro ⟨past, recorded, least⟩
    refine ⟨⟨past, recorded⟩, ?_⟩
    rintro k ⟨hk, found⟩
    obtain ⟨y, hy⟩ := Option.isSome_iff_exists.1 found
    exact least (k, y) (get?_eq_some_iff.1 hy) hk
  · rintro ⟨⟨past, recorded⟩, least⟩
    refine ⟨past, recorded, ?_⟩
    rintro ⟨k, y⟩ listed hk
    exact least ⟨hk, by rw [get?_eq_some_iff.2 listed]; rfl⟩

namespace History

variable {h h' : History τ} {i r : Nat}

/-- **What an end of execution at `i` is held against:** the end of execution that is known,
or else the first index recorded past `i`. -/
def Rival (h : History τ) (i r : Nat) : Prop :=
  match h.terminal with
  | some t => r = t
  | none => IsLeast {j | i < j ∧ (h.timeline.get? j).isSome} r

/-- **An end of execution is contradicted** exactly by what is recorded past it. -/
theorem isSome_endConflict?_iff (wf : h.WellFormed)
    (within : ∀ t, h.terminal = some t → i ≤ t) :
    (h.endConflict? i).isSome ↔ ∃ j, i < j ∧ (h.timeline.get? j).isSome := by
  rw [← not_iff_not, Bool.not_eq_true, Option.isSome_eq_false_iff, Option.isNone_iff_eq_none,
    endConflict?_eq_none_iff]
  push Not
  constructor
  · rintro ⟨-, last⟩ j past recorded
    obtain ⟨y, hy⟩ := Option.isSome_iff_exists.1 recorded
    exact absurd (last j y hy) (Nat.not_le_of_lt past)
  · intro last
    refine ⟨fun t ht => ?_, fun j y recorded => Nat.le_of_not_lt fun past => ?_⟩
    · -- a known end is itself recorded
      refine Nat.le_antisymm (Nat.le_of_not_lt fun past => ?_) (within t ht)
      exact last t past (wf.terminal t ht)
    · exact last j past (by rw [recorded]; rfl)

theorem rival_of_endConflict? (wf : h.WellFormed) (conflict : h.endConflict? i = some r) :
    h.Rival i r := by
  unfold endConflict? at conflict
  unfold Rival
  cases known : h.terminal with
  | some t =>
    rw [known] at conflict
    dsimp only at conflict ⊢
    split at conflict
    · next here =>
      -- nothing is recorded past a known end
      obtain ⟨past, recorded, -⟩ := Timeline.firstAfter?_eq_some_iff.1 conflict
      obtain ⟨y, hy⟩ := Option.isSome_iff_exists.1 recorded
      have := wf.bounded t known r y hy
      omega
    · exact (Option.some.inj conflict).symm
  | none =>
    rw [known] at conflict
    exact Timeline.firstAfter?_eq_some_iff_isLeast.1 conflict

theorem Rival.le (rival : h.Rival i r) (within : ∀ t, h.terminal = some t → i ≤ t) : i ≤ r := by
  unfold Rival at rival
  split at rival
  · next t ht => exact rival ▸ within t ht
  · exact Nat.le_of_lt rival.1.1

/-- What an end is held against depends only on the known end and on what is recorded
past it. -/
theorem Rival.congr (rival : h.Rival i r) (terminal : h'.terminal = h.terminal)
    (beyond : ∀ j, i < j → h'.timeline.get? j = h.timeline.get? j) : h'.Rival i r := by
  have same : {j | i < j ∧ (h'.timeline.get? j).isSome} =
      {j | i < j ∧ (h.timeline.get? j).isSome} := by
    ext j
    exact and_congr_right fun past => by rw [beyond j past]
  unfold Rival
  rw [terminal, same]
  exact rival

end History

/-- **An end of execution met on the way of a replay is contradicted** exactly by what was
recorded past it before. -/
theorem Waypoint.EnRoute.isSome_endConflict?_iff {h : History τ} {target : Nat}
    {w : Waypoint σ τ} (route : w.EnRoute h target) (wf : w.history.WellFormed) :
    (w.history.endConflict? w.index).isSome ↔
      ∃ j, w.index < j ∧ (h.timeline.get? j).isSome := by
  rw [History.isSome_endConflict?_iff wf route.index_le_terminal]
  exact exists_congr fun j => and_congr_right fun past => by rw [route.beyond j past]

namespace Session

variable [BEq τ]

/-! ### Navigations -/

namespace Lands

variable {e : Engine σ τ ε} {s : Session τ} {k : Nat} {w : Waypoint σ τ}
  {o : Outcome σ τ ε (Visit τ)}

/-- **The one contradiction that a navigation can report** is an end of execution that the
record contradicts, however much the terms differ from those recorded. -/
theorem violation [ReflBEq τ] (lands : s.Lands e k w o)
    (route : w.EnRoute s.history (s.history.clamp k)) {cause : Contradiction}
    (violated : o.answer = .error (.violation cause)) :
    w.index < s.history.clamp k ∧ (e.advance w.state w.engine).1 = .halted ∧
      ∃ r, w.history.endConflict? w.index = some r ∧ cause = .differentEnd r w.index := by
  cases lands with
  | stopped stop =>
    obtain rfl := conclude_violation _ _ _ violated
    cases stop with
    | endRefused before answer refused =>
      refine ⟨before, answer, ?_⟩
      rcases History.markTerminal_eq_error_iff.1 refused with conflict | ⟨-, differs⟩
      · exact conflict
      · rw [route.clear.check_isOk route.index_le_terminal] at differs
        cases differs
    | termRefused before _ refused => exact absurd refused (route.not_termRefused before)
  | refused stop contradicted =>
    obtain ⟨h', pinned⟩ := stop.pin_isOk route
    rw [pinned] at contradicted
    cases contradicted
  | moved => cases violated

/-- A navigation that meets an end of execution which the record contradicts is concluded
with that contradiction. -/
theorem of_endConflict (lands : s.Lands e k w o) (before : w.index < s.history.clamp k)
    (answer : (e.advance w.state w.engine).1 = .halted) {r : Nat}
    (conflict : w.history.endConflict? w.index = some r) :
    o.answer = .error (.violation (.differentEnd r w.index)) ∧
      o.session =
        ({ s with history := w.history } : Session τ).poison (.differentEnd r w.index) := by
  have not_ok : ∀ {h : History τ} {engine : σ},
      ¬ w.Stop e (s.history.clamp k) ⟨.ok (w.index, w.state), h, engine⟩ := by
    intro h engine stop
    cases stop with
    | arrived there => exact Nat.ne_of_lt before there
    | ended _ _ accepted =>
      rw [(History.markTerminal_eq_ok_iff.1 accepted).1] at conflict
      cases conflict
  cases lands with
  | stopped stop =>
    cases stop with
    | endRefused _ _ refused =>
      rcases History.markTerminal_eq_error_iff.1 refused with ⟨r', conflict', rfl⟩ | ⟨none, -⟩
      · obtain rfl : r' = r := Option.some.inj (conflict'.symm.trans conflict)
        exact ⟨rfl, rfl⟩
      · rw [none] at conflict
        cases conflict
    | termRefused _ rewrote => rw [answer] at rewrote; cases rewrote
    | failed _ failed => rw [answer] at failed; cases failed
  | refused stop => exact absurd stop not_ok
  | moved stop => exact absurd stop not_ok

/-- **A navigation reports a contradiction** exactly if it meets an end of execution and
something is recorded past that. -/
theorem violation_iff [ReflBEq τ] (lands : s.Lands e k w o)
    (route : w.EnRoute s.history (s.history.clamp k)) (wf : w.history.WellFormed) :
    (∃ cause, o.answer = .error (.violation cause)) ↔
      (w.index < s.history.clamp k ∧ (e.advance w.state w.engine).1 = .halted) ∧
        ∃ j, w.index < j ∧ (s.history.timeline.get? j).isSome := by
  rw [← route.isSome_endConflict?_iff wf]
  constructor
  · rintro ⟨cause, violated⟩
    obtain ⟨before, answer, r, conflict, -⟩ := lands.violation route violated
    exact ⟨⟨before, answer⟩, by rw [conflict]; rfl⟩
  · rintro ⟨⟨before, answer⟩, past⟩
    obtain ⟨r, conflict⟩ := Option.isSome_iff_exists.1 past
    exact ⟨_, (lands.of_endConflict before answer conflict).1⟩

/-- **What a navigation leaves behind** that reports a contradiction: everything but the
record is as before, and the session is poisoned at the index of the end that it met. -/
theorem detected (lands : s.Lands e k w o) (route : w.EnRoute s.history (s.history.clamp k))
    (wf : w.history.WellFormed) (before : w.index < s.history.clamp k)
    (answer : (e.advance w.state w.engine).1 = .halted)
    (past : ∃ j, w.index < j ∧ (s.history.timeline.get? j).isSome) :
    ∃ recorded, s.history.Rival w.index recorded ∧
      o.answer = .error (.violation (.differentEnd recorded w.index)) ∧
      (Contradiction.differentEnd recorded w.index).index = w.index ∧
      o.session = { s with history := o.session.history, poisoned := some w.index } ∧
      o.session.history.pinned = s.history.pinned ∧ o.session.terminal = s.terminal := by
  obtain ⟨r, conflict⟩ := Option.isSome_iff_exists.1 ((route.isSome_endConflict?_iff wf).2 past)
  obtain ⟨violated, after⟩ := lands.of_endConflict before answer conflict
  have rival : w.history.Rival w.index r := History.rival_of_endConflict? wf conflict
  have earliest : (Contradiction.differentEnd r w.index).index = w.index :=
    Nat.min_eq_right (rival.le route.index_le_terminal)
  rw [poison, earliest] at after
  refine ⟨r, ?_, violated, earliest, ?_, ?_, ?_⟩
  · exact rival.congr route.terminal.symm fun j past => (route.beyond j past).symm
  · rw [after]
  · rw [after]
    exact route.pinned
  · rw [after]
    exact route.terminal

/-- However a navigation ends that meets an end of execution, what is recorded past that
stays as it is. -/
theorem beyond (lands : s.Lands e k w o) (route : w.EnRoute s.history (s.history.clamp k))
    (before : w.index < s.history.clamp k) {j : Nat} (past : w.index < j) :
    o.session.history.timeline.get? j = s.history.timeline.get? j := by
  rw [← route.beyond j past]
  cases lands with
  | stopped stop =>
    rw [conclude_history]
    cases stop <;> rfl
  | refused stop =>
    cases stop with
    | arrived there => exact absurd there (Nat.ne_of_lt before)
    | ended _ _ accepted =>
      obtain ⟨-, -, rfl⟩ := History.markTerminal_eq_ok_iff.1 accepted
      exact (History.get?_hold ..).trans (if_neg (Nat.ne_of_gt past))
  | moved stop pinned =>
    cases stop with
    | arrived there => exact absurd there (Nat.ne_of_lt before)
    | ended _ _ accepted =>
      -- an accepted end has nothing past it, so the cursor leaves nothing there either
      obtain ⟨last, -, rfl⟩ := History.markTerminal_eq_ok_iff.1 accepted
      obtain ⟨-, rfl⟩ := History.pin_eq_ok_iff.1 pinned
      have unrecorded : ∀ y, w.history.timeline.get? j ≠ some y := fun y recorded =>
        absurd ((History.endConflict?_eq_none_iff.1 last).2 j y recorded) (Nat.not_le_of_lt past)
      rw [Option.eq_none_iff_forall_ne_some.2 unrecorded, Option.eq_none_iff_forall_ne_some]
      intro y recorded
      rcases History.get?_hold_eq_some (History.get?_moveCursor_eq_some recorded) with held | here
      · rcases History.get?_hold_eq_some held with old | here
        · exact unrecorded y old
        · exact Nat.ne_of_gt past here.1
      · exact Nat.ne_of_gt past here.1

end Lands

/-! ### Commands -/

/-- **In the course of a command the engine reports an end of execution** at index `i`: the
replay asks about one index after the other, starting with the nearest entry, and this is
the answer about `i`. -/
def MeetsEnd (e : Engine σ τ ε) (s : Session τ) (engine : σ) (c : Command) (i : Nat) : Prop :=
  ∃ first n x, s.ancestor? c = some first ∧ first + n = i ∧
    (s.calls e engine c)[n]? = some (x, .halted)

/-- The only end of execution that a command can meet is where its replay stops. -/
theorem meetsEnd_iff {e : Engine σ τ ε} {s : Session τ} {engine : σ} {c : Command} {k : Nat}
    {w : Waypoint (σ × List (τ × Reply τ ε)) τ} (requested : s.requested? c = some k)
    (calls : w.Calls e (s.history.nearest (s.history.clamp k)).index (s.history.clamp k)
      (s.calls e engine c)) {i : Nat} :
    s.MeetsEnd e engine c i ↔ i = w.index ∧ w.index < s.history.clamp k ∧
      (e.logged.advance w.state w.engine).1 = .halted := by
  have start : s.ancestor? c = some (s.history.nearest (s.history.clamp k)).index := by
    rw [ancestor?, requested]
    rfl
  constructor
  · rintro ⟨first, n, x, hfirst, rfl, answered⟩
    obtain rfl := Option.some.inj (start.symm.trans hfirst)
    exact calls.halted_iff.1 ⟨x, answered⟩
  · rintro ⟨rfl, before, answer⟩
    have there := calls.countP_isRewrote
    obtain ⟨x, answered⟩ := calls.halted_iff.2 ⟨there, before, answer⟩
    exact ⟨_, _, x, start, there, answered⟩

/-- A command other than a verification that requests no index meets no end of execution,
and reports no contradiction. -/
theorem perform_of_requested_none (e : Engine σ τ ε) {s : Session τ} {c : Command}
    (navigation : ∀ upTo, c ≠ .verify upTo) (requested : s.requested? c = none) (engine : σ) :
    (∀ i, ¬ s.MeetsEnd e engine c i) ∧
      ∀ cause, (s.perform e engine c).answer ≠ .error (.violation cause) := by
  constructor
  · rintro i ⟨first, n, x, hfirst, -⟩
    rw [ancestor?, requested] at hfirst
    cases hfirst
  · intro cause violated
    have done := s.perform_comesTo e engine c
    generalize s.perform e engine c = o at done violated
    cases done with
    | navigated some =>
      rw [requested] at some
      cases some
    | overflowed | told => cases violated
    | verified upTo => exact navigation upTo rfl

/-- **Navigation detects an early end, and nothing else.** In every reachable session that
is not poisoned, whatever the engines answered and answer: a command that is no verification
reports a contradiction if and only if the engine reports an end of execution before a
recorded index. The contradiction is then one of ends, against the known end or else the
first index recorded further on; the session is poisoned at the index of the reported end;
and all but the record is as before. -/
theorem navigation_detects_early_end [ReflBEq τ] (e₀ : Engine σ τ ε) (engine₀ : σ) (initial : τ)
    (config : Config) (cs : List Command) {σ' : Type w'} (e : Engine σ' τ ε) (engine : σ')
    (c : Command) :
    let s := ((start initial config).performAll e₀ engine₀ cs).session
    let o := s.perform e engine c
    s.poisoned = none → (∀ upTo, c ≠ .verify upTo) →
      ((∃ cause, o.answer = .error (.violation cause)) ↔
        ∃ i, s.MeetsEnd e engine c i ∧ ∃ j, i < j ∧ (s.history.timeline.get? j).isSome) ∧
      (∀ i, s.MeetsEnd e engine c i → (∃ j, i < j ∧ (s.history.timeline.get? j).isSome) →
        ∃ recorded, s.history.Rival i recorded ∧
          o.answer = .error (.violation (.differentEnd recorded i)) ∧
          (Contradiction.differentEnd recorded i).index = i ∧
          o.session = { s with history := o.session.history, poisoned := some i } ∧
          o.session.history.pinned = s.history.pinned ∧ o.session.terminal = s.terminal) ∧
      (∀ i, s.MeetsEnd e engine c i → ∀ j, i < j →
        o.session.history.timeline.get? j = s.history.timeline.get? j) ∧
      ∀ i, o.answer ≠ .error (.violation (.differentTerm i)) := by
  intro s o usable navigation
  have wf : s.history.WellFormed := performAll_wellFormed e₀ initial config engine₀ cs
  cases requested : s.requested? c with
  | none =>
    obtain ⟨unmet, unviolated⟩ := perform_of_requested_none e navigation requested engine
    refine ⟨⟨?_, ?_⟩, fun i met => absurd met (unmet i), fun i met => absurd met (unmet i),
      fun i => unviolated _⟩
    · rintro ⟨cause, violated⟩
      exact absurd violated (unviolated cause)
    · rintro ⟨i, met, -⟩
      exact absurd met (unmet i)
  | some k =>
    obtain ⟨w, walk, lands, calls⟩ := s.perform_calls e usable requested engine
    have route := enRoute_of_passes walk
    have wf' : w.history.WellFormed := walk.wellFormed wf
    -- the command is its logged copy with the log left out
    have logged : o = (s.perform e.logged (engine, []) c).view Prod.fst :=
      (s.perform_logged e engine c).symm
    rw [perform_of_requested e.logged requested] at logged
    generalize s.navigate e.logged k (engine, []) = landed at lands logged
    have answer_iff : ∀ {cause : SessionError ε},
        o.answer = .error cause ↔ landed.answer = .error cause := by
      intro cause
      rw [logged]
      exact map_answer_eq_error
    have session : o.session = landed.session := by
      rw [logged]
      rfl
    have met_iff : ∀ {i}, s.MeetsEnd e engine c i ↔ i = w.index ∧
        w.index < s.history.clamp k ∧ (e.logged.advance w.state w.engine).1 = .halted :=
      meetsEnd_iff requested calls
    refine ⟨?_, ?_, ?_, ?_⟩
    · rw [exists_congr fun cause => answer_iff, lands.violation_iff route wf']
      constructor
      · rintro ⟨⟨before, answer⟩, past⟩
        exact ⟨w.index, met_iff.2 ⟨rfl, before, answer⟩, past⟩
      · rintro ⟨i, met, past⟩
        obtain ⟨rfl, told⟩ := met_iff.1 met
        exact ⟨told, past⟩
    · intro i met past
      obtain ⟨rfl, before, answer⟩ := met_iff.1 met
      simp only [session, answer_iff]
      exact lands.detected route wf' before answer past
    · intro i met j past
      obtain ⟨rfl, before, -⟩ := met_iff.1 met
      rw [session]
      exact lands.beyond route before past
    · intro i violated
      obtain ⟨-, -, r, -, ends⟩ := lands.violation route (answer_iff.1 violated)
      cases ends

/-- An engine that tires after five calls is asked about index three, and reports an end of
execution at index two. The first index recorded past it is four. -/
theorem navigation_detects_early_end_of_tiring :
    let s := ((start 0 { retention := .checkpoints 2 }).performAll (Engine.tiring 5) 0
      [.jump 5]).session
    let o := s.perform (Engine.tiring 5) 5 (.jump 3)
    s.poisoned = none ∧ s.MeetsEnd (Engine.tiring 5) 5 (.jump 3) 2 ∧ s.history.Rival 2 4 ∧
      o.answer = .error (.violation (.differentEnd 4 2)) ∧ o.session.poisoned = some 2 ∧
      o.session.current = 5 := by
  intro s o
  have met : s.MeetsEnd (Engine.tiring 5) 5 (.jump 3) 2 := ⟨2, 0, 2, rfl, rfl, rfl⟩
  have past : ∃ j, 2 < j ∧ (s.history.timeline.get? j).isSome := ⟨5, by decide, rfl⟩
  obtain ⟨recorded, rival, violated, -, after, -⟩ :=
    (navigation_detects_early_end (Engine.tiring 5) 0 0 { retention := .checkpoints 2 }
      [.jump 5] (Engine.tiring 5) 5 (.jump 3) rfl nofun).2.1 2 met past
  have answer : o.answer = .error (.violation (.differentEnd 4 2)) := rfl
  cases answer.symm.trans violated
  exact ⟨rfl, met, rival, answer, congrArg Session.poisoned after,
    congrArg Session.current after⟩

end Session

end Retrace
