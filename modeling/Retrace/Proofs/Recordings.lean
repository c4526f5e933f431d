import Mathlib.Data.List.Induction
import Retrace.History.Recording
import Retrace.Proofs.Acceptance

/-!
# A history as the record of what it was told

A history is determined by the recordings that it was told and accepted. It holds the indices
that the policy retains among those told, and besides them the cursor, the end of execution and
the initial term; and it holds each of them with the first term that it was told there since it
last held none. An index that neither the policy nor the end of execution keeps is let go of when
the cursor leaves it, and only then, and nothing told later puts another term in place of one that
is held.

## Main definitions

* `History.Accepts` — a history accepts a recording.
* `History.AcceptedAt` — some recording at an index was accepted on the way.
* `History.RecordedBy` — an index is held with the term of the recording that put it on record,
  ever since.
* `History.Filters` — the recorded indices are those told, filtered by the policy.

## Main statements

* `History.accept?_put_iff`, `History.accept?_pin_iff`, `History.accept?_markTerminal_iff` — what
  an accepted recording does.
* `History.Invariant.tell`, `History.Invariant.ofRecordings` — what no recording spoils, no list
  of recordings spoils, whatever is refused on the way.
* `History.ofRecordings_filters`, `History.recordedBy_of_recorded` — what a list of recordings
  leaves on record.
* `History.history_is_write_once_record` — all of this together.
-/

namespace Retrace

universe u

variable {τ : Type u}

namespace History

/-! ### One recording -/

section

variable [BEq τ] {h h' : History τ} {r : Recording τ} {i : Nat} {x : τ} {fresh : Bool}

/-- **A history accepts a recording** that does not contradict it. -/
def Accepts (h : History τ) (r : Recording τ) : Prop :=
  ∃ accepted, h.accept? r = .ok accepted

theorem accept?_put_iff :
    h.accept? (.put i x) = .ok (fresh, h') ↔ h.check i x = .ok () ∧
      (fresh, h') = if h.retention.retains i then ((h.timeline.get? i).isNone, h.hold i x)
        else (false, h) :=
  put_eq_ok_iff

theorem accept?_pin_iff :
    h.accept? (.pin i x) = .ok (fresh, h') ↔
      fresh = false ∧ h.check i x = .ok () ∧ h' = (h.hold i x).moveCursor i := by
  rw [← pin_eq_ok_iff, accept?]
  cases h.pin i x <;> simp [Except.map, eq_comm]

theorem accept?_markTerminal_iff :
    h.accept? (.markTerminal i x) = .ok (fresh, h') ↔
      fresh = false ∧ h.endConflict? i = none ∧ h.check i x = .ok () ∧
        h' = { h.hold i x with terminal := some i } := by
  rw [← markTerminal_eq_ok_iff, accept?]
  cases h.markTerminal i x <;> simp [Except.map, eq_comm]

/-- Whatever is accepted has passed the comparison. -/
theorem Accepts.checked (accepts : h.Accepts r) : h.check r.index r.term = .ok () := by
  obtain ⟨⟨fresh, h'⟩, accepted⟩ := accepts
  cases r with
  | put i x => exact (accept?_put_iff.1 accepted).1
  | pin i x => exact (accept?_pin_iff.1 accepted).2.1
  | markTerminal i x => exact (accept?_markTerminal_iff.1 accepted).2.2.1

/-- **Telling a history something** leaves what it accepts, or the history as it was. -/
theorem tell_cases (h : History τ) (r : Recording τ) :
    (∃ fresh h', h.accept? r = .ok (fresh, h') ∧ h.tell r = (.ok fresh, h')) ∨
      ¬ h.Accepts r ∧ ∃ cause, h.tell r = (.error cause, h) := by
  cases accepted : h.accept? r with
  | ok p => exact .inl ⟨p.1, p.2, rfl, tell_of_ok accepted⟩
  | error cause =>
    refine .inr ⟨?_, cause, tell_of_error accepted⟩
    rintro ⟨p, accepted'⟩
    rw [accepted] at accepted'
    cases accepted'

/-- **What no recording spoils, nothing told spoils,** accepted or not. -/
theorem Invariant.tell {I : History τ → Prop} (inv : Invariant I) (before : I h)
    (r : Recording τ) : I (h.tell r).2 := by
  rcases h.tell_cases r with ⟨fresh, h', accepted, told⟩ | ⟨-, cause, told⟩
  · rw [told]
    cases r with
    | put i x => exact inv.put before accepted
    | pin i x => exact inv.pin before (pin_eq_ok_iff.2 (accept?_pin_iff.1 accepted).2)
    | markTerminal i x =>
      exact inv.markTerminal before
        (markTerminal_eq_ok_iff.2 (accept?_markTerminal_iff.1 accepted).2)
  · rw [told]
    exact before

/-- **An entry is not changed by what the history is told.** An entry after a recording was an
entry before, or is the one recorded, where nothing was recorded before. -/
theorem get?_tell_eq_some (recorded : (h.tell r).2.timeline.get? i = some x) :
    h.timeline.get? i = some x ∨
      h.timeline.get? i = none ∧ r.index = i ∧ r.term = x ∧ h.Accepts r := by
  rcases h.tell_cases r with ⟨fresh, h', accepted, told⟩ | ⟨-, cause, told⟩
  · rw [told] at recorded
    have held : ∀ {j y}, (h.hold j y).timeline.get? i = some x → h.timeline.get? i = some x ∨
        h.timeline.get? i = none ∧ j = i ∧ y = x := by
      intro j y recorded
      rw [get?_hold] at recorded
      split at recorded
      · next there =>
        rw [← there] at recorded
        cases before : h.timeline.get? i with
        | some z =>
          rw [before] at recorded
          exact .inl recorded
        | none =>
          rw [before] at recorded
          exact .inr ⟨rfl, there.symm, Option.some.inj recorded⟩
      · exact .inl recorded
    have accepts : h.Accepts r := ⟨_, accepted⟩
    suffices h.timeline.get? i = some x ∨
        h.timeline.get? i = none ∧ r.index = i ∧ r.term = x from
      this.imp_right fun ⟨absent, index, term⟩ => ⟨absent, index, term, accepts⟩
    cases r with
    | put j y =>
      obtain ⟨-, after⟩ := accept?_put_iff.1 accepted
      split at after
      · rw [(Prod.mk.inj after).2] at recorded
        exact held recorded
      · rw [(Prod.mk.inj after).2] at recorded
        exact .inl recorded
    | pin j y =>
      obtain ⟨-, -, rfl⟩ := accept?_pin_iff.1 accepted
      exact held (get?_moveCursor_eq_some recorded)
    | markTerminal j y =>
      obtain ⟨-, -, -, rfl⟩ := accept?_markTerminal_iff.1 accepted
      exact held recorded
  · rw [told] at recorded
    exact .inl recorded

/-- **A** `put` **answers that the entry is new** exactly if it is. -/
theorem tell_put_eq_true_iff :
    (h.tell (.put i x)).1 = .ok true ↔
      h.timeline.get? i = none ∧ ((h.tell (.put i x)).2.timeline.get? i).isSome := by
  rcases h.tell_cases (.put i x) with ⟨fresh, h', accepted, told⟩ | ⟨-, cause, told⟩
  · obtain ⟨-, after⟩ := accept?_put_iff.1 accepted
    rw [told]
    split at after
    · obtain ⟨rfl, rfl⟩ := Prod.mk.inj after
      simp [isSome_get?_hold]
    · obtain ⟨rfl, rfl⟩ := Prod.mk.inj after
      simp +contextual
  · rw [told]
    simp +contextual

end

/-! ### Lists of recordings -/

variable [BEq τ] {initial : τ} {retention : Retention} {rs : List (Recording τ)}
  {r : Recording τ} {h h' : History τ} {i : Nat} {x : τ}

theorem ofRecordings_snoc (initial : τ) (retention : Retention) (rs : List (Recording τ))
    (r : Recording τ) :
    ofRecordings initial retention (rs ++ [r]) =
      ((ofRecordings initial retention rs).tell r).2 := by
  rw [ofRecordings, List.foldl_append]
  rfl

/-- **What no recording spoils, no list of recordings spoils.** -/
theorem Invariant.ofRecordings {I : History τ → Prop} (inv : Invariant I)
    (before : I (ofRecordings initial retention rs)) (later : List (Recording τ)) :
    I (History.ofRecordings initial retention (rs ++ later)) := by
  induction later using List.reverseRecOn with
  | nil => rwa [List.append_nil]
  | append_singleton later r ih =>
    rw [← List.append_assoc, ofRecordings_snoc]
    exact inv.tell ih r

/-- **Some recording at an index was accepted** among those told. -/
def AcceptedAt (initial : τ) (retention : Retention) (rs : List (Recording τ)) (i : Nat) : Prop :=
  ∃ before r after, rs = before ++ r :: after ∧ r.index = i ∧
    (ofRecordings initial retention before).Accepts r

theorem acceptedAt_snoc_iff :
    AcceptedAt initial retention (rs ++ [r]) i ↔
      AcceptedAt initial retention rs i ∨
        r.index = i ∧ (ofRecordings initial retention rs).Accepts r := by
  constructor
  · rintro ⟨before, r', after, cut, index, accepts⟩
    rcases List.eq_nil_or_concat after with rfl | ⟨after, last, rfl⟩
    · obtain ⟨rfl, same⟩ := List.append_inj' cut rfl
      obtain rfl := List.head_eq_of_cons_eq same
      exact .inr ⟨index, accepts⟩
    · rw [List.concat_eq_append, ← List.cons_append, ← List.append_assoc] at cut
      exact .inl ⟨before, r', after, (List.append_inj' cut rfl).1, index, accepts⟩
  · rintro (⟨before, r', after, rfl, index, accepts⟩ | ⟨index, accepts⟩)
    · exact ⟨before, r', after ++ [r], by simp, index, accepts⟩
    · exact ⟨rs, r, [], rfl, index, accepts⟩

/-- **The recorded indices are those told, filtered by the policy,** the cursor, the end of
execution and the initial index. -/
structure Filters (h : History τ) (retention : Retention) (told : Nat → Prop) : Prop where
  policy : h.retention = retention
  recorded : ∀ i, (h.timeline.get? i).isSome ↔
    i = 0 ∨ i = h.pinned ∨ h.terminal = some i ∨ retention.retains i = true ∧ told i
  pinned : h.pinned = 0 ∨ told h.pinned

omit [BEq τ] in
theorem new_filters (initial : τ) (retention : Retention) {told : Nat → Prop}
    (silent : ∀ i, ¬ told i) : (new initial retention).Filters retention told where
  policy := rfl
  recorded i := by
    change ((Timeline.ofOrigin initial).get? i).isSome ↔
      i = 0 ∨ i = 0 ∨ none = some i ∨ retention.retains i = true ∧ told i
    rw [Timeline.get?_ofOrigin]
    by_cases first : i = 0
    · simp [first]
    · simp [first, silent]
  pinned := .inl rfl

/-- **An accepted recording adds its index to those told.** -/
theorem Filters.accept {told told' : Nat → Prop} {fresh : Bool}
    (filters : h.Filters retention told) (accepted : h.accept? r = .ok (fresh, h'))
    (more : ∀ i, told' i ↔ told i ∨ r.index = i) : h'.Filters retention told' := by
  obtain ⟨rfl, recorded, pinned⟩ := filters
  cases r with
  | put j y =>
    have more : ∀ i, told' i ↔ told i ∨ j = i := more
    obtain ⟨-, after⟩ := accept?_put_iff.1 accepted
    split at after
    · rw [(Prod.mk.inj after).2]
      refine ⟨rfl, fun i => ?_, ?_⟩
      · rw [isSome_get?_hold_iff, recorded, hold_pinned, hold_terminal]
        grind
      · rw [hold_pinned]
        grind
    · rw [(Prod.mk.inj after).2]
      refine ⟨rfl, fun i => ?_, ?_⟩
      · rw [recorded]
        grind
      · grind
  | pin j y =>
    have more : ∀ i, told' i ↔ told i ∨ j = i := more
    obtain ⟨-, -, rfl⟩ := accept?_pin_iff.1 accepted
    refine ⟨moveCursor_retention _ _, fun i => ?_, ?_⟩
    · have held := isSome_get?_hold_iff (h := h) (i := j) (j := i) (x := y)
      have origin := Retention.retains_zero h.retention
      rw [recorded] at held
      rw [get?_moveCursor, moveCursor_pinned, moveCursor_terminal, hold_pinned, hold_retention,
        hold_terminal]
      split
      · next left =>
        simp only [Option.isSome_none, Bool.false_eq_true, false_iff]
        grind
      · next kept =>
        rw [held]
        grind
    · rw [moveCursor_pinned]
      exact .inr ((more j).2 (.inr rfl))
  | markTerminal j y =>
    have more : ∀ i, told' i ↔ told i ∨ j = i := more
    obtain ⟨-, unrivalled, -, rfl⟩ := accept?_markTerminal_iff.1 accepted
    have unmoved := (endConflict?_eq_none_iff.1 unrivalled).1
    refine ⟨rfl, fun i => ?_, ?_⟩
    · show ((h.hold j y).timeline.get? i).isSome ↔
        i = 0 ∨ i = h.pinned ∨ some j = some i ∨ h.retention.retains i = true ∧ told' i
      rw [isSome_get?_hold_iff, recorded]
      grind
    · show h.pinned = 0 ∨ told' h.pinned
      grind

/-- **A list of recordings leaves on record** what the policy retains of the indices told. -/
theorem ofRecordings_filters (initial : τ) (retention : Retention) (rs : List (Recording τ)) :
    (ofRecordings initial retention rs).Filters retention
      (AcceptedAt initial retention rs) := by
  induction rs using List.reverseRecOn with
  | nil =>
    refine new_filters initial retention ?_
    rintro i ⟨before, r, after, cut, -⟩
    exact absurd cut (by simp)
  | append_singleton rs r ih =>
    rw [ofRecordings_snoc]
    rcases (ofRecordings initial retention rs).tell_cases r with
      ⟨fresh, h', accepted, told⟩ | ⟨refused, cause, told⟩
    · rw [told]
      refine ih.accept accepted fun i => ?_
      rw [acceptedAt_snoc_iff]
      exact or_congr_right (and_iff_left ⟨_, accepted⟩)
    · rw [told]
      have same : AcceptedAt initial retention (rs ++ [r]) = AcceptedAt initial retention rs := by
        funext i
        rw [acceptedAt_snoc_iff, eq_iff_iff]
        exact or_iff_left fun accepted => refused accepted.2
      rwa [same]

/-- **An index is held with the term of the recording that put it on record:** nothing was
recorded there before that recording, and since then the index has been held with its term. -/
def RecordedBy (initial : τ) (retention : Retention) (rs : List (Recording τ)) (i : Nat) (x : τ) :
    Prop :=
  ∃ before r after, rs = before ++ r :: after ∧ r.index = i ∧ r.term = x ∧
    (ofRecordings initial retention before).Accepts r ∧
    (∀ y, (i, y) ∉ (ofRecordings initial retention before).entries) ∧
    ∀ later, later <+: after →
      (i, x) ∈ (ofRecordings initial retention (before ++ r :: later)).entries

/-- **Every entry but the initial one was put on record** by the first recording accepted there
since nothing was recorded there. -/
theorem recordedBy_of_recorded
    (recorded : (ofRecordings initial retention rs).timeline.get? i = some x) :
    i = 0 ∧ x = initial ∨ RecordedBy initial retention rs i x := by
  -- an entry is traced back, recording by recording, until it was not there yet
  induction rs using List.reverseRecOn with
  | nil =>
    change (Timeline.ofOrigin initial).get? i = some x at recorded
    rw [Timeline.get?_ofOrigin] at recorded
    split at recorded
    · next first => exact .inl ⟨first, (Option.some.inj recorded).symm⟩
    · cases recorded
  | append_singleton rs r ih =>
    have now := Timeline.get?_eq_some_iff.1 recorded
    rw [ofRecordings_snoc] at recorded
    rcases get?_tell_eq_some recorded with old | ⟨absent, index, term, accepts⟩
    · refine (ih old).imp_right ?_
      rintro ⟨before, r', after, rfl, index, term, accepts, absent, since⟩
      refine ⟨before, r', after ++ [r], by simp, index, term, accepts, absent, ?_⟩
      intro later within
      rcases List.prefix_concat_iff.1 within with rfl | within
      · rwa [← List.cons_append, ← List.append_assoc]
      · exact since later within
    · refine .inr ⟨rs, r, [], rfl, index, term, accepts, ?_, ?_⟩
      · intro y listed
        rw [Timeline.get?_eq_some_iff.2 listed] at absent
        cases absent
      · intro later within
        rwa [List.prefix_nil.1 within]

/-- **A history is a write-once record, filtered by its policy.** Whatever a history is told, from
its initial term on, and whatever of it is refused: an index is recorded exactly if it is the
initial one, the cursor's, the end of execution, or retained by the policy and told of by an
accepted recording; and nothing is recorded past the end. Every entry but the initial one has the
term of the recording that put it on record, and whatever else is accepted there equals that
term. The initial term, a term at a retained index and the term at the end stay for good. And a
`put` answers that the entry is new exactly if the index was not recorded before and is
afterwards. -/
theorem history_is_write_once_record (initial : τ) (retention : Retention)
    (rs : List (Recording τ)) :
    let h := ofRecordings initial retention rs
    let indices := h.entries.map Prod.fst
    (∀ i, i ∈ indices ↔ i = 0 ∨ i = h.pinned ∨ h.terminal = some i ∨
      retention.retains i = true ∧ AcceptedAt initial retention rs i) ∧
    (∀ t, h.terminal = some t → ∀ i ∈ indices, i ≤ t) ∧
    (∀ i x, (i, x) ∈ h.entries →
      i = 0 ∧ x = initial ∨ RecordedBy initial retention rs i x) ∧
    (∀ i x, (i, x) ∈ h.entries → ∀ r, r.index = i → h.Accepts r → (x == r.term) = true) ∧
    (∀ i x, (i, x) ∈ h.entries → i = 0 ∨ retention.retains i = true ∨ h.terminal = some i →
      ∀ later, (i, x) ∈ (ofRecordings initial retention (rs ++ later)).entries) ∧
    ∀ i x, (h.tell (.put i x)).1 = .ok true ↔
      i ∉ indices ∧ i ∈ (h.tell (.put i x)).2.entries.map Prod.fst := by
  intro h indices
  have filters : h.Filters retention (AcceptedAt initial retention rs) :=
    ofRecordings_filters initial retention rs
  have fresh : (ofRecordings initial retention []).WellFormed := new_wellFormed initial retention
  have wf : h.WellFormed := wellFormed_invariant.ofRecordings fresh rs
  have listed : ∀ {h : History τ} {i}, i ∈ h.entries.map Prod.fst ↔ (h.timeline.get? i).isSome :=
    Timeline.isSome_get?_iff.symm
  refine ⟨fun i => listed.trans (filters.recorded i), ?_, ?_, ?_, ?_, ?_⟩
  · intro t known i recorded
    obtain ⟨x, found⟩ := Option.isSome_iff_exists.1 (listed.1 recorded)
    exact wf.bounded t known i x found
  · intro i x recorded
    exact recordedBy_of_recorded (Timeline.get?_eq_some_iff.2 recorded)
  · rintro i x recorded r rfl accepts
    exact (check_eq_ok_iff.1 accepts.checked).2 x (Timeline.get?_eq_some_iff.2 recorded)
  · intro i x recorded kept later
    have held : h.HeldForGood i x := by
      refine ⟨Timeline.get?_eq_some_iff.2 recorded, ?_⟩
      rw [filters.policy]
      rcases kept with rfl | retained | known
      · exact .inl (Retention.retains_zero retention)
      · exact .inl retained
      · exact .inr known
    exact Timeline.get?_eq_some_iff.1 ((heldForGood_invariant i x).ofRecordings held later).recorded
  · intro i x
    rw [tell_put_eq_true_iff, ← Option.not_isSome_iff_eq_none, listed, listed]

/-- A history that keeps every other term is told of four indices. The cursor has left index one,
which is let go; index three is the end, and stays when the cursor leaves it. A second term at
index two is refused. -/
theorem history_is_write_once_record_of_checkpoints :
    let rs : List (Recording Nat) := [.pin 1 10, .put 2 20, .pin 3 30, .markTerminal 3 30,
      .put 2 21, .pin 0 0]
    let h := ofRecordings 0 (.checkpoints 2) rs
    h.entries = [(0, 0), (2, 20), (3, 30)] ∧ AcceptedAt 0 (.checkpoints 2) rs 2 ∧
      (∀ i ∈ h.entries.map Prod.fst, i ≤ 3) ∧ RecordedBy 0 (.checkpoints 2) rs 2 20 ∧
      ¬ h.Accepts (.put 2 21) ∧
      (3, 30) ∈ (ofRecordings 0 (.checkpoints 2) (rs ++ [.pin 2 20])).entries := by
  intro rs h
  obtain ⟨recorded, bounded, origins, equal, kept, -⟩ :=
    history_is_write_once_record 0 (.checkpoints 2) rs
  have two : (2, 20) ∈ h.entries := by decide
  have three : (3, 30) ∈ h.entries := by decide
  refine ⟨rfl, ?_, bounded 3 rfl, ?_, ?_, kept 3 30 three (.inr (.inr rfl)) _⟩
  · rcases (recorded 2).1 (by decide) with first | pinned | known | ⟨-, told⟩
    · cases first
    · exact absurd pinned (by decide)
    · exact absurd known (by decide)
    · exact told
  · exact (origins 2 20 two).resolve_left (by decide)
  · intro accepts
    exact absurd (equal 2 20 two (.put 2 21) rfl accepts) (by decide)

end History

end Retrace
