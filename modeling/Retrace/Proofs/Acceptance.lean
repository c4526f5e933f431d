import Retrace.History.Basic
import Retrace.Timeline.Lemmas

/-!
# Accepted recordings

When a history accepts what it is told, and what it is afterwards. All three ways of
recording come down to one comparison, `check`, and one change, `hold`; they differ
in what they do besides.

## Main definitions

* `History.hold` — the history with a term at an index, unless a term is there.
* `History.WellFormed` — the cursor and the end of execution are recorded, and
  nothing is recorded past the end.
* `History.Invariant` — a property that no recording spoils.
* `History.HeldForGood` — a term is recorded where the policy or the end of execution keeps it.

## Main statements

* `History.check_eq_ok_iff`, `History.check_eq_error_iff` — what passes the comparison,
  and what does not.
* `History.put_eq_ok_iff`, `History.pin_eq_ok_iff`, `History.markTerminal_eq_ok_iff` —
  an accepted recording, with the history after it.
* `History.put_eq_error_iff`, `History.pin_eq_error_iff`,
  `History.markTerminal_eq_error_iff` — a refused one, with the contradiction.
* `History.put_wellFormed`, `History.pin_wellFormed`, `History.markTerminal_wellFormed` —
  no recording breaks well-formedness.
* `History.terminal_invariant`, `History.heldForGood_invariant` — nor moves a known end, nor lets
  go of what is held for good.

Since `hold` never replaces a term, "recorded" below always means recorded for
good, except for the one entry that a moving cursor may leave behind
(`History.get?_moveCursor`).
-/

namespace Retrace

universe u

variable {τ : Type u}

namespace History

/-! ### Looking up -/

theorem nearest_recorded (h : History τ) (i : Nat) :
    h.timeline.get? (h.nearest i).index = some (h.nearest i).state :=
  Timeline.get?_eq_some_iff.2 (h.timeline.nearest_mem i)

theorem nearest_add_gap (h : History τ) (i : Nat) :
    (h.nearest i).index + (h.nearest i).gap = i := by
  have hle : (h.nearest i).index ≤ i := h.timeline.nearest_le i
  show (h.nearest i).index + (i - (h.nearest i).index) = i
  omega

/-- A term that is recorded is the nearest one to its index. -/
theorem nearest_of_recorded {h : History τ} {i : Nat} {x : τ}
    (recorded : h.timeline.get? i = some x) : h.nearest i = ⟨i, x, 0⟩ := by
  have listed := Timeline.get?_eq_some_iff.1 recorded
  have there : (h.nearest i).index = i :=
    Nat.le_antisymm (h.timeline.nearest_le i) (Timeline.le_nearest listed (Nat.le_refl i))
  have found := h.nearest_recorded i
  have gap := h.nearest_add_gap i
  generalize h.nearest i = ancestor at there found gap ⊢
  obtain ⟨index, state, left⟩ := ancestor
  obtain rfl : index = i := there
  obtain rfl : x = state := Option.some.inj (recorded.symm.trans found)
  obtain rfl : left = 0 := Nat.add_eq_left.1 gap
  rfl

theorem clamp_le (h : History τ) (i : Nat) : h.clamp i ≤ i := by
  unfold clamp
  split
  · exact Nat.min_le_left _ _
  · exact Nat.le_refl _

theorem clamp_le_terminal {h : History τ} {t : Nat} (ht : h.terminal = some t) (i : Nat) :
    h.clamp i ≤ t := by
  unfold clamp
  rw [ht]
  exact Nat.min_le_right _ _

theorem le_clamp_iff {h : History τ} {i j : Nat} :
    j ≤ h.clamp i ↔ j ≤ i ∧ ∀ t, h.terminal = some t → j ≤ t := by
  unfold clamp
  split
  · next t ht =>
    rw [Nat.le_min]
    simp [ht]
  · next ht => simp [ht]

/-- An index within a known end of execution is taken as it is. -/
theorem clamp_of_within {h : History τ} {i : Nat} (within : ∀ t, h.terminal = some t → i ≤ t) :
    h.clamp i = i :=
  Nat.le_antisymm (h.clamp_le i) (le_clamp_iff.2 ⟨Nat.le_refl i, within⟩)

/-- So is the lookup there. -/
theorem get?_of_within {h : History τ} {i : Nat} (within : ∀ t, h.terminal = some t → i ≤ t) :
    h.get? i = (h.timeline.get? i).map fun x => (i, x) := by
  rw [get?, clamp_of_within within]

/-- An index is clamped for one reason only. -/
theorem clamp_eq_or (h : History τ) (i : Nat) :
    h.clamp i = i ∨ ∃ t, h.terminal = some t ∧ h.clamp i = t ∧ t < i := by
  unfold clamp
  split
  · next t ht =>
    rcases Nat.lt_or_ge t i with hlt | hge
    · exact .inr ⟨t, ht, Nat.min_eq_right (Nat.le_of_lt hlt), hlt⟩
    · exact .inl (Nat.min_eq_left hge)
  · exact .inl rfl

/-! ### The two changes -/

/-- **Hold a term at an index,** unless a term is recorded there already. -/
def hold (h : History τ) (i : Nat) (x : τ) : History τ :=
  { h with timeline := h.timeline.insert i x }

@[simp] theorem hold_terminal (h : History τ) (i : Nat) (x : τ) :
    (h.hold i x).terminal = h.terminal := rfl

@[simp] theorem hold_pinned (h : History τ) (i : Nat) (x : τ) :
    (h.hold i x).pinned = h.pinned := rfl

@[simp] theorem hold_retention (h : History τ) (i : Nat) (x : τ) :
    (h.hold i x).retention = h.retention := rfl

/-- To hold a term where one is recorded changes nothing. -/
theorem hold_of_isSome {h : History τ} {i : Nat} {x : τ} (recorded : (h.timeline.get? i).isSome) :
    h.hold i x = h := by
  rw [hold, Timeline.insert_of_isSome recorded]

theorem get?_hold (h : History τ) (i j : Nat) (x : τ) :
    (h.hold i x).timeline.get? j =
      if j = i then (h.timeline.get? i).or (some x) else h.timeline.get? j :=
  h.timeline.get?_insert i j x

/-- Holding a term keeps every term recorded before. -/
theorem get?_hold_of_some {h : History τ} {i j : Nat} {x y : τ}
    (recorded : h.timeline.get? j = some y) : (h.hold i x).timeline.get? j = some y := by
  rw [get?_hold]
  split
  · next hj => rw [← hj, recorded, Option.some_or]
  · exact recorded

/-- Holding a term brings in that term and no other. -/
theorem get?_hold_eq_some {h : History τ} {i j : Nat} {x y : τ}
    (recorded : (h.hold i x).timeline.get? j = some y) :
    h.timeline.get? j = some y ∨ j = i ∧ y = x := by
  rw [get?_hold] at recorded
  split at recorded
  · next hj =>
    rcases Option.or_eq_some_iff.1 recorded with old | ⟨-, new⟩
    · exact .inl (hj ▸ old)
    · exact .inr ⟨hj, (Option.some.inj new).symm⟩
  · exact .inl recorded

/-- The index that was told is recorded afterwards, and no other is that was not. -/
theorem isSome_get?_hold_iff {h : History τ} {i j : Nat} {x : τ} :
    ((h.hold i x).timeline.get? j).isSome ↔ (h.timeline.get? j).isSome ∨ j = i := by
  rw [get?_hold]
  split
  · next hj => simp [hj]
  · next hj => simp [hj]

theorem isSome_get?_hold (h : History τ) (i : Nat) (x : τ) :
    ((h.hold i x).timeline.get? i).isSome :=
  isSome_get?_hold_iff.2 (.inr rfl)

@[simp] theorem moveCursor_terminal (h : History τ) (i : Nat) :
    (h.moveCursor i).terminal = h.terminal := by
  unfold moveCursor
  dsimp only
  split <;> rfl

@[simp] theorem moveCursor_pinned (h : History τ) (i : Nat) :
    (h.moveCursor i).pinned = i := by
  unfold moveCursor
  dsimp only
  split <;> rfl

@[simp] theorem moveCursor_retention (h : History τ) (i : Nat) :
    (h.moveCursor i).retention = h.retention := by
  unfold moveCursor
  dsimp only
  split <;> rfl

/-- A cursor that stays where it is leaves nothing behind. -/
theorem moveCursor_self (h : History τ) : h.moveCursor h.pinned = h := by
  unfold moveCursor
  exact if_pos (by simp [keeps])

/-- **A moving cursor leaves at most its own entry behind,** and that only if neither the
policy nor the end of execution keeps it. -/
theorem get?_moveCursor (h : History τ) (i j : Nat) :
    (h.moveCursor i).timeline.get? j =
      if j = h.pinned ∧ ¬(h.retention.retains j ∨ h.terminal = some j ∨ i = j) then none
      else h.timeline.get? j := by
  have hkeeps : ({ h with pinned := i } : History τ).keeps h.pinned = true ↔
      (h.retention.retains h.pinned ∨ h.terminal = some h.pinned ∨ i = h.pinned) := by
    simp only [keeps, Bool.or_eq_true, beq_iff_eq, or_assoc]
  unfold moveCursor
  dsimp only
  split
  · next kept =>
    rw [if_neg]
    rintro ⟨rfl, left⟩
    exact left (hkeeps.1 kept)
  · next left =>
    have hzero : h.pinned ≠ 0 := by
      intro hz
      exact left (hkeeps.2 (.inl (by rw [hz]; exact Retention.retains_zero _)))
    rw [Timeline.get?_erase]
    by_cases hj : j = h.pinned
    · rw [if_pos ⟨hj, hzero⟩, if_pos ⟨hj, fun kept => left (hkeeps.2 (hj ▸ kept))⟩]
    · rw [if_neg fun both => hj both.1, if_neg fun both => hj both.1]

theorem get?_moveCursor_eq_some {h : History τ} {i j : Nat} {y : τ}
    (recorded : (h.moveCursor i).timeline.get? j = some y) : h.timeline.get? j = some y := by
  rw [get?_moveCursor] at recorded
  split at recorded
  · cases recorded
  · exact recorded

/-- Where the cursor moves to, and the end of execution, stay recorded. -/
theorem get?_moveCursor_of_kept {h : History τ} {i j : Nat}
    (kept : h.terminal = some j ∨ i = j) :
    (h.moveCursor i).timeline.get? j = h.timeline.get? j := by
  rw [get?_moveCursor, if_neg]
  rintro ⟨-, left⟩
  exact left (.inr kept)

/-! ### Well-formed histories -/

/-- **A well-formed history** records the terms at the cursor and at the end of
execution, and nothing past the end. -/
structure WellFormed (h : History τ) : Prop where
  /-- The term at the cursor is recorded. -/
  pinned : (h.timeline.get? h.pinned).isSome
  /-- So is the term at the end of execution. -/
  terminal : ∀ t, h.terminal = some t → (h.timeline.get? t).isSome
  /-- Nothing is recorded past the end of execution. -/
  bounded : ∀ t, h.terminal = some t → ∀ i x, h.timeline.get? i = some x → i ≤ t

theorem new_wellFormed (initial : τ) (retention : Retention) :
    (new initial retention).WellFormed where
  pinned := rfl
  terminal _ ht := nomatch ht
  bounded _ ht := nomatch ht

/-- Holding a term within the end of execution keeps a history well-formed. -/
theorem WellFormed.hold {h : History τ} (wf : h.WellFormed) {i : Nat} {x : τ}
    (within : ∀ t, h.terminal = some t → i ≤ t) : (h.hold i x).WellFormed where
  pinned := by
    obtain ⟨y, hy⟩ := Option.isSome_iff_exists.1 wf.pinned
    exact Option.isSome_iff_exists.2 ⟨y, get?_hold_of_some hy⟩
  terminal t ht := by
    obtain ⟨y, hy⟩ := Option.isSome_iff_exists.1 (wf.terminal t ht)
    exact Option.isSome_iff_exists.2 ⟨y, get?_hold_of_some hy⟩
  bounded t ht j y recorded := by
    rcases get?_hold_eq_some recorded with old | ⟨rfl, -⟩
    · exact wf.bounded t ht j y old
    · exact within t ht

/-! ### What is accepted -/

theorem endConflict?_eq_none_iff {h : History τ} {i : Nat} :
    h.endConflict? i = none ↔
      (∀ t, h.terminal = some t → t = i) ∧
        ∀ j y, h.timeline.get? j = some y → j ≤ i := by
  have hpast : h.timeline.firstAfter? i = none ↔
      ∀ j y, h.timeline.get? j = some y → j ≤ i := Timeline.firstAfter?_eq_none_iff_get?
  unfold endConflict?
  split
  · next t ht =>
    rw [ht]
    split
    · next hti =>
      subst hti
      simp only [hpast, Option.some.injEq, forall_eq', true_and]
    · next hti =>
      constructor
      · intro hnone
        cases hnone
      · rintro ⟨same, -⟩
        exact absurd (same t rfl) hti
  · next ht =>
    rw [ht, hpast]
    exact ⟨fun all => ⟨fun _ absent => (nomatch absent), all⟩, And.right⟩

variable [BEq τ]

theorem checkTerm_eq_ok_iff {h : History τ} {i : Nat} {x : τ} :
    h.checkTerm i x = .ok () ↔ ∀ y, h.timeline.get? i = some y → (y == x) = true := by
  unfold checkTerm
  cases h.timeline.get? i with
  | none => simp
  | some y => simp

theorem checkTerm_eq_error_iff {h : History τ} {i : Nat} {x : τ} {cause : Contradiction} :
    h.checkTerm i x = .error cause ↔
      cause = .differentTerm i ∧ ∃ y, h.timeline.get? i = some y ∧ (y == x) = false := by
  unfold checkTerm
  cases h.timeline.get? i with
  | none => simp
  | some y =>
    simp only [Option.some.injEq, exists_eq_left']
    split
    · next equal => simp [equal]
    · next differs => simp [differs, eq_comm]

/-- **What passes the comparison:** a term not past the end of execution, and equal to
the one recorded at its index, if one is. -/
theorem check_eq_ok_iff {h : History τ} {i : Nat} {x : τ} :
    h.check i x = .ok () ↔
      (∀ t, h.terminal = some t → i ≤ t) ∧
        ∀ y, h.timeline.get? i = some y → (y == x) = true := by
  rw [← checkTerm_eq_ok_iff, check]
  cases h.terminal with
  | none => simp
  | some t =>
    rcases Nat.lt_or_ge t i with hlt | hge
    · simp [hlt, Nat.not_le_of_lt hlt]
    · simp [hge, Nat.not_lt_of_le hge]

/-- **What does not pass,** and which contradiction it is. -/
theorem check_eq_error_iff {h : History τ} {i : Nat} {x : τ} {cause : Contradiction} :
    h.check i x = .error cause ↔
      (∃ t, h.terminal = some t ∧ t < i ∧ cause = .differentEnd t i) ∨
        (∀ t, h.terminal = some t → i ≤ t) ∧ cause = .differentTerm i ∧
          ∃ y, h.timeline.get? i = some y ∧ (y == x) = false := by
  rw [← checkTerm_eq_error_iff, check]
  cases h.terminal with
  | none => simp
  | some t =>
    rcases Nat.lt_or_ge t i with hlt | hge
    · simp [hlt, Nat.not_le_of_lt hlt, eq_comm]
    · simp [hge, Nat.not_lt_of_le hge]

/-- Recording is a comparison and then `hold`. -/
theorem record_eq (h : History τ) (i : Nat) (x : τ) :
    h.record i x = (h.check i x).map fun _ => ((h.timeline.get? i).isNone, h.hold i x) := by
  unfold record hold
  congr
  funext _
  split
  · next recorded =>
    obtain ⟨y, hy⟩ := Option.isSome_iff_exists.1 recorded
    rw [Timeline.insert_of_isSome recorded, hy]
    rfl
  · next absent => simpa using absent

theorem put_eq_ok_iff {h h' : History τ} {i : Nat} {x : τ} {fresh : Bool} :
    h.put i x = .ok (fresh, h') ↔
      h.check i x = .ok () ∧
        (fresh, h') =
          if h.retention.retains i then ((h.timeline.get? i).isNone, h.hold i x)
          else (false, h) := by
  unfold put
  rw [record_eq]
  cases h.check i x with
  | error cause => split <;> simp [Except.map]
  | ok _ => split <;> simp [Except.map, eq_comm]

theorem pin_eq_ok_iff {h h' : History τ} {i : Nat} {x : τ} :
    h.pin i x = .ok h' ↔ h.check i x = .ok () ∧ h' = (h.hold i x).moveCursor i := by
  unfold pin
  rw [record_eq]
  cases h.check i x with
  | error cause => simp [Except.map]
  | ok _ => simp [Except.map, eq_comm]

theorem markTerminal_eq_ok_iff {h h' : History τ} {i : Nat} {x : τ} :
    h.markTerminal i x = .ok h' ↔
      h.endConflict? i = none ∧ h.check i x = .ok () ∧
        h' = { h.hold i x with terminal := some i } := by
  unfold markTerminal
  rw [record_eq]
  cases h.endConflict? i with
  | some recorded => simp
  | none =>
    cases h.check i x with
    | error cause => simp [Except.map]
    | ok _ => simp [Except.map, eq_comm]

/-! ### What is refused -/

theorem put_eq_error_iff {h : History τ} {i : Nat} {x : τ} {cause : Contradiction} :
    h.put i x = .error cause ↔ h.check i x = .error cause := by
  unfold put
  rw [record_eq]
  cases h.check i x with
  | error other => split <;> simp [Except.map]
  | ok _ => split <;> simp [Except.map]

theorem pin_eq_error_iff {h : History τ} {i : Nat} {x : τ} {cause : Contradiction} :
    h.pin i x = .error cause ↔ h.check i x = .error cause := by
  unfold pin
  rw [record_eq]
  cases h.check i x <;> simp [Except.map]

/-- **An end of execution is refused** for an end or an entry elsewhere, or else for the
term. -/
theorem markTerminal_eq_error_iff {h : History τ} {i : Nat} {x : τ} {cause : Contradiction} :
    h.markTerminal i x = .error cause ↔
      (∃ recorded, h.endConflict? i = some recorded ∧ cause = .differentEnd recorded i) ∨
        h.endConflict? i = none ∧ h.check i x = .error cause := by
  unfold markTerminal
  rw [record_eq]
  cases h.endConflict? i with
  | some recorded => simp [eq_comm]
  | none => cases h.check i x <;> simp [Except.map]

/-- **To pin what is pinned changes nothing.** -/
theorem pin_self [ReflBEq τ] {h : History τ} (wf : h.WellFormed) {x : τ}
    (recorded : h.timeline.get? h.pinned = some x) : h.pin h.pinned x = .ok h := by
  have checked : h.check h.pinned x = .ok () := by
    refine check_eq_ok_iff.2 ⟨fun t known => wf.bounded t known _ x recorded, ?_⟩
    intro y found
    obtain rfl : x = y := Option.some.inj (recorded.symm.trans found)
    exact BEq.rfl
  refine pin_eq_ok_iff.2 ⟨checked, ?_⟩
  rw [hold_of_isSome wf.pinned, moveCursor_self]

/-! ### Recording keeps a history well-formed -/

theorem put_wellFormed {h h' : History τ} (wf : h.WellFormed) {i : Nat} {x : τ} {fresh : Bool}
    (accepted : h.put i x = .ok (fresh, h')) : h'.WellFormed := by
  obtain ⟨checked, after⟩ := put_eq_ok_iff.1 accepted
  split at after
  · rw [(Prod.mk.inj after).2]
    exact wf.hold (check_eq_ok_iff.1 checked).1
  · rw [(Prod.mk.inj after).2]
    exact wf

theorem pin_wellFormed {h h' : History τ} (wf : h.WellFormed) {i : Nat} {x : τ}
    (accepted : h.pin i x = .ok h') : h'.WellFormed := by
  obtain ⟨checked, rfl⟩ := pin_eq_ok_iff.1 accepted
  have held : (h.hold i x).WellFormed := wf.hold (check_eq_ok_iff.1 checked).1
  constructor
  · rw [moveCursor_pinned, get?_moveCursor_of_kept (.inr rfl)]
    exact isSome_get?_hold h i x
  · intro t ht
    rw [moveCursor_terminal] at ht
    rw [get?_moveCursor_of_kept (.inl ht)]
    exact held.terminal t ht
  · intro t ht j y recorded
    rw [moveCursor_terminal] at ht
    exact held.bounded t ht j y (get?_moveCursor_eq_some recorded)

theorem markTerminal_wellFormed {h h' : History τ} (wf : h.WellFormed) {i : Nat} {x : τ}
    (accepted : h.markTerminal i x = .ok h') : h'.WellFormed := by
  obtain ⟨last, checked, rfl⟩ := markTerminal_eq_ok_iff.1 accepted
  have held : (h.hold i x).WellFormed := wf.hold (check_eq_ok_iff.1 checked).1
  refine ⟨held.pinned, ?_, ?_⟩
  · intro t ht
    obtain rfl : i = t := Option.some.inj ht
    exact isSome_get?_hold h i x
  · intro t ht j y recorded
    obtain rfl : i = t := Option.some.inj ht
    rcases get?_hold_eq_some recorded with old | ⟨rfl, -⟩
    · exact (endConflict?_eq_none_iff.1 last).2 j y old
    · exact Nat.le_refl j

/-! ### What every recording preserves -/

/-- **A property of histories that no recording spoils,** of whichever of the three kinds. -/
structure Invariant (I : History τ → Prop) : Prop where
  put : ∀ {h h' : History τ} {i : Nat} {x : τ} {fresh : Bool}, I h →
    h.put i x = .ok (fresh, h') → I h'
  pin : ∀ {h h' : History τ} {i : Nat} {x : τ}, I h → h.pin i x = .ok h' → I h'
  markTerminal : ∀ {h h' : History τ} {i : Nat} {x : τ}, I h →
    h.markTerminal i x = .ok h' → I h'

theorem wellFormed_invariant : Invariant (WellFormed (τ := τ)) where
  put wf accepted := put_wellFormed wf accepted
  pin wf accepted := pin_wellFormed wf accepted
  markTerminal wf accepted := markTerminal_wellFormed wf accepted

/-- **A known end of execution stays where it is.** -/
theorem terminal_invariant (t : Nat) : Invariant fun h : History τ => h.terminal = some t where
  put := by
    intro h h' i x fresh known accepted
    obtain ⟨-, after⟩ := put_eq_ok_iff.1 accepted
    split at after
    · rw [(Prod.mk.inj after).2]
      exact known
    · rw [(Prod.mk.inj after).2]
      exact known
  pin := by
    intro h h' i x known accepted
    obtain ⟨-, rfl⟩ := pin_eq_ok_iff.1 accepted
    rw [moveCursor_terminal]
    exact known
  markTerminal := by
    intro h h' i x known accepted
    obtain ⟨unrivalled, -, rfl⟩ := markTerminal_eq_ok_iff.1 accepted
    rw [(endConflict?_eq_none_iff.1 unrivalled).1 t known]

/-- **A term is held for good** if the policy retains its index, or execution is known to end
there. -/
structure HeldForGood (h : History τ) (i : Nat) (x : τ) : Prop where
  recorded : h.timeline.get? i = some x
  kept : h.retention.retains i = true ∨ h.terminal = some i

/-- **No recording lets go of what is held for good,** or replaces it. -/
theorem heldForGood_invariant (i : Nat) (x : τ) :
    Invariant fun h : History τ => h.HeldForGood i x where
  put := by
    intro h h' j y fresh held accepted
    obtain ⟨-, after⟩ := put_eq_ok_iff.1 accepted
    split at after
    · rw [(Prod.mk.inj after).2]
      exact ⟨get?_hold_of_some held.recorded, held.kept⟩
    · rw [(Prod.mk.inj after).2]
      exact held
  pin := by
    intro h h' j y held accepted
    obtain ⟨-, rfl⟩ := pin_eq_ok_iff.1 accepted
    constructor
    · rw [get?_moveCursor, if_neg]
      · exact get?_hold_of_some held.recorded
      · rintro ⟨-, left⟩
        exact left (held.kept.imp_right .inl)
    · rw [moveCursor_retention, moveCursor_terminal]
      exact held.kept
  markTerminal := by
    intro h h' j y held accepted
    have stays : h.terminal = some i → h'.terminal = some i := fun known =>
      (terminal_invariant i).markTerminal known accepted
    obtain ⟨-, -, rfl⟩ := markTerminal_eq_ok_iff.1 accepted
    exact ⟨get?_hold_of_some held.recorded, held.kept.imp_right stays⟩

end History

end Retrace
