import Retrace.History.Change
import Retrace.Proofs.Detection
import Retrace.Proofs.Recordings

/-!
# What a history refuses

A history refuses exactly what contradicts it, and a refusal leaves nothing behind. What can
contradict a recording is the term at its index and the end of execution: a known end before the
index, or, for a recording that itself marks an end, another known end or any entry further on. The
policy does not come into it, so an index that would not be kept is compared all the same. Where an
end is involved the refusal names it, and else the index.

## Main definitions

* `History.Compatible` — a term equals the one recorded at an index, if one is.
* `History.EndAgainst` — the end of execution, or the entry, that speaks against a recording.

## Main statements

* `History.accepts_put_iff`, `History.accepts_pin_iff`, `History.accepts_markTerminal_iff` — what
  is accepted.
* `History.cause_of_refused` — which contradiction a refusal reports.
* `Recording.run_change` — a recording made in place comes to what `History.tell` says, so that what
  is written before a refusal is nothing.
* `History.refuses_exactly_contradictions` — all of this for every history that recordings lead to.

A term equals another by a Boolean equality that need not be reflexive, so it can be incompatible
with itself.
-/

namespace Retrace

universe u

variable {τ : Type u}

/-! ### Changes in place -/

namespace History

/-- The two tests of an end of execution come to one. -/
theorem run_demandNoOtherEnd (h : History τ) (i : Nat) :
    (demandNoOtherEnd i).run h = match h.endConflict? i with
      | some recorded => (.error (.differentEnd recorded i), h)
      | none => (.ok (), h) := by
  simp only [demandNoOtherEnd, Change.run_bind, Change.run_demand, checkKnownEnd, checkPast,
    endConflict?]
  cases h.terminal with
  | none =>
    dsimp only
    cases h.timeline.firstAfter? i <;> rfl
  | some t =>
    by_cases here : t = i
    · simp only [if_pos here]
      cases h.timeline.firstAfter? i <;> rfl
    · simp only [if_neg here]

theorem run_moveCursorInPlace (h : History τ) (i : Nat) :
    (moveCursorInPlace i).run h = (.ok (), h.moveCursor i) := by
  simp only [moveCursorInPlace, moveCursor, Change.run_bind, Change.run_read, Change.run_write]
  by_cases kept : ({ h with pinned := i } : History τ).keeps h.pinned = true
  · rw [if_pos kept, kept, Bool.not_true, Bool.and_false]
    rfl
  · -- the cursor holds the index that it is moved to
    have moved : (h.pinned != i) = true := by
      refine bne_iff_ne.2 fun same => kept ?_
      rw [keeps, same, beq_self_eq_true, Bool.or_true]
    rw [if_neg kept, Bool.eq_false_of_not_eq_true kept, moved]
    rfl

variable [BEq τ]

/-- **To record in place is to compare and then to hold,** and what does not pass the comparison is
not held. -/
theorem run_insertInPlace (h : History τ) (i : Nat) (x : τ) :
    (insertInPlace i x).run h = match h.check i x with
      | .ok () => (.ok (h.timeline.get? i).isNone, h.hold i x)
      | .error cause => (.error cause, h) := by
  rw [insertInPlace, Change.run_bind, Change.run_demand]
  cases h.check i x with
  | error cause => rfl
  | ok _ =>
    simp only [Change.run_bind, Change.run_read]
    cases recorded : h.timeline.get? i with
    | some y =>
      rw [hold_of_isSome (by rw [recorded]; rfl)]
      rfl
    | none => rfl

theorem run_putInPlace (h : History τ) (i : Nat) (x : τ) :
    (putInPlace i x).run h = h.tell (.put i x) := by
  rw [putInPlace, Change.run_bind, Change.run_read]
  dsimp only
  split
  · next retained =>
    simp only [run_insertInPlace, tell, accept?, put, record_eq, if_pos retained]
    cases h.check i x <;> rfl
  · next released =>
    simp only [Change.run_bind, Change.run_demand, tell, accept?, put, if_neg released]
    cases h.check i x <;> rfl

end History

/-- **A recording made in place comes to the same** as one that yields a history only if it is
accepted: none of its writes comes before a test that may still fail. -/
theorem Recording.run_change [BEq τ] (r : Recording τ) (h : History τ) :
    r.change.run h = h.tell r := by
  cases r with
  | put i x => exact h.run_putInPlace i x
  | pin i x =>
    simp only [change, History.pinInPlace, Change.run_bind, History.run_insertInPlace,
      History.run_moveCursorInPlace, History.tell, History.accept?, History.pin, History.record_eq]
    cases h.check i x <;> rfl
  | markTerminal i x =>
    simp only [change, History.markTerminalInPlace, Change.run_bind, History.run_demandNoOtherEnd,
      History.tell, History.accept?, History.markTerminal, History.record_eq]
    cases h.endConflict? i with
    | some recorded => rfl
    | none =>
      dsimp only
      rw [History.run_insertInPlace]
      cases h.check i x <;> rfl

namespace History

/-! ### What is accepted -/

/-- **A term is compatible** with a history if it equals the one recorded at its index, if one
is. -/
def Compatible [BEq τ] (h : History τ) (i : Nat) (x : τ) : Prop :=
  ∀ y, h.timeline.get? i = some y → (y == x) = true

section

variable [BEq τ] {h : History τ} {i : Nat} {x : τ} {r : Recording τ}

theorem accepts_put_iff_check : h.Accepts (.put i x) ↔ h.check i x = .ok () := by
  constructor
  · exact Accepts.checked
  · intro checked
    exact ⟨_, accept?_put_iff.2 ⟨checked, rfl⟩⟩

/-- **A** `put` **is accepted** if it is compatible and not past a known end. -/
theorem accepts_put_iff :
    h.Accepts (.put i x) ↔ h.Compatible i x ∧ ∀ t, h.terminal = some t → i ≤ t := by
  rw [accepts_put_iff_check, check_eq_ok_iff, and_comm]
  rfl

/-- **So is a** `pin`. -/
theorem accepts_pin_iff :
    h.Accepts (.pin i x) ↔ h.Compatible i x ∧ ∀ t, h.terminal = some t → i ≤ t := by
  rw [← accepts_put_iff, accepts_put_iff_check]
  constructor
  · exact Accepts.checked
  · intro checked
    exact ⟨_, accept?_pin_iff.2 ⟨rfl, checked, rfl⟩⟩

/-- **An end of execution is accepted** if it is compatible, no other end is known and nothing is
recorded further on. -/
theorem accepts_markTerminal_iff :
    h.Accepts (.markTerminal i x) ↔
      h.Compatible i x ∧ (∀ t, h.terminal = some t → t = i) ∧
        ∀ entry ∈ h.entries, entry.1 ≤ i := by
  have last : (∀ j y, h.timeline.get? j = some y → j ≤ i) ↔ ∀ entry ∈ h.entries, entry.1 ≤ i :=
    Timeline.firstAfter?_eq_none_iff_get?.symm.trans Timeline.firstAfter?_eq_none_iff
  constructor
  · rintro ⟨⟨fresh, h'⟩, accepted⟩
    obtain ⟨-, unrivalled, checked, -⟩ := accept?_markTerminal_iff.1 accepted
    obtain ⟨same, bounded⟩ := endConflict?_eq_none_iff.1 unrivalled
    exact ⟨(check_eq_ok_iff.1 checked).2, same, last.1 bounded⟩
  · rintro ⟨compatible, same, bounded⟩
    have within : ∀ t, h.terminal = some t → i ≤ t :=
      fun t known => Nat.le_of_eq (same t known).symm
    exact ⟨_, accept?_markTerminal_iff.2 ⟨rfl, endConflict?_eq_none_iff.2 ⟨same, last.2 bounded⟩,
      check_eq_ok_iff.2 ⟨within, compatible⟩, rfl⟩⟩

end

/-! ### What is refused -/

/-- **What speaks against a recording as far as the end of execution goes:** a known end before its
index, or if it marks an end itself, what that is held against. -/
def EndAgainst (h : History τ) : Recording τ → Nat → Prop
  | .put i _, recorded | .pin i _, recorded => h.terminal = some recorded ∧ recorded < i
  | .markTerminal i _, recorded => h.Rival i recorded ∧ recorded ≠ i

section

variable {h : History τ} {i recorded recorded' : Nat} {r : Recording τ}

/-- An end of execution is held against one thing only. -/
theorem Rival.unique (rival : h.Rival i recorded) (rival' : h.Rival i recorded') :
    recorded = recorded' := by
  unfold Rival at rival rival'
  cases known : h.terminal with
  | some t =>
    rw [known] at rival rival'
    exact rival.trans rival'.symm
  | none =>
    rw [known] at rival rival'
    exact IsLeast.unique rival rival'

theorem EndAgainst.unique (against : h.EndAgainst r recorded)
    (against' : h.EndAgainst r recorded') : recorded = recorded' := by
  cases r with
  | put | pin => exact Option.some.inj (against.1.symm.trans against'.1)
  | markTerminal => exact against.1.unique against'.1

/-- What contradicts an end of execution is elsewhere. -/
theorem endConflict?_ne (conflict : h.endConflict? i = some recorded) : recorded ≠ i := by
  have past : h.timeline.firstAfter? i = some recorded → recorded ≠ i := fun first =>
    Nat.ne_of_gt (Timeline.firstAfter?_eq_some_iff.1 first).1
  unfold endConflict? at conflict
  split at conflict
  · split at conflict
    · exact past conflict
    · next other => exact Option.some.inj conflict ▸ other
  · exact past conflict

/-- Nothing speaks against an end of execution that is contradicted by nothing. -/
theorem not_endAgainst_of_endConflict? {x : τ} (unrivalled : h.endConflict? i = none) :
    ¬ h.EndAgainst (.markTerminal i x) recorded := by
  rintro ⟨rival, other⟩
  obtain ⟨same, bounded⟩ := endConflict?_eq_none_iff.1 unrivalled
  unfold Rival at rival
  split at rival
  · next t known => exact other (rival.trans (same t known))
  · obtain ⟨past, found⟩ := rival.1
    obtain ⟨y, hy⟩ := Option.isSome_iff_exists.1 found
    exact absurd (bounded recorded y hy) (Nat.not_le_of_lt past)

variable [BEq τ]

omit [BEq τ] in
/-- What is accepted is told in other words, what is refused in the same. -/
theorem map_eq_error_iff {α β : Type u} {f : α → β} {accepted : Except Contradiction α}
    {cause : Contradiction} : accepted.map f = .error cause ↔ accepted = .error cause := by
  cases accepted <;> simp [Except.map]

/-- **Which contradiction a refusal reports:** the end that speaks against the recording, and if
there is none a different term at its index. -/
theorem cause_of_refused (wf : h.WellFormed) {cause : Contradiction}
    (refused : h.accept? r = .error cause) :
    (∃ recorded, h.EndAgainst r recorded ∧ cause = .differentEnd recorded r.index) ∨
      (∀ recorded, ¬ h.EndAgainst r recorded) ∧ cause = .differentTerm r.index := by
  have compared : ∀ {i x}, h.check i x = .error cause →
      (∃ t, (h.terminal = some t ∧ t < i) ∧ cause = .differentEnd t i) ∨
        (∀ t, ¬ (h.terminal = some t ∧ t < i)) ∧ cause = .differentTerm i := by
    intro i x refused
    rcases check_eq_error_iff.1 refused with ⟨t, known, past, rfl⟩ | ⟨within, rfl, -⟩
    · exact .inl ⟨t, ⟨known, past⟩, rfl⟩
    · exact .inr ⟨fun t ⟨known, past⟩ => absurd past (Nat.not_lt_of_le (within t known)), rfl⟩
  cases r with
  | put i x => exact compared (put_eq_error_iff.1 refused)
  | pin i x => exact compared (pin_eq_error_iff.1 (map_eq_error_iff.1 refused))
  | markTerminal i x =>
    rcases markTerminal_eq_error_iff.1 (map_eq_error_iff.1 refused) with
      ⟨recorded, conflict, rfl⟩ | ⟨none, refused⟩
    · exact .inl ⟨recorded, ⟨rival_of_endConflict? wf conflict, endConflict?_ne conflict⟩, rfl⟩
    · refine .inr ⟨fun recorded => not_endAgainst_of_endConflict? none, ?_⟩
      rcases compared refused with ⟨t, ⟨known, past⟩, -⟩ | ⟨-, differs⟩
      · -- a known end would be the one that is marked
        have same := (endConflict?_eq_none_iff.1 none).1 t known
        omega
      · exact differs

theorem tell_eq_ok_iff {fresh : Bool} :
    (h.tell r).1 = .ok fresh ↔ ∃ h', h.accept? r = .ok (fresh, h') := by
  unfold tell
  cases h.accept? r with
  | ok accepted => simp [Prod.ext_iff]
  | error cause => simp

theorem tell_eq_error_iff {cause : Contradiction} :
    (h.tell r).1 = .error cause ↔ h.accept? r = .error cause := by
  unfold tell
  cases h.accept? r <;> simp

end

/-- **A history refuses exactly the contradictions, and a refusal changes nothing.** For every
equality of terms, every policy and every list of recordings told before, in place or not: a `put`
and a `pin` are accepted if the term is compatible and its index is not past a known end, whether or
not the policy keeps it, and a comparison fails exactly as a `put` does; an end of execution is
accepted if its term is compatible, no other end is known, and nothing is recorded further on. What
is refused leaves the history as it was, also if it is written in place; it is refused for the end
that speaks against it, and if none does for the term at its index. -/
theorem refuses_exactly_contradictions [BEq τ] (initial : τ) (retention : Retention)
    (rs : List (Recording τ)) :
    let h := rs.foldl (fun h r => (r.change.run h).2) (new initial retention)
    h = ofRecordings initial retention rs ∧
    (∀ i x, h.Accepts (.put i x) ↔ h.Compatible i x ∧ ∀ t, h.terminal = some t → i ≤ t) ∧
    (∀ i x, h.Accepts (.pin i x) ↔ h.Compatible i x ∧ ∀ t, h.terminal = some t → i ≤ t) ∧
    (∀ i x, (h.check i x = .ok () ↔ h.Accepts (.put i x)) ∧
      ∀ cause, h.check i x = .error cause ↔ (h.tell (.put i x)).1 = .error cause) ∧
    (∀ i x, h.Accepts (.markTerminal i x) ↔
      h.Compatible i x ∧ (∀ t, h.terminal = some t → t = i) ∧ ∀ entry ∈ h.entries, entry.1 ≤ i) ∧
    ∀ r, r.change.run h = h.tell r ∧
      (h.Accepts r ↔ ∃ fresh, (r.change.run h).1 = .ok fresh) ∧
      ∀ cause, (r.change.run h).1 = .error cause →
        (r.change.run h).2 = h ∧
        (∀ recorded, h.EndAgainst r recorded → cause = .differentEnd recorded r.index) ∧
        ((∀ recorded, ¬ h.EndAgainst r recorded) → cause = .differentTerm r.index) := by
  intro h
  have same : h = ofRecordings initial retention rs := by
    show rs.foldl (fun h r => (r.change.run h).2) _ = rs.foldl (fun h r => (h.tell r).2) _
    simp only [Recording.run_change]
  have wf : h.WellFormed := by
    have before : (ofRecordings initial retention []).WellFormed :=
      new_wellFormed initial retention
    rw [same]
    exact wellFormed_invariant.ofRecordings before rs
  refine ⟨same, fun i x => accepts_put_iff, fun i x => accepts_pin_iff,
    fun i x => ⟨accepts_put_iff_check.symm, fun cause => ?_⟩,
    fun i x => accepts_markTerminal_iff, ?_⟩
  · rw [tell_eq_error_iff]
    exact put_eq_error_iff.symm
  intro r
  rw [r.run_change]
  refine ⟨rfl, ?_, ?_⟩
  · simp only [tell_eq_ok_iff]
    exact Prod.exists
  · intro cause told
    have refused := tell_eq_error_iff.1 told
    rw [tell_of_error refused]
    refine ⟨rfl, ?_, ?_⟩
    · intro recorded against
      rcases cause_of_refused wf refused with ⟨recorded', against', rfl⟩ | ⟨unopposed, -⟩
      · rw [against.unique against']
      · exact absurd against (unopposed recorded)
    · intro unopposed
      rcases cause_of_refused wf refused with ⟨recorded, against, -⟩ | ⟨-, differs⟩
      · exact absurd against (unopposed recorded)
      · exact differs

/-- With checkpoints at the even indices and an end at index five, index one may be visited and
index seven not recorded, though neither would be kept; what speaks against an end at index three is
the known one, and against another term there the term. Where no end is known, what speaks against
an end at index one is the first entry further on. -/
theorem refuses_exactly_contradictions_of_checkpoints :
    let changes := fun h (rs : List (Recording Nat)) =>
      rs.foldl (fun h r => (r.change.run h).2) h
    let h := changes (new 0 (.checkpoints 2)) [.pin 3 30, .markTerminal 5 50]
    let endless := changes (new 0 (.checkpoints 2)) [.put 4 40, .put 2 20]
    h.entries = [(0, 0), (3, 30), (5, 50)] ∧ h.Accepts (.pin 1 10) ∧ ¬ h.Accepts (.put 7 70) ∧
      (Recording.put 7 70).change.run h = (.error (.differentEnd 5 7), h) ∧
      (Recording.markTerminal 3 30).change.run h = (.error (.differentEnd 5 3), h) ∧
      (Recording.pin 3 31).change.run h = (.error (.differentTerm 3), h) ∧
      (Recording.markTerminal 1 10).change.run endless =
        (.error (.differentEnd 2 1), endless) := by
  intro changes h endless
  obtain ⟨-, puts, pins, -, -, refusals⟩ :=
    refuses_exactly_contradictions 0 (.checkpoints 2) [.pin 3 30, .markTerminal 5 50]
  obtain ⟨-, -, -, -, -, refusals'⟩ :=
    refuses_exactly_contradictions 0 (.checkpoints 2) [.put 4 40, .put 2 20]
  have visited : h.Accepts (.pin 1 10) := by
    refine (pins 1 10).2 ⟨nofun, ?_⟩
    intro t known
    obtain rfl : 5 = t := Option.some.inj known
    decide
  have refused : ¬ h.Accepts (.put 7 70) := by
    intro accepts
    exact absurd (((puts 7 70).1 accepts).2 5 rfl) (by decide)
  exact ⟨rfl, visited, refused, Prod.ext rfl ((refusals _).2.2 _ rfl).1,
    Prod.ext rfl ((refusals _).2.2 _ rfl).1, Prod.ext rfl ((refusals _).2.2 _ rfl).1,
    Prod.ext rfl ((refusals' _).2.2 _ rfl).1⟩

end History

end Retrace
