import Mathlib.Data.List.Sort
import Mathlib.Order.Bounds.Basic
import Retrace.Proofs.Recordings

/-!
# Looking up in an archive

An archive lays a history out as it is laid out in memory. The initial entry stands apart, all
others are values of an ordered map, and every entry carries an index of its own beside the key that
it is stored under. Nothing in the type keeps the two equal, keeps index `0` out of the map, or
keeps the initial entry at index `0`. Each lookup asks for index `0` in its own way, only the exact
one stops at a known end of execution, and a moving cursor takes entries out of the map between two
lookups.

That the lookups agree is a property of the archives that recordings lead to, and it is proved in
two parts. Whatever is recorded, the archive *represents* the history that was told the same
(`Represents.tell`), so that every lookup in it comes to the lookup in the history; and the lookups
in a history agree with one another.

## Main definitions

* `Entry` — a recorded term with its own index.
* `Archive` — the initial entry and the map of the others.
* `Archive.get?`, `Archive.nearest`, `Archive.entries`, `Archive.size` — looking up.
* `Archive.tell`, `Archive.ofRecordings` — recording.
* `Archive.Represents` — an archive lays out a history.

## Main statements

* `Archive.Represents.toList_shelf` — what the map holds, in the order of its keys.
* `Archive.ofRecordings_represents` — recordings lead to an archive of the history they lead to.
* `History.isGreatest_nearest`, `History.get?_eq_some_iff_nearest` — the nearest entry is the
  greatest recorded one, and the exact lookup finds it if it leaves no gap.
* `History.lookups_agree` — all lookups, in the history and in its archive.
-/

namespace Retrace

universe u

/-- **A recorded term** and the step index that it was reached at. -/
structure Entry (τ : Type u) where
  index : Nat
  state : τ
  deriving DecidableEq, Repr

/-- **A history laid out as an ordered map.** -/
structure Archive (τ : Type u) where
  /-- The entry of the initial term, which is not in the map. -/
  origin : Entry τ
  /-- All other entries. -/
  shelf : Std.TreeMap Nat (Entry τ) := ∅
  /-- Which indices are held on their own account. -/
  retention : Retention
  /-- Where execution was seen to end, once that is known. -/
  terminal : Option Nat := none
  /-- Where the cursor stands. -/
  pinned : Nat := 0

namespace Archive

variable {τ : Type u}

/-- The archive that holds only the initial term. -/
def new (initial : τ) (retention : Retention) : Archive τ where
  origin := ⟨0, initial⟩
  retention := retention

/-! ### Looking up -/

/-- An index, but no further than the end of execution if that is known. -/
def clamp (a : Archive τ) (i : Nat) : Nat :=
  match a.terminal with
  | some t => min i t
  | none => i

/-- The entry at an index. The initial one is not looked for in the map. -/
def find? (a : Archive τ) (i : Nat) : Option (Entry τ) :=
  if i = 0 then some a.origin else a.shelf[i]?

/-- **Exact lookup,** no further than a known end of execution. -/
def get? (a : Archive τ) (i : Nat) : Option (Entry τ) := a.find? (a.clamp i)

/-- What the map holds from one key to another, both included, in the order of the keys. -/
def between (a : Archive τ) (first last : Nat) : List (Nat × Entry τ) :=
  a.shelf.toList.filter fun kept => first ≤ kept.1 && kept.1 ≤ last

/-- What the map holds past a key, in the order of the keys. -/
def past (a : Archive τ) (i : Nat) : List (Nat × Entry τ) :=
  a.shelf.toList.filter fun kept => i < kept.1

/-- **The closest entry at or before an index,** and how far it is from there by its own index. -/
def nearest (a : Archive τ) (i : Nat) : Ancestor τ :=
  let found :=
    if i = 0 then a.origin else ((a.between 1 i).getLast?.map Prod.snd).getD a.origin
  { index := found.index, state := found.state, gap := i - found.index }

/-- **The recorded entries,** the initial one first and then those of the map in its order. -/
def entries (a : Archive τ) : List (Entry τ) := a.origin :: a.shelf.toList.map Prod.snd

/-- The number of recorded entries. -/
def size (a : Archive τ) : Nat := a.shelf.size + 1

/-- Whether something holds an index. -/
def keeps (a : Archive τ) (i : Nat) : Bool :=
  a.retention.retains i || a.terminal == some i || a.pinned == i

/-! ### Recording -/

/-- Put a term on the shelf under its index, unless it is the initial index or already there. -/
def hold (a : Archive τ) (i : Nat) (x : τ) : Archive τ :=
  if i == 0 || a.shelf.contains i then a else { a with shelf := a.shelf.insert i ⟨i, x⟩ }

/-- Move the cursor, and take the entry that it leaves off the shelf unless something holds it. -/
def moveCursor (a : Archive τ) (i : Nat) : Archive τ :=
  let moved := { a with pinned := i }
  if a.pinned != i && !moved.keeps a.pinned then
    { moved with shelf := moved.shelf.erase a.pinned }
  else moved

variable [BEq τ]

/-- Compare a term with the one at the same index, if one is recorded there. -/
def checkTerm (a : Archive τ) (i : Nat) (x : τ) : Except Contradiction Unit :=
  match a.find? i with
  | some entry => if entry.state == x then .ok () else .error (.differentTerm i)
  | none => .ok ()

/-- **Compare a term with the record.** -/
def check (a : Archive τ) (i : Nat) (x : τ) : Except Contradiction Unit :=
  match a.terminal with
  | some t => if t < i then .error (.differentEnd t i) else a.checkTerm i x
  | none => a.checkTerm i x

/-- Record a term whatever the policy says; the Boolean tells whether the entry is new. -/
def insert (a : Archive τ) (i : Nat) (x : τ) : Except Contradiction (Bool × Archive τ) :=
  (a.check i x).map fun _ => (!(i == 0 || a.shelf.contains i), a.hold i x)

/-- **Record a term if the policy keeps its index.** -/
def put (a : Archive τ) (i : Nat) (x : τ) : Except Contradiction (Bool × Archive τ) :=
  if a.retention.retains i then a.insert i x
  else (a.check i x).map fun _ => (false, a)

/-- **Record a term and move the cursor to it.** -/
def pin (a : Archive τ) (i : Nat) (x : τ) : Except Contradiction (Archive τ) :=
  (a.insert i x).map fun recorded => recorded.2.moveCursor i

/-- What contradicts an end of execution: a different known end, or else the first key past it. -/
def endConflict? (a : Archive τ) (i : Nat) : Option Nat :=
  match a.terminal with
  | some t => if t = i then (a.past i).head?.map Prod.fst else some t
  | none => (a.past i).head?.map Prod.fst

/-- **Record a term as the end of execution.** -/
def markTerminal (a : Archive τ) (i : Nat) (x : τ) : Except Contradiction (Archive τ) :=
  match a.endConflict? i with
  | some recorded => .error (.differentEnd recorded i)
  | none => (a.insert i x).map fun recorded => { recorded.2 with terminal := some i }

/-- The archive that accepts a recording. -/
def accept? (a : Archive τ) : Recording τ → Except Contradiction (Bool × Archive τ)
  | .put i x => a.put i x
  | .pin i x => (a.pin i x).map (false, ·)
  | .markTerminal i x => (a.markTerminal i x).map (false, ·)

/-- **Tell an archive something.** It answers with a contradiction and stays as it is, or it
accepts. -/
def tell (a : Archive τ) (r : Recording τ) : Except Contradiction Bool × Archive τ :=
  match a.accept? r with
  | .ok (fresh, a') => (.ok fresh, a')
  | .error cause => (.error cause, a)

/-- **The archive after a list of recordings.** -/
def ofRecordings (initial : τ) (retention : Retention) (rs : List (Recording τ)) : Archive τ :=
  rs.foldl (fun a r => (a.tell r).2) (.new initial retention)

/-! ### Archives of histories -/

section

omit [BEq τ]

/-- **An archive lays out a history:** it holds the same entries, each under its own index, and the
initial one apart from the map. -/
structure Represents (a : Archive τ) (h : History τ) : Prop where
  origin : a.origin = ⟨0, h.origin⟩
  shelf : ∀ i, a.shelf[i]? = if i = 0 then none else (h.timeline.get? i).map (Entry.mk i)
  retention : a.retention = h.retention
  terminal : a.terminal = h.terminal
  pinned : a.pinned = h.pinned

theorem new_represents (initial : τ) (retention : Retention) :
    (new initial retention).Represents (.new initial retention) where
  origin := rfl
  shelf i := by
    show (∅ : Std.TreeMap Nat (Entry τ))[i]? =
      if i = 0 then none else ((Timeline.ofOrigin initial).get? i).map (Entry.mk i)
    rw [Std.TreeMap.getElem?_emptyc, Timeline.get?_ofOrigin]
    split
    · rfl
    · rfl
  retention := rfl
  terminal := rfl
  pinned := rfl

variable {a a' : Archive τ} {h : History τ} {i : Nat} {x : τ}

namespace Represents

theorem find?_eq (rep : a.Represents h) (i : Nat) :
    a.find? i = (h.timeline.get? i).map (Entry.mk i) := by
  rw [find?, rep.shelf]
  split
  · next first =>
    rw [first, rep.origin]
    rfl
  · rfl

theorem contains_eq (rep : a.Represents h) (i : Nat) :
    (i == 0 || a.shelf.contains i) = (h.timeline.get? i).isSome := by
  rw [Std.TreeMap.contains_eq_isSome_getElem?, rep.shelf]
  by_cases first : i = 0
  · rw [first]
    rfl
  · simp [first]

/-- **The map holds the later entries of the history,** in their order, and each under its own
index. -/
theorem toList_shelf (rep : a.Represents h) :
    a.shelf.toList = h.timeline.later.reverse.map fun entry => (entry.1, ⟨entry.1, entry.2⟩) := by
  -- both lists ascend, so it is enough that they have the same members
  have ascending : a.shelf.toList.Pairwise fun one next => one.1 < next.1 :=
    Std.TreeMap.ordered_keys_toList.imp fun less => Nat.compare_eq_lt.1 less
  have ascending' : (h.timeline.later.reverse.map fun entry =>
      (entry.1, (⟨entry.1, entry.2⟩ : Entry τ))).Pairwise fun one next => one.1 < next.1 :=
    List.pairwise_map.2 (List.pairwise_reverse.2 h.timeline.descending)
  have irreflexive : Std.Irrefl fun one next : Nat × Entry τ => one.1 < next.1 :=
    ⟨fun one => Nat.lt_irrefl one.1⟩
  refine ascending.eq_of_mem_iff ascending' ?_
  rintro ⟨key, entry⟩
  rw [Std.TreeMap.mem_toList_iff_getElem?_eq_some, rep.shelf, List.mem_map]
  constructor
  · intro found
    split at found
    · cases found
    · next later =>
      obtain ⟨x, recorded, rfl⟩ := Option.map_eq_some_iff.1 found
      have listed := Timeline.get?_eq_some_iff.1 recorded
      rw [Timeline.mem_toList_of_lt (Nat.pos_of_ne_zero later)] at listed
      exact ⟨(key, x), List.mem_reverse.2 listed, rfl⟩
  · rintro ⟨⟨j, x⟩, listed, same⟩
    obtain ⟨rfl, rfl⟩ := Prod.mk.inj same
    have positive := h.timeline.positive _ (List.mem_reverse.1 listed)
    rw [if_neg (Nat.ne_of_gt positive)]
    have found := (Timeline.mem_toList_of_lt positive).2 (List.mem_reverse.1 listed)
    rw [Timeline.get?_eq_some_iff.2 found]
    rfl

/-! ### Lookups -/

theorem clamp_eq (rep : a.Represents h) (i : Nat) : a.clamp i = h.clamp i := by
  unfold clamp History.clamp
  rewrite [rep.terminal]
  rfl

theorem get?_eq (rep : a.Represents h) (i : Nat) :
    a.get? i = (h.get? i).map fun entry => ⟨entry.1, entry.2⟩ := by
  rw [get?, rep.clamp_eq, rep.find?_eq, History.get?, Option.map_map]
  rfl

theorem entries_eq (rep : a.Represents h) :
    a.entries = h.entries.map fun entry => ⟨entry.1, entry.2⟩ := by
  rw [entries, rep.toList_shelf, rep.origin, List.map_map]
  rfl

theorem size_eq (rep : a.Represents h) : a.size = h.size := by
  rw [size, ← Std.TreeMap.length_toList, rep.toList_shelf, List.length_map, List.length_reverse]
  rfl

/-- The last entry of the map up to an index is the first of them newest first. -/
theorem getLast?_between (rep : a.Represents h) (i : Nat) :
    (a.between 1 i).getLast? = (h.timeline.later.find? fun entry => entry.1 ≤ i).map
      fun entry => (entry.1, ⟨entry.1, entry.2⟩) := by
  have within : h.timeline.later.filter (fun entry => decide (1 ≤ entry.1) && decide (entry.1 ≤ i))
      = h.timeline.later.filter fun entry => entry.1 ≤ i := by
    refine List.filter_congr fun entry listed => ?_
    have positive : 1 ≤ entry.1 := h.timeline.positive entry listed
    rw [decide_eq_true positive, Bool.true_and]
  rw [between, rep.toList_shelf, List.filter_map, List.getLast?_map, List.filter_reverse,
    List.getLast?_reverse, ← List.head?_filter, ← within]
  rfl

theorem nearest_eq (rep : a.Represents h) (i : Nat) : a.nearest i = h.nearest i := by
  have found : (if i = 0 then a.origin
      else ((a.between 1 i).getLast?.map Prod.snd).getD a.origin) =
      ⟨(h.timeline.nearest i).1, (h.timeline.nearest i).2⟩ := by
    rw [rep.getLast?_between, rep.origin, Timeline.nearest]
    cases closest : h.timeline.later.find? fun entry => entry.1 ≤ i with
    | none => exact ite_self _
    | some entry =>
      -- an entry of the map at or before index `0` there is none
      have positive := h.timeline.positive entry (List.mem_of_find?_eq_some closest)
      have within : entry.1 ≤ i := by simpa using List.find?_some closest
      rw [if_neg (by omega)]
      rfl
  rw [nearest, found]
  rfl

/-- The first entry of the map past an index is the last of them newest first. -/
theorem head?_past (rep : a.Represents h) (i : Nat) :
    (a.past i).head?.map Prod.fst = h.timeline.firstAfter? i := by
  have front : h.timeline.later.filter (fun entry => i < entry.1) =
      h.timeline.later.takeWhile fun entry => i < entry.1 := by
    have irreflexive : Std.Irrefl fun one next : Nat × τ => next.1 < one.1 :=
      ⟨fun one => Nat.lt_irrefl one.1⟩
    refine (h.timeline.descending.filter _).eq_of_mem_iff
      (h.timeline.descending.sublist (List.takeWhile_sublist _)) fun entry => ?_
    rw [Timeline.mem_takeWhile_iff h.timeline.descending, List.mem_filter, decide_eq_true_iff]
  rw [past, rep.toList_shelf, List.filter_map, List.filter_reverse, List.head?_map,
    List.head?_reverse, Option.map_map, Timeline.firstAfter?, ← front]
  rfl

theorem endConflict?_eq (rep : a.Represents h) (i : Nat) :
    a.endConflict? i = h.endConflict? i := by
  unfold endConflict? History.endConflict?
  rewrite [rep.head?_past, rep.terminal]
  rfl

/-! ### Recordings -/

theorem hold (rep : a.Represents h) (i : Nat) (x : τ) : (a.hold i x).Represents (h.hold i x) := by
  unfold Archive.hold
  rw [rep.contains_eq]
  split
  · next recorded =>
    rw [History.hold_of_isSome recorded]
    exact rep
  · next absent =>
    rw [Option.not_isSome_iff_eq_none] at absent
    have later : i ≠ 0 := by
      rintro rfl
      cases absent
    refine { rep with origin := ?_, shelf := fun j => ?_ }
    · rw [rep.origin, History.origin, History.origin, History.hold, Timeline.origin_insert]
    · rw [Std.TreeMap.getElem?_insert, rep.shelf, History.get?_hold, absent, Option.none_or]
      by_cases there : j = i
      · rw [if_pos there, if_pos (Nat.compare_eq_eq.2 there.symm), if_neg (there ▸ later), there]
        rfl
      · rw [if_neg there, if_neg fun same => there (Nat.compare_eq_eq.1 same).symm]

theorem keeps_eq (rep : a.Represents h) (i : Nat) : a.keeps i = h.keeps i := by
  rw [keeps, History.keeps, rep.retention, rep.terminal, rep.pinned]

theorem moveCursor (rep : a.Represents h) (i : Nat) :
    (a.moveCursor i).Represents (h.moveCursor i) := by
  have moved : ({ a with pinned := i } : Archive τ).Represents { h with pinned := i } :=
    { rep with pinned := rfl }
  unfold Archive.moveCursor History.moveCursor
  dsimp only
  rw [moved.keeps_eq, rep.pinned]
  by_cases kept : ({ h with pinned := i } : History τ).keeps h.pinned = true
  · rw [kept, Bool.not_true, Bool.and_false]
    exact moved
  · -- the cursor holds the index that it is moved to
    have left : (h.pinned != i) = true := by
      refine bne_iff_ne.2 fun same => kept ?_
      rw [History.keeps, same, beq_self_eq_true, Bool.or_true]
    rw [Bool.eq_false_of_not_eq_true kept, left]
    refine { moved with shelf := fun j => ?_ }
    show (a.shelf.erase h.pinned)[j]? = if j = 0 then none
      else ((h.timeline.erase h.pinned).get? j).map (Entry.mk j)
    rw [Std.TreeMap.getElem?_erase, rep.shelf, Timeline.get?_erase]
    by_cases first : j = 0
    · rw [if_pos first, if_pos first, ite_self]
    rw [if_neg first, if_neg first]
    by_cases there : j = h.pinned
    · rw [if_pos (Nat.compare_eq_eq.2 there.symm), if_pos ⟨there, there ▸ first⟩]
      rfl
    · rw [if_neg fun same => there (Nat.compare_eq_eq.1 same).symm, if_neg fun both => there both.1]

section

variable [BEq τ]

theorem check_eq (rep : a.Represents h) (i : Nat) (x : τ) : a.check i x = h.check i x := by
  have compared : a.checkTerm i x = h.checkTerm i x := by
    rw [checkTerm, History.checkTerm, rep.find?_eq]
    cases h.timeline.get? i with
    | none => rfl
    | some y => rfl
  unfold check History.check
  rewrite [rep.terminal, compared]
  rfl

theorem insert_eq (rep : a.Represents h) (i : Nat) (x : τ) :
    a.insert i x = (h.check i x).map fun _ => ((h.timeline.get? i).isNone, a.hold i x) := by
  rw [insert, rep.check_eq, rep.contains_eq, Option.not_isSome]

/-- **An archive of a history answers as the history does,** and stays its archive. -/
theorem tell (rep : a.Represents h) (r : Recording τ) :
    (a.tell r).1 = (h.tell r).1 ∧ (a.tell r).2.Represents (h.tell r).2 := by
  cases r with
  | put i x =>
    simp only [Archive.tell, History.tell, accept?, History.accept?, put, History.put,
      History.record_eq, rep.retention, rep.insert_eq, rep.check_eq]
    cases h.retention.retains i with
    | true =>
      cases h.check i x with
      | error cause => exact ⟨rfl, rep⟩
      | ok _ => exact ⟨rfl, rep.hold i x⟩
    | false =>
      cases h.check i x with
      | error cause => exact ⟨rfl, rep⟩
      | ok _ => exact ⟨rfl, rep⟩
  | pin i x =>
    simp only [Archive.tell, History.tell, accept?, History.accept?, pin, History.pin,
      History.record_eq, rep.insert_eq]
    cases h.check i x with
    | error cause => exact ⟨rfl, rep⟩
    | ok _ => exact ⟨rfl, (rep.hold i x).moveCursor i⟩
  | markTerminal i x =>
    simp only [Archive.tell, History.tell, accept?, History.accept?, markTerminal,
      History.markTerminal, History.record_eq, rep.insert_eq, rep.endConflict?_eq]
    cases h.endConflict? i with
    | some recorded => exact ⟨rfl, rep⟩
    | none =>
      cases h.check i x with
      | error cause => exact ⟨rfl, rep⟩
      | ok _ => exact ⟨rfl, { rep.hold i x with terminal := rfl }⟩

end

end Represents

end

/-- **Recordings lead to an archive of the history that they lead to.** -/
theorem ofRecordings_represents (initial : τ) (retention : Retention) (rs : List (Recording τ)) :
    (ofRecordings initial retention rs).Represents (.ofRecordings initial retention rs) := by
  induction rs using List.reverseRecOn with
  | nil => exact new_represents initial retention
  | append_singleton rs r ih =>
    rw [History.ofRecordings_snoc, ofRecordings, List.foldl_append]
    exact (ih.tell r).2

end Archive

namespace History

variable {τ : Type u} {h : History τ} {i j t : Nat} {x : τ}

/-! ### Lookups in a history -/

/-- **The nearest entry is the greatest recorded one** at or before an index. -/
theorem isGreatest_nearest (h : History τ) (i : Nat) :
    IsGreatest {j | j ∈ h.entries.map Prod.fst ∧ j ≤ i} (h.nearest i).index := by
  constructor
  · exact ⟨List.mem_map_of_mem (h.timeline.nearest_mem i), h.timeline.nearest_le i⟩
  · rintro j ⟨listed, within⟩
    obtain ⟨entry, recorded, rfl⟩ := List.mem_map.1 listed
    exact Timeline.le_nearest recorded within

/-- **An entry is found exactly if it is the nearest one and leaves no gap,** where an index past a
known end of execution stands for the end. -/
theorem get?_eq_some_iff_nearest :
    h.get? i = some (j, x) ↔ h.nearest (h.clamp i) = ⟨j, x, 0⟩ := by
  unfold get?
  constructor
  · intro found
    obtain ⟨y, recorded, same⟩ := Option.map_eq_some_iff.1 found
    obtain ⟨rfl, rfl⟩ := Prod.mk.inj same
    exact nearest_of_recorded recorded
  · intro closest
    have recorded := h.nearest_recorded (h.clamp i)
    have there := h.nearest_add_gap (h.clamp i)
    rw [closest] at recorded there
    have there : j = h.clamp i := there
    rw [← there]
    exact Option.map_eq_some_iff.2 ⟨x, recorded, rfl⟩

/-- Every index from a known end of execution on stands for the end. -/
theorem get?_of_terminal_le (known : h.terminal = some t)
    (recorded : h.timeline.get? t = some x) (past : t ≤ i) : h.get? i = some (t, x) := by
  have stands : h.clamp i = t :=
    Nat.le_antisymm (clamp_le_terminal known i) (le_clamp_iff.2 ⟨past, fun t' known' =>
      Nat.le_of_eq (Option.some.inj (known.symm.trans known'))⟩)
  rw [get?, stands, recorded]
  rfl

/-- Whatever is recorded, the initial term is the one at index `0`. -/
theorem ofRecordings_origin [BEq τ] (initial : τ) (retention : Retention)
    (rs : List (Recording τ)) : (ofRecordings initial retention rs).origin = initial := by
  have before : (ofRecordings initial retention []).HeldForGood 0 initial :=
    ⟨rfl, .inl (Retention.retains_zero retention)⟩
  exact Option.some.inj ((heldForGood_invariant 0 initial).ofRecordings before rs).recorded

/-- **The lookups in a history agree with one another, and with those in its archive.** For every
equality of terms, every policy and every list of recordings: the nearest entry at or before an
index is the greatest recorded one, with the term that is listed for it, and its index and the gap
add up to the index asked for; an exact lookup finds an entry exactly if it is the nearest one and
there is no gap, past a known end of execution just as at the end; the entries are listed from the
initial one on in strictly ascending order, as many as they are said to be; and from a known end on
every lookup finds the entry there. The archive of the same recordings has answered each of them
alike, keeps every entry under the entry's own index, and answers every lookup as the history
does. -/
theorem lookups_agree [BEq τ] (initial : τ) (retention : Retention) (rs : List (Recording τ)) :
    let h := ofRecordings initial retention rs
    let a := Archive.ofRecordings initial retention rs
    let entry := fun recorded : Nat × τ => (⟨recorded.1, recorded.2⟩ : Entry τ)
    (∀ i, IsGreatest {j | j ∈ h.entries.map Prod.fst ∧ j ≤ i} (h.nearest i).index ∧
      ((h.nearest i).index, (h.nearest i).state) ∈ h.entries ∧
      (h.nearest i).index + (h.nearest i).gap = i) ∧
    (∀ i j x, h.get? i = some (j, x) ↔ h.nearest (h.clamp i) = ⟨j, x, 0⟩) ∧
    (h.entries.head? = some (0, initial) ∧
      h.entries.Pairwise (fun one next => one.1 < next.1) ∧ h.entries.length = h.size) ∧
    (∀ t, h.terminal = some t →
      ∃ x, (t, x) ∈ h.entries ∧ ∀ i, t ≤ i → h.get? i = some (t, x)) ∧
    (∀ r, (a.tell r).1 = (h.tell r).1) ∧
    (∀ key (kept : Entry τ), a.shelf[key]? = some kept → kept.index = key) ∧
    (∀ i, a.nearest i = h.nearest i ∧ a.clamp i = h.clamp i ∧ a.get? i = (h.get? i).map entry) ∧
    a.entries = h.entries.map entry ∧ a.size = h.size := by
  intro h a entry
  have rep : a.Represents h := Archive.ofRecordings_represents initial retention rs
  have fresh : (ofRecordings initial retention []).WellFormed := new_wellFormed initial retention
  have wf : h.WellFormed := wellFormed_invariant.ofRecordings fresh rs
  refine ⟨fun i => ⟨h.isGreatest_nearest i, h.timeline.nearest_mem i, h.nearest_add_gap i⟩,
    fun i j x => get?_eq_some_iff_nearest, ⟨?_, h.timeline.pairwise_toList,
      h.timeline.length_toList⟩, ?_, fun r => (rep.tell r).1, ?_,
    fun i => ⟨rep.nearest_eq i, rep.clamp_eq i, rep.get?_eq i⟩, rep.entries_eq, rep.size_eq⟩
  · show some (0, h.origin) = some (0, initial)
    rw [show h.origin = initial from ofRecordings_origin initial retention rs]
  · intro t known
    obtain ⟨x, recorded⟩ := Option.isSome_iff_exists.1 (wf.terminal t known)
    exact ⟨x, Timeline.get?_eq_some_iff.1 recorded,
      fun i past => get?_of_terminal_le known recorded past⟩
  · intro key kept found
    rw [rep.shelf] at found
    split at found
    · cases found
    · obtain ⟨x, -, rfl⟩ := Option.map_eq_some_iff.1 found
      rfl

/-- The cursor has been at index one, which was let go, and at index three, where execution ends.
Index one is then looked up in vain, its nearest entry is the initial one, and every index past the
end finds the end. -/
theorem lookups_agree_of_checkpoints :
    let rs : List (Recording Nat) := [.pin 1 10, .put 2 20, .pin 3 30, .markTerminal 3 30, .pin 0 0]
    let h := ofRecordings 0 (.checkpoints 2) rs
    let a := Archive.ofRecordings 0 (.checkpoints 2) rs
    h.entries = [(0, 0), (2, 20), (3, 30)] ∧ h.terminal = some 3 ∧
      h.get? 1 = none ∧ h.nearest 1 = ⟨0, 0, 1⟩ ∧ (∀ i, 3 ≤ i → h.get? i = some (3, 30)) ∧
      a.entries = [⟨0, 0⟩, ⟨2, 20⟩, ⟨3, 30⟩] ∧ a.get? 9 = some ⟨3, 30⟩ := by
  intro rs h a
  obtain ⟨-, -, -, ended, -, -, lookups, listed, -⟩ := lookups_agree 0 (.checkpoints 2) rs
  have past : ∀ i, 3 ≤ i → h.get? i = some (3, 30) := by
    obtain ⟨x, recorded, found⟩ := ended 3 rfl
    obtain rfl : x = 30 := by
      have := Timeline.get?_eq_some_iff.2 recorded
      exact Option.some.inj this.symm
    exact found
  refine ⟨rfl, rfl, rfl, rfl, past, listed, ?_⟩
  rw [show a.get? 9 = (h.get? 9).map _ from (lookups 9).2.2, past 9 (by decide)]
  rfl

end History

end Retrace
