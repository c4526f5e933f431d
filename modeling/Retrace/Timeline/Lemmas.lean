import Retrace.Timeline

/-!
# Looking up in timelines

What the operations on a timeline do to its two views: the term at an index
(`get?`) and the ascending list of entries (`toList`). The two views agree
(`get?_eq_some_iff`), so a timeline may be taken for a finite partial function or
for a sorted list, whichever suits.

## Main statements

* `get?_eq_some_iff` — an entry is listed exactly if it is found.
* `pairwise_toList` — the entries are listed in strictly ascending order.
* `get?_insert`, `get?_erase` — the partial function after a change.
* `insert_of_isSome` — inserting where a term is held changes nothing.
* `nearest_mem`, `nearest_le`, `le_nearest` — the nearest entry is the last one
  listed at or before an index.
* `firstAfter?_eq_none_iff`, `firstAfter?_eq_some_iff` — the first entry listed past
  an index.
-/

namespace Retrace

namespace Timeline

universe u

variable {τ : Type u}

/-! ### The two views -/

theorem find?_eq_some_iff {entries : List (Nat × τ)} {i : Nat} {x : τ}
    (h : entries.Pairwise (fun a b => b.1 < a.1)) :
    find? i entries = some x ↔ (i, x) ∈ entries := by
  induction entries with
  | nil => simp [find?]
  | cons head rest ih =>
    obtain ⟨j, y⟩ := head
    obtain ⟨hj, hrest⟩ := List.pairwise_cons.1 h
    rw [find?, List.mem_cons]
    split
    · next hji =>
      subst hji
      constructor
      · intro hy
        rw [Option.some.injEq] at hy
        exact .inl (by rw [hy])
      · rintro (heq | hmem)
        · rw [(Prod.mk.inj heq).2]
        · exact absurd (hj _ hmem) (Nat.lt_irrefl _)
    · next hji =>
      have hne : (i, x) ≠ (j, y) := fun heq => hji (Prod.mk.inj heq).1.symm
      split
      · next hlt =>
        constructor
        · intro hnone
          cases hnone
        · rintro (heq | hmem)
          · exact absurd heq hne
          · exact absurd (hj _ hmem) (Nat.lt_asymm hlt)
      · rw [ih hrest]
        exact ⟨.inr, fun hmem => hmem.resolve_left hne⟩

/-- **An entry is listed exactly if it is found.** -/
theorem get?_eq_some_iff {t : Timeline τ} {i : Nat} {x : τ} :
    t.get? i = some x ↔ (i, x) ∈ t.toList := by
  rw [toList, List.mem_cons, List.mem_reverse, get?]
  split
  · next hi =>
    subst hi
    constructor
    · intro hx
      rw [Option.some.injEq] at hx
      exact .inl (by rw [hx])
    · rintro (heq | hmem)
      · rw [(Prod.mk.inj heq).2]
      · exact absurd (t.positive _ hmem) (Nat.lt_irrefl 0)
  · next hi =>
    rw [find?_eq_some_iff t.descending]
    exact ⟨.inr, fun hmem => hmem.resolve_left fun heq => hi (Prod.mk.inj heq).1⟩

/-- An index is listed exactly if a term is found there. -/
theorem isSome_get?_iff {t : Timeline τ} {i : Nat} :
    (t.get? i).isSome ↔ i ∈ t.toList.map Prod.fst := by
  rw [Option.isSome_iff_exists, List.mem_map]
  constructor
  · rintro ⟨x, found⟩
    exact ⟨(i, x), get?_eq_some_iff.1 found, rfl⟩
  · rintro ⟨⟨j, x⟩, listed, rfl⟩
    exact ⟨x, get?_eq_some_iff.2 listed⟩

/-- **The entries are listed in strictly ascending order.** -/
theorem pairwise_toList (t : Timeline τ) : t.toList.Pairwise (fun a b => a.1 < b.1) := by
  refine List.pairwise_cons.2 ⟨?_, List.pairwise_reverse.2 t.descending⟩
  intro entry hmem
  exact t.positive entry (List.mem_reverse.1 hmem)

theorem pairwise_indices (t : Timeline τ) : (t.toList.map Prod.fst).Pairwise (· < ·) :=
  List.pairwise_map.2 t.pairwise_toList

/-! ### Changing -/

theorem get?_ofOrigin (x : τ) (i : Nat) :
    (ofOrigin x).get? i = if i = 0 then some x else none := rfl

theorem find?_place (i j : Nat) (x : τ) (entries : List (Nat × τ)) :
    find? j (place i x entries) =
      if j = i then (find? i entries).or (some x) else find? j entries := by
  induction entries with
  | nil => simp only [place, find?]; grind
  | cons head rest ih =>
    obtain ⟨k, y⟩ := head
    simp only [place, find?]
    grind [find?]

/-- **Inserting** defines the term at an index that had none, and nothing else. -/
theorem get?_insert (t : Timeline τ) (i j : Nat) (x : τ) :
    (t.insert i x).get? j = if j = i then (t.get? i).or (some x) else t.get? j := by
  by_cases hi : i = 0
  · subst hi
    rw [insert_zero]
    split
    · next hj => rw [hj, get?_zero, Option.some_or]
    · rfl
  · rw [insert, dif_neg hi, get?, get?, get?, if_neg hi]
    rw [find?_place]
    by_cases hj : j = 0
    · rw [if_pos hj, if_pos hj, if_neg (hj ▸ Ne.symm hi)]
    · rw [if_neg hj, if_neg hj]

theorem place_of_isSome {entries : List (Nat × τ)} {i : Nat} {x : τ}
    (h : (find? i entries).isSome) : place i x entries = entries := by
  induction entries with
  | nil => cases h
  | cons head rest ih =>
    obtain ⟨j, y⟩ := head
    rw [find?] at h
    rw [place]
    split at h
    · next hj => rw [if_neg (by omega), if_pos hj]
    · next hj =>
      split at h
      · cases h
      · next hlt => rw [if_neg hlt, if_neg hj, ih h]

/-- **A term once held is not replaced.** -/
theorem insert_of_isSome {t : Timeline τ} {i : Nat} {x : τ} (h : (t.get? i).isSome) :
    t.insert i x = t := by
  by_cases hi : i = 0
  · subst hi
    exact insert_zero t x
  · rw [get?, if_neg hi] at h
    obtain ⟨origin, later, descending, positive⟩ := t
    simp only [insert, dif_neg hi, mk.injEq, true_and]
    exact place_of_isSome h

theorem mem_toList_erase {t : Timeline τ} {i : Nat} {entry : Nat × τ} :
    entry ∈ (t.erase i).toList ↔ entry ∈ t.toList ∧ (entry.1 = i → i = 0) := by
  rw [toList, toList, List.mem_cons, List.mem_cons, List.mem_reverse, List.mem_reverse]
  rw [origin_erase, erase, List.mem_filter, bne_iff_ne]
  constructor
  · rintro (rfl | ⟨hmem, hne⟩)
    · exact ⟨.inl rfl, fun hi => hi.symm⟩
    · exact ⟨.inr hmem, fun hi => absurd hi hne⟩
  · rintro ⟨rfl | hmem, hkept⟩
    · exact .inl rfl
    · refine .inr ⟨hmem, fun hi => ?_⟩
      exact absurd (hi.trans (hkept hi)) (Nat.ne_of_gt (t.positive entry hmem))

/-- **Erasing** undefines the term at an index past `0`, and nothing else. -/
theorem get?_erase (t : Timeline τ) (i j : Nat) :
    (t.erase i).get? j = if j = i ∧ i ≠ 0 then none else t.get? j := by
  apply Option.ext
  intro x
  rw [get?_eq_some_iff, mem_toList_erase]
  split
  · next h => exact ⟨fun ⟨_, hkept⟩ => absurd (hkept h.1) h.2, fun hnone => by cases hnone⟩
  · next h =>
    rw [get?_eq_some_iff]
    refine ⟨And.left, fun hmem => ⟨hmem, fun hji => ?_⟩⟩
    exact Decidable.byContradiction fun hi => h ⟨hji, hi⟩

/-! ### The nearest entry -/

theorem nearest_mem (t : Timeline τ) (i : Nat) : t.nearest i ∈ t.toList := by
  rw [toList, List.mem_cons, List.mem_reverse, nearest]
  cases hfind : t.later.find? (fun entry => entry.1 ≤ i) with
  | none => exact .inl rfl
  | some entry => exact .inr (List.mem_of_find?_eq_some hfind)

theorem nearest_le (t : Timeline τ) (i : Nat) : (t.nearest i).1 ≤ i := by
  rw [nearest]
  cases hfind : t.later.find? (fun entry => entry.1 ≤ i) with
  | none => exact Nat.zero_le i
  | some entry => simpa using List.find?_some hfind

/-- **No entry lies between the nearest one and the index.** -/
theorem le_nearest {t : Timeline τ} {i : Nat} {entry : Nat × τ} (hmem : entry ∈ t.toList)
    (hle : entry.1 ≤ i) : entry.1 ≤ (t.nearest i).1 := by
  rw [toList, List.mem_cons, List.mem_reverse] at hmem
  rcases hmem with rfl | hmem
  · exact Nat.zero_le _
  · rw [nearest]
    cases hfind : t.later.find? (fun entry => entry.1 ≤ i) with
    | none => exact absurd hle (by simpa using List.find?_eq_none.1 hfind entry hmem)
    | some found =>
      obtain ⟨-, newer, older, hlater, hnewer⟩ := List.find?_eq_some_iff_append.1 hfind
      rw [hlater, List.mem_append, List.mem_cons] at hmem
      have hdescending := (List.pairwise_append.1 (hlater ▸ t.descending)).2.1
      rcases hmem with hmem | rfl | hmem
      · exact absurd hle (by simpa using hnewer entry hmem)
      · exact Nat.le_refl _
      · exact Nat.le_of_lt ((List.pairwise_cons.1 hdescending).1 entry hmem)

/-! ### The first entry past an index -/

theorem mem_takeWhile_iff {entries : List (Nat × τ)} {i : Nat} {entry : Nat × τ}
    (h : entries.Pairwise (fun a b => b.1 < a.1)) :
    entry ∈ entries.takeWhile (fun entry => i < entry.1) ↔ entry ∈ entries ∧ i < entry.1 := by
  induction entries with
  | nil => simp
  | cons head rest ih =>
    obtain ⟨hhead, hrest⟩ := List.pairwise_cons.1 h
    by_cases hi : i < head.1
    · rw [List.takeWhile_cons_of_pos (by simpa using hi), List.mem_cons, List.mem_cons, ih hrest]
      constructor
      · rintro (rfl | ⟨hmem, hlt⟩)
        · exact ⟨.inl rfl, hi⟩
        · exact ⟨.inr hmem, hlt⟩
      · rintro ⟨rfl | hmem, hlt⟩
        · exact .inl rfl
        · exact .inr ⟨hmem, hlt⟩
    · rw [List.takeWhile_cons_of_neg (by simpa using hi)]
      refine ⟨fun hmem => absurd hmem List.not_mem_nil, ?_⟩
      rintro ⟨hmem, hlt⟩
      rcases List.mem_cons.1 hmem with rfl | hmem
      · exact absurd hlt hi
      · exact absurd (Nat.lt_trans hlt (hhead entry hmem)) hi

/-- The last of entries listed newest first is the oldest. -/
theorem getLast?_le {entries : List (Nat × τ)} {last entry : Nat × τ}
    (h : entries.Pairwise (fun a b => b.1 < a.1)) (hlast : entries.getLast? = some last)
    (hmem : entry ∈ entries) : last.1 ≤ entry.1 := by
  obtain ⟨newer, rfl⟩ := List.getLast?_eq_some_iff.1 hlast
  rw [List.mem_append, List.mem_singleton] at hmem
  rcases hmem with hmem | rfl
  · have hlt := (List.pairwise_append.1 h).2.2 entry hmem last (List.mem_singleton.2 rfl)
    exact Nat.le_of_lt hlt
  · exact Nat.le_refl _

theorem mem_toList_of_lt {t : Timeline τ} {i : Nat} {entry : Nat × τ} (hlt : i < entry.1) :
    entry ∈ t.toList ↔ entry ∈ t.later := by
  rw [toList, List.mem_cons, List.mem_reverse]
  refine ⟨fun hmem => hmem.resolve_left ?_, .inr⟩
  rintro rfl
  exact Nat.not_lt_zero i hlt

/-- The entries past an index are those at the front of the newest. -/
theorem mem_front_iff {t : Timeline τ} {i : Nat} {entry : Nat × τ} :
    entry ∈ t.later.takeWhile (fun entry => i < entry.1) ↔ entry ∈ t.toList ∧ i < entry.1 := by
  rw [mem_takeWhile_iff t.descending]
  refine and_congr_left fun hlt => ?_
  rw [mem_toList_of_lt hlt]

/-- **There is no entry past an index** exactly if all are at or before it. -/
theorem firstAfter?_eq_none_iff {t : Timeline τ} {i : Nat} :
    t.firstAfter? i = none ↔ ∀ entry ∈ t.toList, entry.1 ≤ i := by
  rw [firstAfter?, Option.map_eq_none_iff, List.getLast?_eq_none_iff]
  rw [List.eq_nil_iff_forall_not_mem]
  constructor
  · intro h entry hmem
    exact Nat.le_of_not_lt fun hlt => h entry (mem_front_iff.2 ⟨hmem, hlt⟩)
  · intro h entry hmem
    rw [mem_front_iff] at hmem
    exact Nat.not_lt_of_le (h entry hmem.1) hmem.2

theorem firstAfter?_eq_none_iff_get? {t : Timeline τ} {i : Nat} :
    t.firstAfter? i = none ↔ ∀ j x, t.get? j = some x → j ≤ i := by
  rw [firstAfter?_eq_none_iff]
  exact ⟨fun all j x found => all (j, x) (get?_eq_some_iff.1 found),
    fun all entry hmem => all entry.1 entry.2 (get?_eq_some_iff.2 hmem)⟩

/-- **The first entry past an index** is past it, and no entry lies between. -/
theorem firstAfter?_eq_some_iff {t : Timeline τ} {i j : Nat} :
    t.firstAfter? i = some j ↔
      i < j ∧ (t.get? j).isSome ∧ ∀ entry ∈ t.toList, i < entry.1 → j ≤ entry.1 := by
  have hfront : (t.later.takeWhile fun entry => i < entry.1).Pairwise (fun a b => b.1 < a.1) :=
    t.descending.sublist (List.takeWhile_sublist _)
  rw [firstAfter?, Option.map_eq_some_iff]
  constructor
  · rintro ⟨⟨k, x⟩, hlast, rfl⟩
    obtain ⟨hmem, hlt⟩ := mem_front_iff.1 (List.mem_of_getLast? hlast)
    refine ⟨hlt, ?_, fun entry hentry hi => ?_⟩
    · rw [get?_eq_some_iff.2 hmem]
      rfl
    · exact getLast?_le hfront hlast (mem_front_iff.2 ⟨hentry, hi⟩)
  · rintro ⟨hlt, hsome, hleast⟩
    obtain ⟨x, hx⟩ := Option.isSome_iff_exists.1 hsome
    have hmem := mem_front_iff.2 ⟨get?_eq_some_iff.1 hx, hlt⟩
    cases hlast : (t.later.takeWhile fun entry => i < entry.1).getLast? with
    | none =>
      rw [List.getLast?_eq_none_iff.1 hlast] at hmem
      cases hmem
    | some last =>
      have hpast := mem_front_iff.1 (List.mem_of_getLast? hlast)
      refine ⟨last, rfl, Nat.le_antisymm ?_ ?_⟩
      · exact getLast?_le hfront hlast hmem
      · exact hleast last hpast.1 hpast.2

end Timeline

end Retrace
