import Retrace.Proofs.Coverage

/-!
# What a revisit costs

Where replays have been before, a session comes back at a bounded cost. Everything that the policy
retains up to the furthest index is still recorded, so the nearest entry is never far: right there
without a policy, and at the last checkpoint or later with one. The distance from the nearest entry
bounds the calls, whichever engine is asked and whether or not it agrees with the record.

## Main statements

* `History.Covers.le_nearest` — the nearest entry is no further back than a retained index.
* `History.Covers.gap_of_unbounded`, `History.Covers.gap_le_mod` — how far back that is.
* `Session.revisits_are_bounded` — how many calls a navigation makes to where replays have been.

What is load-bearing is that a history covers *every* retained index up to the furthest one, also
the ones that only a failed navigation came by: one hole would double a distance.
-/

namespace Retrace

universe u v w w'

variable {σ : Type w} {σ' : Type w'} {τ : Type u} {ε : Type v}

/-! ### The nearest entry -/

namespace History.Covers

variable {retention : Retention} {furthest interval i j : Nat} {h : History τ}

/-- **The nearest entry is no further back than a retained index,** if that was reached. -/
theorem le_nearest (covers : h.Covers retention furthest) (retained : retention.retains j = true)
    (reached : j ≤ furthest) (le : j ≤ i) : j ≤ (h.nearest i).index := by
  obtain ⟨x, recorded⟩ :=
    Option.isSome_iff_exists.1 ((covers.recorded j).2 (.inl ⟨reached, retained⟩))
  exact Timeline.le_nearest (Timeline.get?_eq_some_iff.1 recorded) le

/-- Without a policy there is no gap. -/
theorem gap_of_unbounded (covers : h.Covers .unbounded furthest) (reached : i ≤ furthest) :
    (h.nearest i).gap = 0 :=
  Nat.sub_eq_zero_of_le
    (covers.le_nearest (Retention.retains_unbounded i) reached (Nat.le_refl i))

/-- **With checkpoints the gap reaches back to the last one** at most. -/
theorem gap_le_mod (positive : 0 < interval) (covers : h.Covers (.checkpoints interval) furthest)
    (reached : i ≤ furthest) : (h.nearest i).gap ≤ i % interval := by
  have last_le : i - i % interval ≤ i := Nat.sub_le i (i % interval)
  have whole : (i - i % interval) % interval = 0 := by
    rw [← Nat.dvd_iff_mod_eq_zero]
    exact Nat.dvd_sub_mod i
  have retained := (Retention.retains_checkpoints positive _).2 whole
  have near := covers.le_nearest retained (Nat.le_trans last_le reached) last_le
  have split := h.nearest_add_gap i
  omega

end History.Covers

/-! ### Sessions -/

namespace Session

variable [BEq τ]

/-- **Revisits are bounded.** For every engine, every equality of terms and every run, whatever
jumped, evicted, halted or failed on the way: a navigation whose target, limited by a known end of
execution, is no further than some replay got before makes no call at all without a policy, and with
checkpoints no more calls than there are steps from the checkpoint before the target. The engine
asked now may be another one than the run had.

How far replays got is the highest index that one of them reached by a rewrite, be it that it failed
later. A replay without a rewrite stays at an entry, which is no further. -/
theorem revisits_are_bounded (e : Engine σ τ ε) (initial : τ) (config : Config) (engine : σ)
    (cs : List Command) (e' : Engine σ' τ ε) (engine' : σ') (c : Command) (k : Nat) :
    let s := ((start initial config).performAll e engine cs).session
    let highest := (start initial config).furthest e engine cs
    let target := s.history.clamp k
    let calls := s.calls e' engine' c
    s.requested? c = some k → target ≤ highest →
      (config.retention = .unbounded → calls = []) ∧
      ∀ interval, 0 < interval → config.retention = .checkpoints interval →
        calls.length ≤ target % interval ∧ calls.length < interval := by
  intro s highest target calls requested revisited
  have covers : s.history.Covers config.retention highest :=
    start_performAll_covers e initial config engine cs
  have made : (s.history.nearest target).index + calls.length ≤ target :=
    s.length_calls_le e' requested engine'
  have split := s.history.nearest_add_gap target
  refine ⟨?_, ?_⟩
  · intro unbounded
    rw [unbounded] at covers
    have gap := covers.gap_of_unbounded revisited
    exact List.eq_nil_of_length_eq_zero (by omega)
  · intro interval positive checkpoints
    rw [checkpoints] at covers
    have gap := covers.gap_le_mod positive revisited
    have few : calls.length ≤ target % interval := by omega
    exact ⟨few, Nat.lt_of_le_of_lt few (Nat.mod_lt target positive)⟩

/-- A jump fails at index seven, having come by the checkpoints at three and six. From the initial
term, where the cursor still is, a revisit of index five starts at three. -/
theorem revisits_are_bounded_when_stuck :
    let cs := [Command.jump 9]
    let stuck : Engine Unit Nat String := Engine.ofFn (stuckAt 7)
    let s := ((start 0 { retention := .checkpoints 3 }).performAll stuck () cs).session
    let s' := ((start 0 {}).performAll stuck () cs).session
    s.current = 0 ∧ (start 0 { retention := .checkpoints 3 }).furthest stuck () cs = 7 ∧
      s.history.entries = [(0, 0), (3, 3), (6, 6)] ∧
      (s.calls stuck () (.jump 5)).length ≤ 5 % 3 ∧
      s.calls stuck () (.jump 5) = [(3, .rewrote 4), (4, .rewrote 5)] ∧
      s'.calls stuck () (.jump 5) = [] := by
  intro cs stuck s s'
  have sparse := revisits_are_bounded stuck 0 { retention := .checkpoints 3 } () cs stuck ()
    (.jump 5) 5 rfl (by decide)
  have full := revisits_are_bounded stuck 0 {} () cs stuck () (.jump 5) 5 rfl (by decide)
  exact ⟨rfl, rfl, rfl, (sparse.2 3 (by decide) rfl).1, by decide, full.1 rfl⟩

end Session

end Retrace
