import Retrace.Proofs.Detection
import Retrace.Proofs.Verification

/-!
# What a verification makes of an early end

A verification asks the engine about one index after the other, starting with the initial term.
If the engine reports an end of execution before an index that is recorded, then a verification
tells so, as a navigation does, but in other words: a navigation names the end that is known, a
verification the first entry past the end that was reported, as if a different term were recorded
there. A known end is itself recorded, so there always is such an entry, and the comparison of the
two ends, which would come next, is never made.

## Main definitions

* `Recheck.Calls` — the calls of a re-execution, and what they come to.
* `Recheck.Found` — what a re-execution comes to in the end.

## Main statements

* `History.recheck_calls` — a re-execution ends in one of four ways, whatever the engine answers.
* `Session.verify_early_end` — an end of execution before a recorded index is blamed on the first
  entry past it.
* `Session.verify_differentEnd` — a verification reports a contradiction of ends only if execution
  goes on where it is known to end.
* `Session.moved_end_blamed_on_entry` — both, for every reachable session.
-/

namespace Retrace

universe u v w w'

variable {σ : Type w} {τ : Type u} {ε : Type v}

/-! ### Re-executions of a logged engine -/

/-- **The calls of a re-execution within** `limit` by a logged engine, and what they come to: a
rewrite for each index passed, and if the limit is not reached, one more call that is no rewrite, or
else a last rewrite that contradicts the record. -/
inductive Recheck.Calls (limit : Nat) : Recheck (σ × List (τ × Reply τ ε)) τ ε → Prop
  /-- The limit is reached. -/
  | arrived {checked : Nat} {x : τ} {s : σ} {rewrites : List (τ × Reply τ ε)}
      (length : rewrites.length = limit)
      (rewrote : ∀ call ∈ rewrites, call.2.isRewrote = true) :
      Recheck.Calls limit ⟨.ok (⟨checked, limit, false⟩, x), limit, (s, rewrites)⟩
  /-- Execution ends before. -/
  | ended {checked : Nat} {x : τ} {s : σ} {rewrites : List (τ × Reply τ ε)}
      (before : rewrites.length < limit)
      (rewrote : ∀ call ∈ rewrites, call.2.isRewrote = true) :
      Recheck.Calls limit ⟨.ok (⟨checked, rewrites.length, true⟩, x), rewrites.length + 1,
        (s, rewrites ++ [(x, .halted)])⟩
  /-- The term of the last rewrite differs from the recorded one. -/
  | differs {s : σ} {rewrites : List (τ × Reply τ ε)} (within : rewrites.length ≤ limit)
      (rewrote : ∀ call ∈ rewrites, call.2.isRewrote = true) :
      Recheck.Calls limit ⟨.error (.contradicted (.differentTerm rewrites.length)),
        rewrites.length, (s, rewrites)⟩
  /-- The engine fails before. -/
  | failed {x : τ} {error : ε} {s : σ} {rewrites : List (τ × Reply τ ε)}
      (before : rewrites.length < limit)
      (rewrote : ∀ call ∈ rewrites, call.2.isRewrote = true) :
      Recheck.Calls limit ⟨.error (.failed error), rewrites.length,
        (s, rewrites ++ [(x, .failed error)])⟩

/-- **What a re-execution within** `limit` **comes to** in the end: a report that goes no further,
or a setback. The one contradiction of ends is that execution goes on where it is known to end. -/
inductive Recheck.Found (terminal : Option Nat) (limit : Nat) : Recheck σ τ ε → Prop
  | reported {report : Verification} {x : τ} {answered : Nat} {s : σ}
      (within : report.reached ≤ limit) :
      Recheck.Found terminal limit ⟨.ok (report, x), answered, s⟩
  | wentOn {answered : Nat} {s : σ} (known : terminal = some limit) :
      Recheck.Found terminal limit
        ⟨.error (.contradicted (.differentEnd limit (Index.addSaturating limit 1))), answered, s⟩
  | differs {i answered : Nat} {s : σ} :
      Recheck.Found terminal limit ⟨.error (.contradicted (.differentTerm i)), answered, s⟩
  | failed {error : ε} {answered : Nat} {s : σ} :
      Recheck.Found terminal limit ⟨.error (.failed error), answered, s⟩

namespace History

variable [BEq τ] {h : History τ}

/-- **A re-execution ends in one of four ways,** whatever the engine answers. Where it stands is
told by the calls made so far, which are all answered by rewrites. -/
theorem recheck_calls (e : Engine σ τ ε) {gap : Nat} (rewrites : List (τ × Reply τ ε))
    (within : ∀ t, h.terminal = some t → rewrites.length + gap ≤ t)
    (rewrote : ∀ call ∈ rewrites, call.2.isRewrote = true) (checked : Nat) (x : τ) (s : σ) :
    (h.recheck e.logged gap rewrites.length checked rewrites.length x (s, rewrites)).Calls
      (rewrites.length + gap) := by
  induction gap generalizing rewrites checked x s with
  | zero => exact .arrived rfl rewrote
  | succ gap ih =>
    have before : rewrites.length < rewrites.length + (gap + 1) := by omega
    rw [recheck]
    simp only [Engine.logged]
    rcases e.advance x s with ⟨r, s'⟩
    cases r with
    | rewrote y =>
      -- one more call that is answered by a rewrite
      have length : (rewrites ++ [(x, (.rewrote y : Reply τ ε))]).length = rewrites.length + 1 :=
        List.length_append
      have rewrote' : ∀ call ∈ rewrites ++ [(x, (.rewrote y : Reply τ ε))],
          call.2.isRewrote = true := forall_isRewrote_concat rewrote
      have limit : rewrites.length + (gap + 1) =
          (rewrites ++ [(x, (.rewrote y : Reply τ ε))]).length + gap := by
        omega
      rw [limit, ← length]
      rw [limit] at within
      dsimp only
      split
      · exact ih _ within rewrote' _ y s'
      · next cause refused =>
        rcases check_eq_error_iff.1 refused with ⟨t, known, past, -⟩ | ⟨-, rfl, -⟩
        · have := within t known
          omega
        · exact .differs (Nat.le_add_right _ gap) rewrote'
    | halted => exact .ended before rewrote
    | failed error => exact .failed before rewrote

end History

/-- A log only grows. -/
theorem Engine.Later.log_extends {e : Engine σ τ ε} {s s' : σ × List (τ × Reply τ ε)}
    (later : e.logged.Later s s') : s.2 <+: s'.2 := by
  induction later with
  | now => exact List.prefix_rfl
  | call _ x ih => exact ih.trans (List.prefix_append ..)

namespace Recheck.Calls

variable {limit : Nat} {h : History τ} {e : Engine σ τ ε}
  {r : Recheck (σ × List (τ × Reply τ ε)) τ ε}

/-- **An end of execution reported before the limit** is what the re-execution comes to, and the
known end is not asked about any more. -/
theorem recheckEnd_of_halted (calls : r.Calls limit) {i : Nat} {x : τ} (before : i < limit)
    (halted : (h.recheckEnd e.logged r).engine.2[i]? = some (x, .halted)) :
    ∃ checked, (h.recheckEnd e.logged r).found = .ok (⟨checked, i, true⟩, x) ∧
      (h.recheckEnd e.logged r).answered = i + 1 := by
  cases calls with
  | @arrived checked y s rewrites length rewrote =>
    -- what comes after the rewrites is about the limit or further on
    obtain ⟨more, log⟩ := (Session.recheckEnd_later e.logged h
      ⟨.ok (⟨checked, limit, false⟩, y), limit, (s, rewrites)⟩).log_extends
    rw [← log, List.getElem?_append_left (length ▸ before)] at halted
    exact absurd halted (getElem?_ne_halted rewrote)
  | ended _ rewrote =>
    obtain ⟨rfl, same⟩ := (getElem?_concat_eq_halted_iff rewrote).1 halted
    obtain rfl := (Prod.mk.inj same).1
    exact ⟨_, rfl, rfl⟩
  | differs _ rewrote => exact absurd halted (getElem?_ne_halted rewrote)
  | failed _ rewrote =>
    cases ((getElem?_concat_eq_halted_iff rewrote).1 halted).2

/-- **What the whole re-execution comes to,** once it has asked about a known end. -/
theorem recheckEnd_found (calls : r.Calls limit) :
    (h.recheckEnd e.logged r).Found h.terminal limit := by
  cases calls with
  | @arrived checked x s rewrites =>
    simp only [History.recheckEnd]
    split
    · next asks =>
      have known : h.terminal = some limit := by simpa using asks
      rcases hcall : e.logged.advance x (s, rewrites) with ⟨reply, s'⟩
      cases reply with
      | rewrote => exact .wentOn known
      | halted => exact .reported (Nat.le_refl limit)
      | failed => exact .failed
    · exact .reported (Nat.le_refl limit)
  | ended before => exact .reported (Nat.le_of_lt before)
  | differs => exact .differs
  | failed => exact .failed

end Recheck.Calls

/-! ### Verifications -/

namespace Session

variable [BEq τ] {e : Engine σ τ ε} {s : Session τ} {upTo : Nat} {engine : σ}

/-- The re-execution of a verification makes one call after the other. -/
theorem recheck_calls (e : Engine σ τ ε) (s : Session τ) (upTo : Nat) (engine : σ) :
    (s.history.recheck e.logged (s.history.clamp upTo) 0 0 0 s.history.origin (engine, [])).Calls
      (s.history.clamp upTo) := by
  have within : ∀ t, s.history.terminal = some t → 0 + s.history.clamp upTo ≤ t := by
    intro t known
    rw [Nat.zero_add]
    exact History.clamp_le_terminal known upTo
  have calls := s.history.recheck_calls e [] within nofun 0 s.history.origin engine
  rwa [List.length_nil, Nat.zero_add] at calls

/-- The calls of a verification are those of its re-execution. -/
theorem calls_verify (usable : s.poisoned = none) :
    s.calls e engine (.verify upTo) = (s.rechecked e.logged upTo (engine, [])).engine.2 := by
  have ends := s.verify_ends e.logged usable upTo (engine, [])
  show (s.verify e.logged upTo (engine, [])).engine.2 = _
  generalize s.verify e.logged upTo (engine, []) = o at ends ⊢
  cases ends with
  | stopped => rw [conclude_engine]
  | refused | reported => rfl

/-- A logged verification is the same verification. -/
theorem verify_logged (e : Engine σ τ ε) (s : Session τ) (upTo : Nat) (engine : σ) :
    (s.verify e.logged upTo (engine, [])).view Prod.fst = s.verify e upTo engine :=
  s.verify_view e.logged_mimics upTo (engine, [])

/-- **An end of execution before a recorded index** is told as a different term at the first entry
past it, and poisons the session there. -/
theorem verify_early_end (usable : s.poisoned = none) (wf : s.history.WellFormed) {i r : Nat}
    {x : τ} (before : i < s.history.clamp upTo)
    (halted : (s.calls e engine (.verify upTo))[i]? = some (x, .halted))
    (first : s.history.timeline.firstAfter? i = some r) :
    (s.verify e upTo engine).answer = .error (.violation (.differentTerm r)) ∧
      (s.verify e upTo engine).session =
        { s with stats := s.stats.recordVerification (i + 1), poisoned := some r } := by
  have within : ∀ t, s.history.terminal = some t → i ≤ t := fun t known =>
    Nat.le_trans (Nat.le_of_lt before) (History.clamp_le_terminal known upTo)
  have refused : s.history.checkEnd i = .error (.differentTerm r) := by
    rw [History.checkEnd_eq wf within, first]
  rw [calls_verify usable] at halted
  obtain ⟨checked, found, answered⟩ := (s.recheck_calls e upTo engine).recheckEnd_of_halted
    before halted
  change (s.rechecked e.logged upTo (engine, [])).found = _ at found
  change (s.rechecked e.logged upTo (engine, [])).answered = _ at answered
  have ends := s.verify_ends e.logged usable upTo (engine, [])
  rw [← s.verify_logged]
  generalize s.verify e.logged upTo (engine, []) = o at ends ⊢
  cases ends with
  | stopped set =>
    rw [found] at set
    cases set
  | refused done _ contradicted =>
    rw [found] at done
    cases done
    cases refused.symm.trans contradicted
    rw [answered]
    exact ⟨rfl, rfl⟩
  | reported done agrees =>
    rw [found] at done
    cases done
    cases refused.symm.trans (agrees rfl)

/-- **A contradiction of ends is reported** by a verification only if execution goes on where it is
known to end. -/
theorem verify_differentEnd (usable : s.poisoned = none) (wf : s.history.WellFormed)
    {recorded observed : Nat}
    (violated : (s.verify e upTo engine).answer =
      .error (.violation (.differentEnd recorded observed))) :
    s.terminal = some recorded ∧ recorded ≤ upTo ∧
      observed = Index.addSaturating recorded 1 := by
  have ends := s.verify_ends e.logged usable upTo (engine, [])
  have comes : (s.rechecked e.logged upTo (engine, [])).Found s.terminal (s.history.clamp upTo) :=
    (s.recheck_calls e upTo engine).recheckEnd_found
  rw [← s.verify_logged] at violated
  change (s.verify e.logged upTo (engine, [])).answer = _ at violated
  generalize s.verify e.logged upTo (engine, []) = o at ends violated
  generalize s.rechecked e.logged upTo (engine, []) = r at ends comes
  cases ends with
  | stopped set =>
    obtain rfl := conclude_violation _ _ _ violated
    cases comes with
    | wentOn known =>
      cases set
      exact ⟨known, s.history.clamp_le upTo, rfl⟩
    | reported | differs | failed => cases set
  | refused done terminated contradicted =>
    cases comes with
    | reported within =>
      cases done
      have before_end : ∀ t, s.history.terminal = some t → _ ≤ t := fun t known =>
        Nat.le_trans within (History.clamp_le_terminal known upTo)
      rw [History.checkEnd_eq wf before_end] at contradicted
      split at contradicted
      · cases contradicted
        cases violated
      · cases contradicted
    | wentOn | differs | failed => cases done
  | reported => cases violated

/-- **A moved end is blamed on an entry.** In every reachable session that is not poisoned and
knows where execution ends, whatever the engines answered and answer: if a verification is told of
an end of execution before the known one, then it reports a different term at the first index
recorded past the end that it was told of, and the session is poisoned there. To mark that end
would be refused as a contradiction of the two ends; a verification reports such a contradiction
only if execution goes on at the known end. -/
theorem moved_end_blamed_on_entry (e₀ : Engine σ τ ε) (engine₀ : σ) (initial : τ) (config : Config)
    (cs : List Command) {σ' : Type w'} (e : Engine σ' τ ε) (engine : σ') (upTo : Nat) :
    let s := ((start initial config).performAll e₀ engine₀ cs).session
    let o := s.verify e upTo engine
    s.poisoned = none →
      (∀ t i x, s.terminal = some t → i < min upTo t →
        (s.calls e engine (.verify upTo))[i]? = some (x, .halted) →
        ∃ r, IsLeast {j | i < j ∧ (s.history.timeline.get? j).isSome} r ∧ r ≤ t ∧
          o.answer = .error (.violation (.differentTerm r)) ∧
          o.session =
            { s with stats := s.stats.recordVerification (i + 1), poisoned := some r } ∧
          s.history.markTerminal i x = .error (.differentEnd t i)) ∧
      ∀ recorded observed, o.answer = .error (.violation (.differentEnd recorded observed)) →
        s.terminal = some recorded ∧ recorded ≤ upTo ∧
          observed = Index.addSaturating recorded 1 := by
  intro s o usable
  have wf : s.history.WellFormed := performAll_wellFormed e₀ initial config engine₀ cs
  refine ⟨?_, fun recorded observed violated => verify_differentEnd usable wf violated⟩
  intro t i x known before halted
  have ends : s.history.terminal = some t := known
  have moved : i < t := Nat.lt_of_lt_of_le before (Nat.min_le_right upTo t)
  have limited : s.history.clamp upTo = min upTo t := by rw [History.clamp, ends]
  -- the known end is itself recorded past the end that was told
  have past : t ∈ {j | i < j ∧ (s.history.timeline.get? j).isSome} := ⟨moved, wf.terminal t ends⟩
  obtain ⟨r, first⟩ : ∃ r, s.history.timeline.firstAfter? i = some r := by
    refine Option.ne_none_iff_exists'.1 fun none => ?_
    obtain ⟨y, recorded⟩ := Option.isSome_iff_exists.1 past.2
    exact absurd (Timeline.firstAfter?_eq_none_iff_get?.1 none t y recorded)
      (Nat.not_le_of_lt moved)
  have least := Timeline.firstAfter?_eq_some_iff_isLeast.1 first
  obtain ⟨violated, after⟩ := verify_early_end usable wf (limited ▸ before) halted first
  refine ⟨r, least, least.2 past, violated, after, ?_⟩
  refine History.markTerminal_eq_error_iff.2 (.inl ⟨t, ?_, rfl⟩)
  rw [History.endConflict?, ends]
  exact if_neg (Nat.ne_of_gt moved)

/-- With checkpoints at the even indices an engine that tires after five calls ends execution at
index five. Another one that tires after seven, of which six are made, is verified, and tells of an
end at index one: the next checkpoint is blamed. -/
theorem moved_end_blamed_on_checkpoint :
    let s := ((start 0 { retention := .checkpoints 2 }).performAll (Engine.tiring 5) 0
      [.jump 9]).session
    let o := s.verify (Engine.tiring 7) 9 6
    s.poisoned = none ∧ s.terminal = some 5 ∧
      (s.calls (Engine.tiring 7) 6 (.verify 9))[1]? = some (1, .halted) ∧
      o.answer = .error (.violation (.differentTerm 2)) ∧ o.session.poisoned = some 2 ∧
      s.history.markTerminal 1 1 = .error (.differentEnd 5 1) := by
  intro s o
  have halted : (s.calls (Engine.tiring 7) 6 (.verify 9))[1]? = some (1, .halted) := rfl
  obtain ⟨r, -, -, violated, after, refused⟩ :=
    (moved_end_blamed_on_entry (Engine.tiring 5) 0 0 { retention := .checkpoints 2 } [.jump 9]
      (Engine.tiring 7) 6 9 rfl).1 5 1 1 rfl (by decide) halted
  have answer : o.answer = .error (.violation (.differentTerm 2)) := rfl
  cases answer.symm.trans violated
  exact ⟨rfl, rfl, halted, answer, congrArg Session.poisoned after, refused⟩

/-- **A moved end is not reported as a contradiction of ends,** nor is the session poisoned where
it was told of: execution ended at index five before and ends at index two now, the terms before
that are those recorded, and what is reported is a different term at index three. -/
theorem moved_end_misdiagnosed :
    let reached := (start 0 {}).performAll (Engine.tiring 5) 0 [.jump 9]
    let s := reached.session
    let o := s.verify (Engine.tiring 8) 9 reached.engine
    s.poisoned = none ∧ s.terminal = some 5 ∧
      s.calls (Engine.tiring 8) reached.engine (.verify 9) =
        [(0, .rewrote 1), (1, .rewrote 2), (2, .halted)] ∧
      s.history.get? 1 = some (1, 1) ∧ s.history.get? 2 = some (2, 2) ∧
      s.history.markTerminal 2 2 = .error (.differentEnd 5 2) ∧
      o.answer = .error (.violation (.differentTerm 3)) ∧
      o.answer ≠ .error (.violation (.differentEnd 5 2)) ∧
      o.session.poisoned = some 3 ∧ o.session.poisoned ≠ some 2 := by
  intro reached s o
  have answer : o.answer = .error (.violation (.differentTerm 3)) := rfl
  refine ⟨rfl, rfl, rfl, rfl, rfl, rfl, answer, ?_, rfl, by decide⟩
  rw [answer]
  nofun

end Session

end Retrace
