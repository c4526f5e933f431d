import Retrace.Proofs.Commands

/-!
# What a verification finds out

A verification under an engine that answers by a function confirms the record exactly
as far as direct execution and the record agree, and it reports an engine failure
exactly if it meets that failure before any contradiction. Nothing is assumed of the
engine the session was recorded under.

## Main definitions

* `History.AgreesUpTo` — the recorded terms equal those of direct execution.
* `History.recordedUpTo` — how many terms are recorded up to an index.
* `History.Asked` — the indices at which a verification asks the engine.
* `History.Confirms`, `History.MeetsFailure` — what a report certifies, and what an engine
  failure tells.
* `Rechecked`, `Verdict` — how a re-execution ends, and the verification around it.

## Main statements

* `History.recheck_rechecked` — a re-execution ends in one of four ways.
* `Session.verify_verdict` — a verification ends in one of six.
* `Verdict.confirms`, `Verdict.eq_ok` — a report certifies what it says, and a report that
  certifies is made.
* `Verdict.eq_engine_iff` — when an engine failure is reported.
-/

namespace Retrace

universe u v w w'

variable {σ : Type w} {σ' : Type w'} {τ : Type u} {ε : Type v}

/-! ### What is compared -/

namespace History

/-- The number of indices from `1` up to `n` at which a term is recorded. -/
def recordedUpTo (h : History τ) (n : Nat) : Nat :=
  (List.range' 1 n).countP fun i => (h.timeline.get? i).isSome

theorem recordedUpTo_succ (h : History τ) (n : Nat) :
    h.recordedUpTo (n + 1) =
      if (h.timeline.get? (n + 1)).isSome then h.recordedUpTo n + 1 else h.recordedUpTo n := by
  rw [recordedUpTo, List.range'_1_concat, List.countP_append, Nat.add_comm 1 n,
    List.countP_singleton]
  split <;> rfl

/-- **The indices at which a verification within `limit` asks the engine:** all below, and
the limit itself if execution is known to end there. -/
def Asked (h : History τ) (limit n : Nat) : Prop :=
  n < limit ∨ n = limit ∧ h.terminal = some limit

theorem Asked.le {h : History τ} {limit n : Nat} (asked : h.Asked limit n) : n ≤ limit := by
  rcases asked with before | ⟨rfl, -⟩
  · exact Nat.le_of_lt before
  · exact Nat.le_refl n

/-- A stop that the engine is asked about although the limit can be reached is the limit
itself, and execution is known to end there. -/
theorem Asked.known {f : τ → Reply τ ε} {h : History τ} {limit n : Nat}
    (asked : h.Asked limit n) {x₀ x y : τ} {r : Reply τ ε}
    (reached : Reaches (fun x r => f x = r) x₀ n x) (stop : f x = r)
    (last : ∀ next, r ≠ .rewrote next) (further : Reaches (fun x r => f x = r) x₀ limit y) :
    h.terminal = some limit := by
  have hle : limit ≤ n := reached.le_of_stop (Engine.rightUnique_of_fn f) stop last further
  rcases asked with before | ⟨-, known⟩
  · omega
  · exact known

/-- An index within the known end of execution is looked up as it is. -/
theorem isSome_get?_of_within {h : History τ} {i : Nat}
    (within : ∀ t, h.terminal = some t → i ≤ t) :
    (h.get? i).isSome = (h.timeline.get? i).isSome := by
  rw [get?_of_within within, Option.isSome_map]

variable [BEq τ]

/-- **The record agrees with direct execution** by `f` up to index `n`: each recorded term
past the initial one compares equal to the term reached there. -/
def AgreesUpTo (f : τ → Reply τ ε) (h : History τ) (n : Nat) : Prop :=
  ∀ i y, 0 < i → i ≤ n → h.timeline.get? i = some y →
    ∃ x, Reaches (fun x r => f x = r) h.origin i x ∧ (y == x) = true

theorem agreesUpTo_zero (f : τ → Reply τ ε) (h : History τ) : h.AgreesUpTo f 0 := by
  intro i y hpos hle
  omega

theorem AgreesUpTo.succ {f : τ → Reply τ ε} {h : History τ} {n : Nat}
    (agrees : h.AgreesUpTo f n) {x : τ} (reached : Reaches (fun x r => f x = r) h.origin (n + 1) x)
    (equal : ∀ y, h.timeline.get? (n + 1) = some y → (y == x) = true) :
    h.AgreesUpTo f (n + 1) := by
  intro i y hpos hle recorded
  rcases Nat.lt_or_ge n i with hlt | hge
  · obtain rfl : i = n + 1 := by omega
    exact ⟨x, reached, equal y recorded⟩
  · exact agrees i y hpos hge recorded

end History

/-! ### The re-execution -/

variable [BEq τ]

/-- **How a re-execution within `limit` ends.** -/
inductive Rechecked (f : τ → Reply τ ε) (h : History τ) (limit : Nat) : Recheck σ τ ε → Prop
  /-- The limit is reached, and the record agrees so far. -/
  | arrived {x : τ} {s : σ} (reached : Reaches (fun x r => f x = r) h.origin limit x)
      (agrees : h.AgreesUpTo f limit) :
      Rechecked f h limit ⟨.ok (⟨h.recordedUpTo limit, limit, false⟩, x), limit, s⟩
  /-- Execution ends before the limit. -/
  | ended {n : Nat} {x : τ} {s : σ} (before : n < limit)
      (reached : Reaches (fun x r => f x = r) h.origin n x) (agrees : h.AgreesUpTo f n)
      (answer : f x = .halted) :
      Rechecked f h limit ⟨.ok (⟨h.recordedUpTo n, n, true⟩, x), n + 1, s⟩
  /-- A recorded term differs from the one reached. -/
  | differs {n : Nat} {x y z : τ} {s : σ} (before : n < limit)
      (reached : Reaches (fun x r => f x = r) h.origin n x) (agrees : h.AgreesUpTo f n)
      (answer : f x = .rewrote y) (recorded : h.timeline.get? (n + 1) = some z)
      (unequal : (z == y) = false) :
      Rechecked f h limit ⟨.error (.contradicted (.differentTerm (n + 1))), n + 1, s⟩
  /-- The engine fails. -/
  | failed {n : Nat} {x : τ} {error : ε} {s : σ} (before : n < limit)
      (reached : Reaches (fun x r => f x = r) h.origin n x) (agrees : h.AgreesUpTo f n)
      (answer : f x = .failed error) :
      Rechecked f h limit ⟨.error (.failed error), n, s⟩

/-- **A re-execution ends in one of four ways,** wherever it starts on the way. -/
theorem History.recheck_rechecked {e : Engine σ τ ε} {f : τ → Reply τ ε} (pure : e.AnswersBy f)
    {h : History τ} {gap i : Nat} {x : τ} (within : ∀ t, h.terminal = some t → i + gap ≤ t)
    (reached : Reaches (fun x r => f x = r) h.origin i x) (agrees : h.AgreesUpTo f i) (s : σ) :
    Rechecked f h (i + gap) (h.recheck e gap i (h.recordedUpTo i) i x s) := by
  -- what carries the induction is that both counters are functions of the index
  induction gap generalizing i x s with
  | zero => exact .arrived reached agrees
  | succ gap ih =>
    have before : i < i + (gap + 1) := by omega
    have answer := pure x s
    rw [recheck]
    rcases hcall : e.advance x s with ⟨r, s'⟩
    rw [hcall] at answer
    cases r with
    | rewrote y =>
      have reached' := reached.rewrite answer.symm
      have within' : ∀ t, h.terminal = some t → i + 1 + gap ≤ t := by
        intro t ht
        have := within t ht
        omega
      dsimp only
      split
      · next checked =>
        have agrees' := agrees.succ reached' (check_eq_ok_iff.1 checked).2
        rw [isSome_get?_of_within (check_eq_ok_iff.1 checked).1, ← recordedUpTo_succ]
        have rest := ih within' reached' agrees' s'
        rwa [Nat.add_right_comm, Nat.add_assoc] at rest
      · next cause refused =>
        rcases check_eq_error_iff.1 refused with ⟨t, ht, past, -⟩ | ⟨-, rfl, z, recorded, unequal⟩
        · have := within t ht
          omega
        · exact .differs before reached agrees answer.symm recorded unequal
    | halted => exact .ended before reached agrees answer.symm
    | failed error => exact .failed before reached agrees answer.symm

/-! ### The verification -/

/-- **How a verification within `limit` ends,** with the number of answered calls. -/
inductive Verdict (f : τ → Reply τ ε) (h : History τ) (limit : Nat) :
    Except (SessionError ε) Verification → Nat → Prop
  /-- The limit is reached, and the engine is not asked about it. -/
  | arrived {x : τ} (reached : Reaches (fun x r => f x = r) h.origin limit x)
      (agrees : h.AgreesUpTo f limit) (unasked : h.terminal ≠ some limit) :
      Verdict f h limit (.ok ⟨h.recordedUpTo limit, limit, false⟩) limit
  /-- Execution ends, and nothing is recorded past the end. -/
  | ended {n : Nat} {x : τ} (asked : h.Asked limit n)
      (reached : Reaches (fun x r => f x = r) h.origin n x) (agrees : h.AgreesUpTo f n)
      (answer : f x = .halted) (last : ∀ i y, h.timeline.get? i = some y → i ≤ n) :
      Verdict f h limit (.ok ⟨h.recordedUpTo n, n, true⟩) (n + 1)
  /-- Execution ends, but something is recorded past the end. -/
  | endedEarly {n i : Nat} {x : τ} (asked : h.Asked limit n)
      (reached : Reaches (fun x r => f x = r) h.origin n x) (agrees : h.AgreesUpTo f n)
      (answer : f x = .halted) (past : h.timeline.firstAfter? n = some i) :
      Verdict f h limit (.error (.violation (.differentTerm i))) (n + 1)
  /-- Execution goes on where it is known to end. -/
  | wentOn {x y : τ} (known : h.terminal = some limit)
      (reached : Reaches (fun x r => f x = r) h.origin limit x) (agrees : h.AgreesUpTo f limit)
      (answer : f x = .rewrote y) :
      Verdict f h limit
        (.error (.violation (.differentEnd limit (Index.addSaturating limit 1)))) (limit + 1)
  /-- A recorded term differs from the one reached. -/
  | differs {n : Nat} {x y z : τ} (before : n < limit)
      (reached : Reaches (fun x r => f x = r) h.origin n x) (agrees : h.AgreesUpTo f n)
      (answer : f x = .rewrote y) (recorded : h.timeline.get? (n + 1) = some z)
      (unequal : (z == y) = false) :
      Verdict f h limit (.error (.violation (.differentTerm (n + 1)))) (n + 1)
  /-- The engine fails. -/
  | failed {n : Nat} {x : τ} {error : ε} (asked : h.Asked limit n)
      (reached : Reaches (fun x r => f x = r) h.origin n x) (agrees : h.AgreesUpTo f n)
      (answer : f x = .failed error) :
      Verdict f h limit (.error (.engine error)) n

omit [BEq τ] in
/-- In a well-formed history an end of execution is contradicted by later entries only: if
another end is known, it is recorded, so it is such an entry. -/
theorem History.checkEnd_eq {h : History τ} (wf : h.WellFormed) {n : Nat}
    (within : ∀ t, h.terminal = some t → n ≤ t) :
    h.checkEnd n =
      match h.timeline.firstAfter? n with
      | some later => .error (.differentTerm later)
      | none => .ok () := by
  unfold checkEnd
  cases hpast : h.timeline.firstAfter? n with
  | some later => rfl
  | none =>
    dsimp only
    split
    · next t ht =>
      obtain ⟨x, recorded⟩ := Option.isSome_iff_exists.1 (wf.terminal t ht)
      have hle : t ≤ n := Timeline.firstAfter?_eq_none_iff_get?.1 hpast t x recorded
      rw [if_pos (Nat.le_antisymm hle (within t ht))]
    · rfl

/-- **A verification ends in one of six ways.** It changes nothing but the count of verified
steps and the poison mark. -/
theorem Session.verify_verdict {e : Engine σ τ ε} {f : τ → Reply τ ε} (pure : e.AnswersBy f)
    {s : Session τ} (usable : s.poisoned = none) (wf : s.history.WellFormed) (upTo : Nat)
    (engine : σ) :
    ∃ n, Verdict f s.history (s.history.clamp upTo) (s.verify e upTo engine).answer n ∧
      (s.verify e upTo engine).session =
        { s with
          stats := s.stats.recordVerification n
          poisoned := violation? (s.verify e upTo engine).answer } := by
  have within : ∀ t, s.history.terminal = some t → s.history.clamp upTo ≤ t :=
    fun t ht => History.clamp_le_terminal ht upTo
  have rechecked : Rechecked f s.history (s.history.clamp upTo)
      (s.history.recheck e (s.history.clamp upTo) 0 0 0 s.history.origin engine) := by
    have from_zero := History.recheck_rechecked pure (i := 0) (h := s.history)
      (by simpa using within) .origin (s.history.agreesUpTo_zero f) engine
    rwa [Nat.zero_add] at from_zero
  obtain ⟨h, config, current, cursor, poisoned, stats⟩ := s
  obtain rfl : poisoned = none := usable
  dsimp only at wf within rechecked ⊢
  simp only [verify]
  -- from here on the re-execution is known by the way it ended only
  generalize h.recheck e _ 0 0 0 h.origin engine = r at rechecked ⊢
  cases rechecked with
  | @arrived x s' reached agrees =>
    by_cases known : h.terminal = some (h.clamp upTo)
    · have answer := pure x s'
      simp only [History.recheckEnd, known, Bool.not_false, Bool.true_and, beq_self_eq_true,
        if_true]
      rcases hcall : e.advance x s' with ⟨r, s''⟩
      rw [hcall] at answer
      cases r with
      | rewrote y => exact ⟨_, .wentOn known reached agrees answer.symm, rfl⟩
      | halted =>
        have last : ∀ i y, h.timeline.get? i = some y → i ≤ h.clamp upTo :=
          wf.bounded _ known
        have noneAfter : h.timeline.firstAfter? (h.clamp upTo) = none :=
          Timeline.firstAfter?_eq_none_iff_get?.2 last
        simp only [if_true, History.checkEnd_eq wf within, noneAfter]
        exact ⟨_, .ended (.inr ⟨rfl, known⟩) reached agrees answer.symm last, rfl⟩
      | failed error => exact ⟨_, .failed (.inr ⟨rfl, known⟩) reached agrees answer.symm, rfl⟩
    · have unasked : (h.terminal == some (h.clamp upTo)) = false := by simpa using known
      simp only [History.recheckEnd, unasked, Bool.and_false, Bool.false_eq_true, if_false]
      exact ⟨_, .arrived reached agrees known, rfl⟩
  | @ended n x s' before reached agrees answer =>
    have within' : ∀ t, h.terminal = some t → n ≤ t := by
      intro t ht
      exact Nat.le_of_lt (Nat.lt_of_lt_of_le before (within t ht))
    simp only [History.recheckEnd, Bool.not_true, Bool.false_and, Bool.false_eq_true, if_false,
      if_true, History.checkEnd_eq wf within']
    cases past : h.timeline.firstAfter? n with
    | some later => exact ⟨_, .endedEarly (.inl before) reached agrees answer past, rfl⟩
    | none =>
      have last := Timeline.firstAfter?_eq_none_iff_get?.1 past
      exact ⟨_, .ended (.inl before) reached agrees answer last, rfl⟩
  | differs before reached agrees answer recorded unequal =>
    exact ⟨_, .differs before reached agrees answer recorded unequal, rfl⟩
  | failed before reached agrees answer =>
    exact ⟨_, .failed (.inl before) reached agrees answer, rfl⟩

/-! ### Soundness and completeness -/

/-- **What a report certifies** that a verification within `limit` makes: direct execution
by `f` from the initial term gets as far as reported, the record agrees with it that far,
nothing is recorded past an end of execution before the limit, and execution does end where
it is known to. -/
structure History.Confirms (f : τ → Reply τ ε) (h : History τ) (limit : Nat)
    (report : Verification) : Prop where
  executed : ∃ d, ((Engine.ofFn f).run limit h.origin ()).1 = .ok d ∧ d.steps = report.reached
  agrees : h.AgreesUpTo f report.reached
  last : report.reached < limit → ∀ i y, h.timeline.get? i = some y → i ≤ report.reached
  halts : h.terminal = some limit → report.reached = limit →
    ∃ x, Reaches (fun x r => f x = r) h.origin limit x ∧ f x = .halted
  checked : report.checked = h.recordedUpTo report.reached
  terminated : report.terminated = true ↔ report.reached < limit ∨ h.terminal = some limit

/-- **A failure that a verification meets:** the engine fails on a term that it is asked
about, and up to there the record agrees. -/
def History.MeetsFailure (f : τ → Reply τ ε) (h : History τ) (limit : Nat) (error : ε) : Prop :=
  ∃ n x, h.Asked limit n ∧ Reaches (fun x r => f x = r) h.origin n x ∧ h.AgreesUpTo f n ∧
    f x = .failed error

section

variable {f : τ → Reply τ ε} {h : History τ} {limit n : Nat}
  {answer : Except (SessionError ε) Verification} {report : Verification} {error : ε}

omit [BEq τ] in
theorem ofFn_run_eq_iff {x : τ} {o : Except ε (Execution τ)} :
    ((Engine.ofFn f).run limit x ()).1 = o ↔ Finishes f x limit o :=
  Engine.run_eq_iff (Engine.ofFn_answersBy f)

theorem Verdict.confirms (verdict : Verdict f h limit (.ok report) n) :
    h.Confirms f limit report := by
  cases verdict with
  | arrived reached agrees unasked =>
    refine ⟨⟨_, ofFn_run_eq_iff.2 (.spent reached), rfl⟩, agrees, ?_, ?_, rfl, ?_⟩
    · intro hlt
      exact absurd hlt (Nat.lt_irrefl limit)
    · intro known
      exact absurd known unasked
    · simp [unasked]
  | ended asked reached agrees halted last =>
    rcases asked with before | ⟨rfl, known⟩
    · refine ⟨⟨_, ofFn_run_eq_iff.2 (.halted before reached halted), rfl⟩, agrees,
        fun _ => last, ?_, rfl, ?_⟩
      · intro _ hn
        exact absurd hn (Nat.ne_of_lt before)
      · simp [before]
    · exact ⟨⟨_, ofFn_run_eq_iff.2 (.spent reached), rfl⟩, agrees, fun _ => last,
        fun _ _ => ⟨_, reached, halted⟩, rfl, by simp [known]⟩

/-- Where the verification stops to ask, a certified report stops too. -/
theorem History.Confirms.reached_eq (confirms : h.Confirms f limit report) {x : τ}
    {r : Reply τ ε} (asked : h.Asked limit n)
    (reached : Reaches (fun x r => f x = r) h.origin n x) (stop : f x = r)
    (last : ∀ next, r ≠ .rewrote next) : report.reached = n := by
  have functional := Engine.rightUnique_of_fn f
  obtain ⟨d, hrun, hsteps⟩ := confirms.executed
  rw [← hsteps]
  cases ofFn_run_eq_iff.1 hrun with
  | spent reached' =>
    exact Nat.le_antisymm (reached.le_of_stop functional stop last reached') asked.le
  | halted within reached' answer =>
    exact (reached'.stop_unique functional answer (by simp) reached stop last).1

/-- A chain within the limit goes no further than a certified report. -/
theorem History.Confirms.le_reached (confirms : h.Confirms f limit report) {x : τ}
    (within : n ≤ limit) (reached : Reaches (fun x r => f x = r) h.origin n x) :
    n ≤ report.reached := by
  obtain ⟨d, hrun, hsteps⟩ := confirms.executed
  rw [← hsteps]
  cases ofFn_run_eq_iff.1 hrun with
  | spent reached' => exact within
  | halted _ reached' answer =>
    exact reached'.le_of_stop (Engine.rightUnique_of_fn f) answer (by simp) reached

theorem History.Confirms.reached_le (confirms : h.Confirms f limit report) :
    report.reached ≤ limit := by
  obtain ⟨d, hrun, hsteps⟩ := confirms.executed
  rw [← hsteps]
  cases ofFn_run_eq_iff.1 hrun with
  | spent => exact Nat.le_refl limit
  | halted within => exact Nat.le_of_lt within

/-- If the limit can be reached, a certified report reaches it. -/
theorem History.Confirms.reached_eq_limit (confirms : h.Confirms f limit report) {x : τ}
    (reached : Reaches (fun x r => f x = r) h.origin limit x) : report.reached = limit :=
  Nat.le_antisymm confirms.reached_le (confirms.le_reached (Nat.le_refl limit) reached)

/-- The record does not agree with a chain past an entry that differs. -/
theorem History.AgreesUpTo.lt_of_differs {m : Nat} (agrees : h.AgreesUpTo f m) {y z : τ}
    (reached : Reaches (fun x r => f x = r) h.origin (n + 1) y)
    (recorded : h.timeline.get? (n + 1) = some z) (unequal : (z == y) = false) : m ≤ n := by
  refine Nat.le_of_not_lt fun hlt => ?_
  obtain ⟨y', reached', equal⟩ := agrees (n + 1) z (Nat.succ_pos n) hlt recorded
  rw [reached'.unique (Engine.rightUnique_of_fn f) reached, unequal] at equal
  cases equal

/-- **A report that certifies is the report that is made.** -/
theorem Verdict.eq_ok (verdict : Verdict f h limit answer n) (wf : h.WellFormed)
    (confirms : h.Confirms f limit report) : answer = .ok report := by
  have functional := Engine.rightUnique_of_fn f
  have same : ∀ {m : Nat} {b : Bool}, report.reached = m →
      (b = true ↔ m < limit ∨ h.terminal = some limit) →
      (⟨h.recordedUpTo m, m, b⟩ : Verification) = report := by
    rintro m b rfl hb
    rw [← confirms.checked, Bool.eq_iff_iff.2 (hb.trans confirms.terminated.symm)]
  -- a report that ends well says where the report certified ends too; every other ending
  -- contradicts one part of what is certified
  cases verdict with
  | arrived reached agrees unasked =>
    have hreached := confirms.reached_eq_limit reached
    rw [same hreached (by simp [unasked])]
  | ended asked reached agrees halted last =>
    rw [same (confirms.reached_eq asked reached halted (by simp)) ?_]
    rcases asked with before | ⟨-, known⟩
    · simp [before]
    · simp [known]
  | endedEarly asked reached agrees halted past =>
    obtain ⟨hlt, recorded, -⟩ := Timeline.firstAfter?_eq_some_iff.1 past
    obtain ⟨y, hy⟩ := Option.isSome_iff_exists.1 recorded
    have hreached := confirms.reached_eq asked reached halted (by simp)
    rcases asked with before | ⟨rfl, known⟩
    · have := confirms.last (hreached ▸ before) _ y hy
      omega
    · have := wf.bounded _ known _ y hy
      omega
  | wentOn known reached agrees rewrote =>
    have hreached := confirms.reached_eq_limit reached
    obtain ⟨x', reached', halted⟩ := confirms.halts known hreached
    rw [reached'.unique functional reached, rewrote] at halted
    cases halted
  | differs before reached agrees rewrote recorded unequal =>
    -- the certified report gets past the entry that differs
    have reached' := reached.rewrite rewrote
    have hle := confirms.le_reached before reached'
    have := confirms.agrees.lt_of_differs reached' recorded unequal
    omega
  | failed asked reached agrees failed =>
    have hreached := confirms.reached_eq asked reached failed (by simp)
    rcases asked with before | ⟨rfl, known⟩
    · obtain ⟨d, hrun, -⟩ := confirms.executed
      have contradiction := (ofFn_run_eq_iff.1 hrun).unique (.failed before reached failed)
      cases contradiction
    · obtain ⟨x', reached', halted⟩ := confirms.halts known hreached
      rw [reached'.unique functional reached, failed] at halted
      cases halted

/-- **A verification reports an engine failure exactly if it meets one.** -/
theorem Verdict.eq_engine_iff (verdict : Verdict f h limit answer n) :
    answer = .error (.engine error) ↔ h.MeetsFailure f limit error := by
  have functional := Engine.rightUnique_of_fn f
  constructor
  · rintro rfl
    cases verdict with
    | failed asked reached agrees answer => exact ⟨n, _, asked, reached, agrees, answer⟩
  · rintro ⟨m, x, asked, reached, agrees, failed⟩
    have hm : m ≤ limit := asked.le
    cases verdict with
    | arrived reached' agrees' unasked =>
      exact absurd (asked.known reached failed (by simp) reached') unasked
    | ended asked' reached' agrees' halted last =>
      exact absurd failed (reached'.ne_failed_of_halted halted reached error)
    | endedEarly asked' reached' agrees' halted past =>
      exact absurd failed (reached'.ne_failed_of_halted halted reached error)
    | wentOn known reached' agrees' rewrote =>
      have hle := reached.le_of_stop functional failed (by simp) (reached'.rewrite rewrote)
      omega
    | differs before reached' agrees' rewrote recorded unequal =>
      have reached'' := reached'.rewrite rewrote
      have hle := reached.le_of_stop functional failed (by simp) reached''
      have hge := agrees.lt_of_differs reached'' recorded unequal
      omega
    | failed asked' reached' agrees' failed' =>
      obtain ⟨-, -, same⟩ :=
        reached.stop_unique functional failed (by simp) reached' failed' (by simp)
      rw [Reply.failed.inj same]

end

namespace Session

/-- **A verification is sound and complete.** It answers with a report exactly if direct
execution confirms that report, with an engine failure exactly if it meets that failure
first, and with a contradiction otherwise. Only a contradiction poisons the session, and
in every case the record, the cursor and all else but one counter stay as they are. -/
theorem verify_sound_and_complete (e₀ : Engine σ τ ε) (engine₀ : σ) (initial : τ)
    (config : Config) (cs : List Command) {e : Engine σ' τ ε} {f : τ → Reply τ ε}
    (pure : e.AnswersBy f) (engine : σ') (upTo : Nat) :
    let s := ((start initial config).performAll e₀ engine₀ cs).session
    let limit := s.history.clamp upTo
    let o := s.verify e upTo engine
    s.poisoned = none →
      (∀ report, o.answer = .ok report ↔ s.history.Confirms f limit report) ∧
      (∀ error, o.answer = .error (.engine error) ↔ s.history.MeetsFailure f limit error) ∧
      (match o.answer with
        | .ok _ | .error (.engine _) => o.session.poisoned = none
        | .error (.violation cause) => o.session.poisoned = some cause.index
        | .error (.stepOverflow ..) | .error (.poisoned _) => False) ∧
      ∃ answered, o.session =
        { s with
          stats := s.stats.recordVerification answered
          poisoned := o.session.poisoned } := by
  intro s limit o usable
  have wf : s.history.WellFormed := performAll_wellFormed e₀ initial config engine₀ cs
  obtain ⟨n, verdict, after⟩ := s.verify_verdict pure usable wf upTo engine
  refine ⟨?_, fun _ => verdict.eq_engine_iff, ?_, n, ?_⟩
  · intro report
    constructor
    · intro answer
      rw [answer] at verdict
      exact verdict.confirms
    · exact verdict.eq_ok wf
  · show match (s.verify e upTo engine).answer with
      | .ok _ | .error (.engine _) => (s.verify e upTo engine).session.poisoned = none
      | .error (.violation cause) =>
        (s.verify e upTo engine).session.poisoned = some cause.index
      | .error (.stepOverflow ..) | .error (.poisoned _) => False
    rw [after]
    generalize (s.verify e upTo engine).answer = answer at verdict
    cases verdict <;> rfl
  · show (s.verify e upTo engine).session =
      { s with
        stats := s.stats.recordVerification n
        poisoned := (s.verify e upTo engine).session.poisoned }
    rw [after]

/-- A countdown from two, recorded up to index `1` only, is confirmed up to its end. -/
theorem verify_confirms_countdown :
    let s := ((start 2 {}).performAll (Engine.ofFn countdown) () [.jump 1]).session
    s.poisoned = none ∧ s.history.Confirms countdown 5 ⟨1, 2, true⟩ := by
  intro s
  have usable : s.poisoned = none := rfl
  have reports : (s.verify (Engine.ofFn countdown) 5 ()).answer = .ok ⟨1, 2, true⟩ := rfl
  have sound := verify_sound_and_complete (Engine.ofFn countdown) () 2 {} [.jump 1]
    (Engine.ofFn_answersBy countdown) () 5 usable
  exact ⟨usable, (sound.1 ⟨1, 2, true⟩).1 reports⟩

end Session

end Retrace
