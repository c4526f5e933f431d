import Retrace.Proofs.Diagnosis

/-!
# The counters account for the calls

A session counts what it asks of its engine, and the counts are exact. A navigation that answers
counts the steps from the nearest entry to where it led, one call for each; one more call, which it
does not count, tells of the end of execution, and that happens once in the life of a session. A
verification counts every call that is answered. A command that fails at the engine leaves the one
call uncounted that failed, and a navigation that fails is not counted at all. So if no command
fails, then the counters and the knowledge of the end add up to all calls ever made.

## Main definitions

* `Recheck.failures`, `Recheck.Accounted` — the calls of a re-execution are those that it counts,
  and one more if the engine failed.
* `Session.accounted` — the calls that a session knows of.

## Main statements

* `Session.perform_logged_from` — a command adds its calls to whatever was logged before.
* `Waypoint.Stop.short_iff` — a replay stops short of its target exactly if it tells of an end.
* `Session.navigation_counts`, `Session.verification_counts` — what the two kinds of commands count.
* `Session.perform_accounted`, `Session.performAll_accounted` — no call of a command that answers is
  lost.

What is load-bearing is that a replay which is told of an end was walking towards an unknown one: a
known end limits the target, and at the target the engine is not asked.
-/

namespace Retrace

universe u v w

variable {σ : Type w} {τ : Type u} {ε : Type v}

/-! ### Logs that go on -/

namespace Session

variable [BEq τ]

/-- **A command adds its calls to the log,** and is the same command. -/
theorem perform_logged_from (e : Engine σ τ ε) (s : Session τ) (engine : σ)
    (log : List (τ × Reply τ ε)) (c : Command) :
    s.perform e.logged (engine, log) c =
      { answer := (s.perform e engine c).answer
        session := (s.perform e engine c).session
        engine := ((s.perform e engine c).engine, log ++ s.calls e engine c) } := by
  have fresh := s.perform_view (e.logged_mimics_from log) (engine, []) c
  rw [List.append_nil] at fresh
  rw [← fresh, ← s.perform_logged e engine c]
  rfl

end Session

/-! ### Navigations -/

/-- **A replay stops short of its target exactly if it tells of an end** that was unknown. -/
theorem Waypoint.Stop.short_iff [BEq τ] {e : Engine σ τ ε} {target : Nat} {w : Waypoint σ τ}
    {h h₀ : History τ} {engine : σ}
    (stop : w.Stop e target ⟨.ok (w.index, w.state), h, engine⟩) (route : w.EnRoute h₀ target) :
    w.index < target ↔ h₀.terminal = none ∧ h.terminal.isSome := by
  cases stop with
  | arrived there =>
    constructor
    · intro short
      omega
    · rintro ⟨unknown, known⟩
      rw [route.terminal, unknown] at known
      cases known
  | ended before _ accepted =>
    obtain ⟨unrivalled, -, rfl⟩ := History.markTerminal_eq_ok_iff.1 accepted
    refine iff_of_true before ⟨Option.eq_none_iff_forall_not_mem.2 fun t known => ?_, rfl⟩
    -- a known end would be at the target or later, and not here
    have within := route.within t known
    have here := (History.endConflict?_eq_none_iff.1 unrivalled).1 t (route.terminal.trans known)
    omega

namespace Session

variable [BEq τ] {e : Engine σ τ ε} {s : Session τ} {engine : σ} {c : Command}

/-- **What a navigation counts** that answers: the steps from the nearest entry. It makes a call for
each, and one more if it has come upon the end of execution. -/
theorem navigation_counts {k : Nat} (requested : s.requested? c = some k) {visit : Visit τ}
    (answered : (s.perform e engine c).answer = .ok (.visit visit)) :
    ∃ replayed, (s.history.nearest (s.history.clamp k)).index + replayed = visit.index ∧
      (s.perform e engine c).session.stats = s.stats.recordNavigation replayed ∧
      (s.calls e engine c).length = replayed +
        if s.terminal = none ∧ (s.perform e engine c).session.terminal.isSome then 1 else 0 := by
  rw [← s.perform_logged, perform_of_requested e.logged requested] at answered ⊢
  have landed : (s.navigate e.logged k (engine, [])).answer = .ok visit :=
    map_visit_eq_ok.1 answered
  cases poisoned : s.poisoned with
  | some i =>
    rw [navigate_of_poisoned e.logged poisoned] at landed
    cases landed
  | none =>
    obtain ⟨w, walk, lands, made⟩ := s.perform_calls e poisoned requested engine
    have route := enRoute_of_passes walk
    have length := made.length_eq
    have start := route.start_le
    show ∃ replayed, _ ∧ (s.navigate e.logged k (engine, [])).session.stats = _ ∧ _ = replayed +
      if s.terminal = none ∧ (s.navigate e.logged k (engine, [])).session.terminal.isSome then 1
      else 0
    generalize s.navigate e.logged k (engine, []) = o at lands landed ⊢
    cases lands with
    | @stopped setback => cases setback <;> cases landed
    | refused => cases landed
    | @moved h h' _ stop pinned =>
      obtain rfl := Except.ok.inj landed
      obtain ⟨-, rfl⟩ := History.pin_eq_ok_iff.1 pinned
      have ends : w.index < s.history.clamp k ↔ s.terminal = none ∧
          ((h.hold w.index w.state).moveCursor w.index).terminal.isSome := by
        rw [History.moveCursor_terminal, History.hold_terminal]
        exact stop.short_iff route
      refine ⟨w.index - (s.history.nearest (s.history.clamp k)).index, ?_, rfl, ?_⟩
      · exact Nat.add_sub_cancel' start
      · show _ = _ + if s.terminal = none ∧
          ((h.hold w.index w.state).moveCursor w.index).terminal.isSome then 1 else 0
        simp only [← ends]
        omega

/-- **A navigation that fails counts nothing.** -/
theorem stats_of_error (navigation : ∀ upTo, c ≠ .verify upTo) {error : SessionError ε}
    (failed : (s.perform e engine c).answer = .error error) :
    (s.perform e engine c).session.stats = s.stats := by
  have done := s.perform_comesTo e engine c
  generalize s.perform e engine c = o at done failed ⊢
  cases done with
  | @navigated _ k =>
    rw [map_answer_eq_error] at failed
    show (s.navigate e k engine).session.stats = s.stats
    cases poisoned : s.poisoned with
    | some i => rw [navigate_of_poisoned e poisoned]
    | none =>
      obtain ⟨w, -, lands⟩ := s.navigate_lands e poisoned k engine
      generalize s.navigate e k engine = o at lands failed ⊢
      cases lands with
      | stopped => rw [conclude_stats]
      | refused => rw [conclude_stats]
      | moved => cases failed
  | overflowed | told => rfl
  | verified upTo => exact absurd rfl (navigation upTo)

end Session

/-! ### Verifications -/

namespace Recheck

/-- How many calls the engine failed: none, or the last one. -/
def failures (r : Recheck σ τ ε) : Nat :=
  match r.found with
  | .error (.failed _) => 1
  | _ => 0

/-- **The calls of a re-execution are accounted for:** it counts them all, except one that the
engine failed. -/
def Accounted (r : Recheck (σ × List (τ × Reply τ ε)) τ ε) : Prop :=
  r.engine.2.length = r.answered + r.failures

theorem failures_eq_one {r : Recheck σ τ ε} {error : ε}
    (failed : r.found = .error (.failed error)) : r.failures = 1 := by
  rw [failures, failed]

theorem failures_eq_zero {r : Recheck σ τ ε}
    (unfailed : ∀ error, r.found ≠ .error (.failed error)) : r.failures = 0 := by
  unfold failures
  split
  · next error failed => exact absurd failed (unfailed error)
  · rfl

/-- **Every re-execution is accounted for,** also where it asks about a known end. -/
theorem Calls.accounted {r : Recheck (σ × List (τ × Reply τ ε)) τ ε} {limit : Nat} {h : History τ}
    {e : Engine σ τ ε} (made : r.Calls limit) : (h.recheckEnd e.logged r).Accounted := by
  cases made with
  | @arrived checked x s rewrites length =>
    simp only [History.recheckEnd]
    split
    · simp only [Engine.logged]
      have longer : ∀ reply : Reply τ ε, (rewrites ++ [(x, reply)]).length = limit + 1 := by
        intro reply
        rw [List.length_append, length, List.length_singleton]
      rcases e.advance x s with ⟨reply, s'⟩
      cases reply <;> exact longer _
    · exact length
  | ended | failed => exact List.length_append
  | differs => rfl

end Recheck

namespace Session

variable [BEq τ] {e : Engine σ τ ε} {s : Session τ} {engine : σ} {c : Command}

omit [BEq τ] in
/-- A verification fails at the engine exactly if its re-execution does. -/
theorem Ends.answer_eq_engine_iff {r : Recheck σ τ ε} {o : Outcome σ τ ε Verification}
    (ends : s.Ends r o) (error : ε) :
    o.answer = .error (.engine error) ↔ r.found = .error (.failed error) := by
  cases ends with
  | @stopped setback found =>
    rw [found]
    cases setback <;> simp [conclude]
  | refused found => simp [found, conclude]
  | reported found => simp [found]

/-- **What a verification counts,** however it ends: the calls that were answered. -/
theorem verification_counts (e : Engine σ τ ε) (s : Session τ) (engine : σ) (upTo : Nat) :
    ∃ answered, (s.verify e upTo engine).session.stats = s.stats.recordVerification answered ∧
      ((∃ error, (s.verify e upTo engine).answer = .error (.engine error)) →
        (s.calls e engine (.verify upTo)).length = answered + 1) ∧
      ((∀ error, (s.verify e upTo engine).answer ≠ .error (.engine error)) →
        (s.calls e engine (.verify upTo)).length = answered) := by
  cases poisoned : s.poisoned with
  | some i =>
    rw [verify_of_poisoned e poisoned, calls_of_poisoned e poisoned]
    exact ⟨0, rfl, nofun, fun _ => rfl⟩
  | none =>
    have accounted : (s.rechecked e.logged upTo (engine, [])).Accounted :=
      (s.recheck_calls e upTo engine).accounted
    have ends := s.verify_ends e.logged poisoned upTo (engine, [])
    rw [calls_verify poisoned, ← s.verify_logged]
    have same := ends.answer_eq_engine_iff
    refine ⟨(s.rechecked e.logged upTo (engine, [])).answered, ?_, ?_, ?_⟩
    · show (s.verify e.logged upTo (engine, [])).session.stats = _
      generalize s.verify e.logged upTo (engine, []) = o at ends ⊢
      cases ends with
      | stopped => rw [conclude_stats]
      | refused => rw [conclude_stats]
      | reported => rfl
    · rintro ⟨error, failed⟩
      rwa [Recheck.Accounted, Recheck.failures_eq_one ((same error).1 failed)] at accounted
    · intro unfailed
      have answered := Recheck.failures_eq_zero fun error failed =>
        unfailed error ((same error).2 failed)
      rwa [Recheck.Accounted, answered] at accounted

/-! ### Runs -/

omit [BEq τ] in
/-- **The calls that a session knows of:** those it counted, and the one that told of the end. -/
def accounted (s : Session τ) : Nat :=
  s.stats.replayedSteps + s.stats.verifiedSteps + if s.terminal.isSome then 1 else 0

/-- A command that requests an index answers with a visit, if it answers. -/
theorem exists_visit_of_requested {k : Nat} (requested : s.requested? c = some k)
    {answer : Answer τ} (answered : (s.perform e engine c).answer = .ok answer) :
    ∃ visit, answer = .visit visit := by
  rw [perform_of_requested e requested] at answered
  change (s.navigate e k engine).answer.map Answer.visit = .ok answer at answered
  cases landed : (s.navigate e k engine).answer with
  | ok visit =>
    rw [landed] at answered
    exact ⟨visit, (Except.ok.inj answered).symm⟩
  | error error =>
    rw [landed] at answered
    cases answered

/-- **No call of a command that answers is lost.** -/
theorem perform_accounted {answer : Answer τ}
    (answered : (s.perform e engine c).answer = .ok answer) :
    (s.perform e engine c).session.accounted = s.accounted + (s.calls e engine c).length := by
  cases requested : s.requested? c with
  | some k =>
    obtain ⟨visit, rfl⟩ := exists_visit_of_requested requested answered
    obtain ⟨replayed, -, stats, length⟩ := navigation_counts requested answered
    rw [accounted, accounted, stats, length]
    cases unknown : s.terminal with
    | some t =>
      -- the end that was known is known still
      have known : (s.perform e engine c).session.terminal = some t :=
        perform_history (History.terminal_invariant t) unknown c
      simp only [Stats.recordNavigation, known, Option.isSome_some, if_true, reduceCtorEq,
        false_and, if_false]
      omega
    | none =>
      simp only [Stats.recordNavigation, true_and, Option.isSome_none, Bool.false_eq_true, if_false]
      omega
  | none =>
    cases c with
    | step n =>
      rw [perform_step_of_requested_none e requested] at answered
      cases answered
    | position => rfl
    | verify upTo =>
      obtain ⟨n, stats, -, length⟩ := s.verification_counts e engine upTo
      have unfailed : ∀ error, (s.verify e upTo engine).answer ≠ .error (.engine error) := by
        intro error failed
        rw [perform, map_answer_eq_error.2 failed] at answered
        cases answered
      have terminal : (s.verify e upTo engine).session.terminal = s.terminal :=
        congrArg History.terminal (s.verify_frame e upTo engine).1
      show (s.verify e upTo engine).session.accounted = _
      rw [accounted, accounted, stats, terminal, length unfailed]
      simp only [Stats.recordVerification]
      omega
    | back | jump | resume => cases requested

/-- **In a run without a failed command every call is accounted for.** -/
theorem performAll_accounted {cs : List Command} (log : List (τ × Reply τ ε))
    (answered : ∀ answer ∈ (s.performAll e engine cs).answers, ∃ a, answer = .ok a) :
    (s.performAll e.logged (engine, log) cs).engine.2.length + s.accounted =
      log.length + (s.performAll e engine cs).session.accounted := by
  induction cs generalizing s engine log with
  | nil => rfl
  | cons c rest ih =>
    rw [performAll_cons] at answered
    obtain ⟨a, first⟩ := answered _ List.mem_cons_self
    have others := ih (log ++ s.calls e engine c)
      fun answer listed => answered answer (List.mem_cons_of_mem _ listed)
    rw [List.length_append, perform_accounted first] at others
    rw [performAll_cons, performAll_cons, perform_logged_from]
    dsimp only
    omega

/-- **The counters account for every call.** For every engine, every equality of terms and every
run, whatever command comes next:

* a command that requests an index and answers counts one navigation, which replayed the steps from
  the greatest index recorded at or before its target, limited by a known end, to the index of the
  visit; it is a hit if there are none; and it makes one call for each of them, and one more if the
  end of execution has become known by it;
* a command other than a verification that fails counts nothing;
* a verification counts its calls as verified steps, except the one that failed if it fails at the
  engine, and nothing else.

So if no command of the run failed, then the calls of the whole run are the steps replayed and
verified, and one more if the end of execution is known. -/
theorem counters_account_for_calls (e : Engine σ τ ε) (initial : τ) (config : Config) (engine : σ)
    (cs : List Command) :
    let run := (start initial config).performAll e engine cs
    let log := ((start initial config).performAll e.logged (engine, []) cs).engine.2
    let s := run.session
    (∀ c k visit, s.requested? c = some k →
      let after := s.perform e run.engine c
      after.answer = .ok (.visit visit) →
        ∃ nearest replayed,
          IsGreatest {i | i ∈ s.history.entries.map Prod.fst ∧ i ≤ s.history.clamp k} nearest ∧
          nearest + replayed = visit.index ∧
          after.session.stats =
            { s.stats with
              navigations := s.stats.navigations + 1
              cacheHits := if replayed = 0 then s.stats.cacheHits + 1 else s.stats.cacheHits
              replayedSteps := s.stats.replayedSteps + replayed
              lastReplay := replayed } ∧
          (s.calls e run.engine c).length =
            replayed + if s.terminal = none ∧ after.session.terminal.isSome then 1 else 0) ∧
    (∀ c error, (∀ upTo, c ≠ .verify upTo) → (s.perform e run.engine c).answer = .error error →
      (s.perform e run.engine c).session.stats = s.stats) ∧
    (∀ upTo, ∃ answered,
      let after := s.verify e upTo run.engine
      let calls := s.calls e run.engine (.verify upTo)
      after.session.stats = { s.stats with verifiedSteps := s.stats.verifiedSteps + answered } ∧
      ((∃ error, after.answer = .error (.engine error)) → calls.length = answered + 1) ∧
      ((∀ error, after.answer ≠ .error (.engine error)) → calls.length = answered)) ∧
    ((∀ answer ∈ run.answers, ∃ a, answer = .ok a) →
      log.length =
        s.stats.replayedSteps + s.stats.verifiedSteps + if s.terminal.isSome then 1 else 0) := by
  intro run log s
  refine ⟨?_, fun c error navigation failed => stats_of_error navigation failed,
    s.verification_counts e run.engine, ?_⟩
  · intro c k visit requested after answered
    obtain ⟨replayed, reached, stats, length⟩ := navigation_counts requested answered
    refine ⟨(s.history.nearest (s.history.clamp k)).index, replayed, ⟨⟨?_, ?_⟩, ?_⟩, reached,
      stats, length⟩
    · refine Timeline.isSome_get?_iff.1 ?_
      rw [s.history.nearest_recorded]
      rfl
    · exact s.history.timeline.nearest_le _
    · rintro i ⟨listed, within⟩
      obtain ⟨entry, recorded, rfl⟩ := List.mem_map.1 listed
      exact Timeline.le_nearest recorded within
  · intro answered
    have balance : log.length + (start initial config).accounted = 0 + s.accounted :=
      performAll_accounted [] answered
    have fresh : (start initial config).accounted = 0 := rfl
    rw [fresh, Nat.zero_add, Nat.add_zero] at balance
    exact balance

/-- A countdown from three is stepped through, with checkpoints at the even indices: two calls to
index two, two more to find out that index three is the end, none to go back, and four to verify
everything, of which the last asks about the end again. A jump to index one then starts at index
zero. -/
theorem counters_account_for_calls_in_countdown :
    let program : Engine Unit Nat String := Engine.ofFn countdown
    let cs := [Command.jump 2, .step 9, .back 1, .verify 9]
    let run := (start 3 { retention := .checkpoints 2 }).performAll program () cs
    let log :=
      ((start 3 { retention := .checkpoints 2 }).performAll program.logged ((), []) cs).engine.2
    run.session.stats = ⟨3, 1, 3, 4, 0⟩ ∧ log.length = 3 + 4 + 1 ∧
      ∃ nearest replayed,
        IsGreatest {i | i ∈ [0, 2, 3] ∧ i ≤ 1} nearest ∧ nearest + replayed = 1 ∧
        (run.session.perform program run.engine (.jump 1)).session.stats = ⟨4, 1, 4, 4, 1⟩ ∧
        (run.session.calls program run.engine (.jump 1)).length = replayed := by
  obtain ⟨navigation, -, -, whole⟩ := counters_account_for_calls
    (Engine.ofFn countdown : Engine Unit Nat String) 3 { retention := .checkpoints 2 } ()
    [.jump 2, .step 9, .back 1, .verify 9]
  obtain ⟨nearest, replayed, greatest, reached, -, length⟩ :=
    navigation (.jump 1) 1 ⟨2, 1, 1, false⟩ rfl rfl
  have answers : ((start 3 { retention := .checkpoints 2 }).performAll
      (Engine.ofFn countdown : Engine Unit Nat String) ()
      [.jump 2, .step 9, .back 1, .verify 9]).answers =
      [.ok (.visit ⟨1, 2, 2, false⟩), .ok (.visit ⟨0, 3, 11, true⟩), .ok (.visit ⟨1, 2, 2, false⟩),
        .ok (.report ⟨2, 3, true⟩)] := rfl
  have answered := whole (by rw [answers]; simp)
  dsimp only
  exact ⟨rfl, answered, nearest, replayed, greatest, reached, rfl, length⟩

end Session

end Retrace
