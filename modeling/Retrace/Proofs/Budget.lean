import Retrace.Proofs.Fidelity
import Retrace.Proofs.Repetition

/-!
# What a forward command costs

A command that moves forward does not pay for the past. The entry at the cursor is recorded and no
further than a known end of execution, so a replay that leads forward starts there or later, however
sparse the record is otherwise. A step by `n` therefore makes no more than `n` calls, and a run
forward no more than its limit. Over a pure engine runs forward add up: each begins where the one
before ended, so that many of them come as far as one of the whole length.

## Main statements

* `Session.Anchored.le_nearest` — no forward replay starts before the cursor.
* `Session.Anchored.forward` — how many calls a forward command makes.
* `Session.navigate_arrives` — a visit is at the index requested, or at the end of execution.
* `Session.Faithful.resume`, `Session.Faithful.resumes` — where a run forward leads, and where many
  of them do.
* `Session.forward_commands_stay_in_budget` — all of it, for every reachable session.

Indices stop at the largest one. That is where an unlimited run forward leads, and it is why a run
of jumps to step indices is asked for: from an index past the largest one no command would lead
forward.
-/

namespace Retrace

universe u v w

variable {σ : Type w} {τ : Type u} {ε : Type v}

/-- **Direct execution in two parts.** If a first budget ended it, then whatever budget is large
enough to come there again and is the whole one in case the first was spent makes as many steps as
the whole one. -/
theorem Finishes.steps_of_rest {f : τ → Reply τ ε} {x : τ} {first rest total : Nat}
    {d₁ d₂ d : Execution τ} (h : Finishes f x first (.ok d₁)) (le : first ≤ total)
    (h' : Finishes f x rest (.ok d₂)) (again : d₁.steps ≤ rest)
    (spent : d₁.steps = first → rest = total) (whole : Finishes f x total (.ok d)) :
    d₂.steps = d.steps := by
  rcases Nat.lt_or_eq_of_le h.steps_le with short | full
  · have halts : Halts f x d₁.steps := (h.terminated_iff.1 ⟨h.lt_iff.1 short, rfl⟩).1
    have steps₂ := h'.steps_eq.1 _ halts
    have steps := whole.steps_eq.1 _ halts
    omega
  · rw [spent full] at h'
    rw [Except.ok.inj (h'.unique whole)]

namespace Session

/-! ### What forward commands request -/

section

variable {s : Session τ} {n k : Nat}

theorem requested?_resume (s : Session τ) :
    s.requested? .resume =
      some (min (s.current + s.config.resumeLimit.getD Index.maxIndex) Index.maxIndex) := rfl

/-- A step by `n` requests an index at the cursor or later, and at most `n` further on. -/
theorem forward_of_requested?_step (bounded : s.current ≤ Index.maxIndex)
    (requested : s.requested? (.step n) = some k) : s.current ≤ k ∧ k ≤ s.current + n := by
  rw [requested?] at requested
  split at requested
  · obtain rfl := Option.some.inj requested
    omega
  · split at requested
    · obtain rfl := Option.some.inj requested
      omega
    · cases requested

/-- **No command requests more than the largest index,** if no jump does. -/
theorem requested?_le {c : Command} (bounded : s.current ≤ Index.maxIndex)
    (jumps : ∀ i, c = .jump i → i ≤ Index.maxIndex) (requested : s.requested? c = some k) :
    k ≤ Index.maxIndex := by
  cases c with
  | step n =>
    rw [requested?] at requested
    split at requested
    · next within => exact Option.some.inj requested ▸ within
    · split at requested
      · exact Nat.le_of_eq (Option.some.inj requested).symm
      · cases requested
  | back n =>
    obtain rfl := Option.some.inj requested
    exact Nat.le_trans (Nat.sub_le _ _) bounded
  | jump i =>
    obtain rfl := Option.some.inj requested
    exact jumps i rfl
  | resume =>
    obtain rfl := Option.some.inj requested
    exact Nat.min_le_right _ _
  | position | verify => cases requested

/-! ### Forward replays -/

/-- **No forward replay starts before the cursor.** -/
theorem Anchored.le_nearest (anchored : s.Anchored) (wf : s.history.WellFormed)
    (forward : s.current ≤ k) : s.current ≤ (s.history.nearest (s.history.clamp k)).index := by
  have within : s.current ≤ s.history.clamp k :=
    History.le_clamp_iff.2 ⟨forward, fun t known => wf.bounded t known _ _ anchored.recorded⟩
  exact Timeline.le_nearest (Timeline.get?_eq_some_iff.1 anchored.recorded) within

variable [BEq τ]

/-- **A forward command does not pay for the past:** its replay starts at the cursor or later, and
it makes no more calls than it asks for steps. -/
theorem Anchored.forward (anchored : s.Anchored) (wf : s.history.WellFormed) (e : Engine σ τ ε)
    (engine : σ) {c : Command} (requested : s.requested? c = some k) (forward : s.current ≤ k)
    (within : k ≤ s.current + n) :
    (∀ first, s.ancestor? c = some first → s.current ≤ first) ∧
      (s.calls e engine c).length ≤ n := by
  have start := anchored.le_nearest wf forward
  constructor
  · intro first ancestor
    rw [ancestor?, requested] at ancestor
    exact Option.some.inj ancestor ▸ start
  · have made := s.length_calls_le e requested engine
    have limited := s.history.clamp_le k
    omega

/-- So does a step, also one that requests no index. -/
theorem Anchored.forward_step (anchored : s.Anchored) (wf : s.history.WellFormed)
    (bounded : s.current ≤ Index.maxIndex) (e : Engine σ τ ε) (engine : σ) (n : Nat) :
    (∀ first, s.ancestor? (.step n) = some first → s.current ≤ first) ∧
      (s.calls e engine (.step n)).length ≤ n := by
  cases requested : s.requested? (.step n) with
  | some k =>
    obtain ⟨ahead, within⟩ := forward_of_requested?_step bounded requested
    exact anchored.forward wf e engine requested ahead within
  | none =>
    constructor
    · intro first ancestor
      rw [ancestor?, requested] at ancestor
      cases ancestor
    · rw [calls, perform_step_of_requested_none e.logged requested]
      exact Nat.zero_le n

end

/-! ### Where navigations lead -/

variable [BEq τ] {e : Engine σ τ ε} {s : Session τ} {engine : σ} {k : Nat}

/-- **A visit is at the index requested, or at the end of execution.** -/
theorem navigate_arrives {visit : Visit τ} (landed : (s.navigate e k engine).answer = .ok visit) :
    visit.terminated = true ∨ visit.index = k := by
  have there := navigate_clamp landed
  rw [navigate_visit landed]
  rcases History.clamp_eq_or (s.navigate e k engine).session.history k with
    same | ⟨t, known, limited, -⟩
  · exact .inr (there.symm.trans same)
  · refine .inl (beq_iff_eq.2 ?_)
    rw [← there, limited]
    exact known

/-- A navigation leads no further than the index requested, or leaves the cursor where it is. -/
theorem navigate_current_le {bound : Nat} (before : s.current ≤ bound) (request : k ≤ bound) :
    (s.navigate e k engine).session.current ≤ bound := by
  cases poisoned : s.poisoned with
  | some i =>
    rw [navigate_of_poisoned e poisoned]
    exact before
  | none =>
    obtain ⟨w, walk, lands⟩ := s.navigate_lands e poisoned k engine
    have route := enRoute_of_passes walk
    generalize s.navigate e k engine = o at lands ⊢
    cases lands with
    | stopped =>
      rw [conclude_current]
      exact before
    | refused => exact before
    | moved =>
      calc w.index ≤ s.history.clamp k := route.index_le
        _ ≤ k := s.history.clamp_le k
        _ ≤ bound := request

/-- **The cursor stays within the step indices,** if jumps do. -/
theorem performAll_current_le {cs : List Command}
    (jumps : ∀ i, Command.jump i ∈ cs → i ≤ Index.maxIndex) (bounded : s.current ≤ Index.maxIndex) :
    (s.performAll e engine cs).session.current ≤ Index.maxIndex := by
  induction cs generalizing s engine with
  | nil => exact bounded
  | cons c rest ih =>
    rw [performAll_cons]
    refine ih (fun i listed => jumps i (List.mem_cons_of_mem c listed)) ?_
    have done := s.perform_comesTo e engine c
    generalize s.perform e engine c = o at done ⊢
    cases done with
    | navigated requested =>
      refine navigate_current_le bounded (requested?_le bounded ?_ requested)
      rintro i rfl
      exact jumps i List.mem_cons_self
    | overflowed | told => exact bounded
    | verified upTo =>
      show (s.verify e upTo engine).session.current ≤ Index.maxIndex
      rw [(s.verify_frame e upTo engine).2.1]
      exact bounded

/-- No command changes the configuration. -/
theorem perform_config (e : Engine σ τ ε) (s : Session τ) (engine : σ) (c : Command) :
    (s.perform e engine c).session.config = s.config := by
  refine perform_preserves (I := fun s' _ => s'.config = s.config) ?_ ?_ rfl c
  · intro s' engine' k _ same
    rw [navigate_config, same]
  · intro s' engine' upTo _ same
    rw [(s'.verify_frame e upTo engine').2.2.2, same]

/-- Nor does any run. -/
theorem performAll_config (e : Engine σ τ ε) (s : Session τ) (engine : σ) (cs : List Command) :
    (s.performAll e engine cs).session.config = s.config := by
  refine performAll_preserves (I := fun s' _ => s'.config = s.config) ?_ rfl cs
  intro s' engine' c same
  rw [perform_config, same]

/-! ### Runs forward -/

variable [ReflBEq τ] {f : τ → Reply τ ε} {initial : τ}

/-- **A run forward leads where direct execution within its limit ends,** and answers. -/
theorem Faithful.resume (pure : e.AnswersBy f) (faithful : s.Faithful f initial) {d : Execution τ}
    (finishes : Finishes f initial
      (min (s.current + s.config.resumeLimit.getD Index.maxIndex) Index.maxIndex) (.ok d))
    (engine : σ) :
    (∃ visit, (s.perform e engine .resume).answer = .ok (.visit visit)) ∧
      (s.perform e engine .resume).session.current = d.steps := by
  obtain ⟨answer, facade⟩ := s.navigate_finishes pure faithful finishes engine
  rw [perform_of_requested e s.requested?_resume]
  exact ⟨⟨_, map_visit_eq_ok.2 answer⟩, congrArg Facade.current facade⟩

/-- **Runs forward add up.** So many of them in a row come as far as direct execution within their
limits together, and all of them answer. -/
theorem Faithful.resumes (pure : e.AnswersBy f) (faithful : s.Faithful f initial)
    (bounded : s.current ≤ Index.maxIndex) (m : Nat) {d : Execution τ}
    (finishes : Finishes f initial
      (min (s.current + m * s.config.resumeLimit.getD Index.maxIndex) Index.maxIndex) (.ok d))
    (engine : σ) :
    let resumed := s.performAll e engine (List.replicate m .resume)
    (∀ answer ∈ resumed.answers, ∃ visit, answer = .ok (.visit visit)) ∧
      resumed.session.current = d.steps := by
  induction m generalizing s engine d with
  | zero =>
    have here : Finishes f initial s.current (.ok ⟨s.cursor, s.current, false⟩) :=
      .spent faithful.grounded.cursor
    rw [Nat.zero_mul, Nat.add_zero, Nat.min_eq_left bounded] at finishes
    obtain rfl := Except.ok.inj (here.unique finishes)
    exact ⟨nofun, rfl⟩
  | succ m ih =>
    let limit := s.config.resumeLimit.getD Index.maxIndex
    have product : (m + 1) * limit = m * limit + limit := Nat.succ_mul m limit
    -- the first run forward ends where its own limit or execution does
    have first_le : min (s.current + limit) Index.maxIndex ≤
        min (s.current + (m + 1) * limit) Index.maxIndex := by omega
    obtain ⟨d₁, finishes₁⟩ := finishes.exists_ok_of_le first_le
    obtain ⟨answered, current₁⟩ := faithful.resume pure finishes₁ engine
    have short := finishes₁.steps_le
    -- the others end where the whole does
    have rest_le : min (d₁.steps + m * limit) Index.maxIndex ≤
        min (s.current + (m + 1) * limit) Index.maxIndex := by omega
    obtain ⟨d₂, finishes₂⟩ := finishes.exists_ok_of_le rest_le
    have steps : d₂.steps = d.steps :=
      finishes₁.steps_of_rest first_le finishes₂ (by omega) (by omega) finishes
    have faithful₁ := perform_faithful pure faithful engine .resume
    have onward : Finishes f initial
        (min ((s.perform e engine .resume).session.current +
          m * (s.perform e engine .resume).session.config.resumeLimit.getD Index.maxIndex)
          Index.maxIndex) (.ok d₂) := by
      rwa [current₁, perform_config]
    obtain ⟨answers, current⟩ :=
      ih faithful₁ (by omega) onward (s.perform e engine .resume).engine
    rw [List.replicate_succ, performAll_cons]
    refine ⟨?_, current.trans steps⟩
    intro given listed
    rcases List.mem_cons.1 listed with rfl | later
    · exact answered
    · exact answers given later

omit [ReflBEq τ] in
/-- **Forward commands stay in their budget.** For every engine, every equality of terms and every
run whose jumps are to step indices: the replay of a step or of a run forward starts at the cursor
or later; a step by `n` makes at most `n` calls, and a run forward at most as many as its limit; and
if a run forward answers, then it is at the end of execution, or as far on as its limit allows,
which without a limit is the largest index.

If the engine is pure, does not fail on the way and terms equal themselves, then `m` runs forward in
a row all answer, and end where execution halts or as far on as `m` times the limit allows,
whichever comes first, with the term that direct execution has there. -/
theorem forward_commands_stay_in_budget (e : Engine σ τ ε) (initial : τ) (config : Config)
    (engine : σ) (cs : List Command) :
    let run := (start initial config).performAll e engine cs
    let s := run.session
    let limit := config.resumeLimit.getD Index.maxIndex
    (∀ i, Command.jump i ∈ cs → i ≤ Index.maxIndex) →
      (∀ n, (∀ first, s.ancestor? (.step n) = some first → s.current ≤ first) ∧
        (s.calls e run.engine (.step n)).length ≤ n) ∧
      ((∀ first, s.ancestor? .resume = some first → s.current ≤ first) ∧
        (s.calls e run.engine .resume).length ≤ limit) ∧
      (∀ visit, (s.perform e run.engine .resume).answer = .ok (.visit visit) →
        (visit.terminated = true ∨ visit.index = min (s.current + limit) Index.maxIndex) ∧
        (config.resumeLimit = none → visit.terminated = true ∨ visit.index = Index.maxIndex)) ∧
      ∀ f, e.AnswersBy f → (∀ x : τ, (x == x) = true) → ∀ m,
        let target := min (s.current + m * limit) Index.maxIndex
        let resumed := s.performAll e run.engine (List.replicate m .resume)
        let after := resumed.session
        (∀ error, (e.run target initial engine).1 ≠ .error error) →
          (∀ answer ∈ resumed.answers, ∃ visit, answer = .ok (.visit visit)) ∧
          (∀ t, e.HaltsAt initial engine t → after.current = min target t) ∧
          ((∀ t, ¬ e.HaltsAt initial engine t) → after.current = target) ∧
          (e.run after.current initial engine).1 = .ok ⟨after.cursor, after.current, false⟩ := by
  intro run s limit jumps
  have anchored : s.Anchored := performAll_anchored e initial config engine cs
  have wf : s.history.WellFormed := performAll_wellFormed e initial config engine cs
  have bounded : s.current ≤ Index.maxIndex := performAll_current_le jumps (Nat.zero_le _)
  have hlimit : s.config.resumeLimit.getD Index.maxIndex = limit := by
    rw [show s.config = config from performAll_config e (start initial config) engine cs]
  have resumes : s.requested? .resume = some (min (s.current + limit) Index.maxIndex) := by
    rw [requested?_resume, hlimit]
  have forward : s.current ≤ min (s.current + limit) Index.maxIndex :=
    Nat.le_min.2 ⟨Nat.le_add_right _ _, bounded⟩
  refine ⟨anchored.forward_step wf bounded e run.engine,
    anchored.forward wf e run.engine resumes forward (Nat.min_le_left _ _), ?_, ?_⟩
  · intro visit answered
    rw [perform_of_requested e resumes] at answered
    have arrives := navigate_arrives (map_visit_eq_ok.1 answered)
    refine ⟨arrives, fun unlimited => ?_⟩
    have most : limit = Index.maxIndex := by
      show config.resumeLimit.getD Index.maxIndex = Index.maxIndex
      rw [unlimited, Option.getD_none]
    rwa [most, Nat.min_eq_right (Nat.le_add_left _ _)] at arrives
  · intro f pure reflexive m target resumed after unfailing
    have : ReflBEq τ := ⟨reflexive _⟩
    have faithful : s.Faithful f initial :=
      performAll_faithful pure (start_faithful f initial config) engine cs
    have finishes := Engine.run_finishes pure target initial engine
    cases ended : (e.run target initial engine).1 with
    | error error => exact absurd ended (unfailing error)
    | ok d =>
      rw [ended] at finishes
      obtain ⟨answers, current⟩ : _ ∧ after.current = d.steps :=
        faithful.resumes pure bounded m (by rwa [hlimit]) run.engine
      have faithful' : after.Faithful f initial := performAll_faithful pure faithful run.engine _
      refine ⟨answers, ?_, ?_, ?_⟩
      · intro t halts
        rw [current]
        exact finishes.steps_eq.1 t ((Engine.haltsAt_iff pure).1 halts)
      · intro endless
        rw [current]
        exact finishes.steps_eq.2 fun t halts => endless t ((Engine.haltsAt_iff pure).2 halts)
      · exact (Engine.run_eq_iff pure).2 (.spent faithful'.grounded.cursor)

/-- Three runs forward by two steps, from index one of a countdown from five. They would come to
index seven, and end at index five, where the countdown does. The first of them starts at the
cursor, although the last checkpoint is at index zero. -/
theorem forward_commands_stay_in_budget_in_countdown :
    let config : Config := { retention := .checkpoints 3, resumeLimit := some 2 }
    let program : Engine Unit Nat String := Engine.ofFn countdown
    let run := (start 5 config).performAll program () [.jump 1]
    let s := run.session
    let resumed := s.performAll program run.engine (List.replicate 3 .resume)
    s.ancestor? .resume = some 1 ∧ (s.calls program run.engine .resume).length ≤ 2 ∧
      (∀ visit, (s.perform program run.engine .resume).answer = .ok (.visit visit) →
        visit.terminated = true ∨ visit.index = 3) ∧
      resumed.answers =
        [.ok (.visit ⟨2, 3, 3, false⟩), .ok (.visit ⟨0, 5, 5, false⟩),
          .ok (.visit ⟨0, 5, 7, true⟩)] ∧
      resumed.session.current = min 7 5 ∧
      (program.run resumed.session.current 5 ()).1 =
        .ok ⟨resumed.session.cursor, resumed.session.current, false⟩ := by
  have jumps : ∀ i, Command.jump i ∈ [Command.jump 1] → i ≤ Index.maxIndex := by
    intro i listed
    rw [Command.jump.inj (List.mem_singleton.1 listed)]
    decide
  obtain ⟨-, ⟨-, few⟩, arrives, resumes⟩ := forward_commands_stay_in_budget
    (Engine.ofFn countdown : Engine Unit Nat String) 5
    { retention := .checkpoints 3, resumeLimit := some 2 } () [.jump 1] jumps
  obtain ⟨-, halting, -, direct⟩ := resumes countdown (Engine.ofFn_answersBy countdown)
    (fun _ => BEq.rfl) 3 (fun _ => nofun)
  -- with the abbreviations gone no two spellings of the run have to be compared
  dsimp only
  exact ⟨rfl, few, fun visit answered => (arrives visit answered).1, rfl, halting 5 ⟨0, rfl⟩,
    direct⟩

end Session

end Retrace
