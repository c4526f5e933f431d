import Mathlib.Algebra.BigOperators.Group.List.Basic
import Retrace.Proofs.Stepping
import Retrace.Session.Handles

/-!
# Sharing loses nothing

A session behind handles is the session that one holder alone would have, had the same commands
been issued one after another. Handles come and go without a trace on it. So whatever holds of
sequences of commands holds of concurrent holders, and where the order of the commands does not
matter, neither does the schedule.

## Main definitions

* `Shared.Numbered` — live handles have numbers of their own, and new ones get new numbers.
* `Shared.Comes` — what a use of a handle comes to.

## Main statements

* `Shared.use_comes` — every use comes to one of five things.
* `Shared.useAll_performs` — a sequence of uses answers and leaves behind what its commands would.
* `Shared.mem_live_iff` — a handle is live from when it is issued until it is given up.
* `Shared.steps_add_up` — concurrent steps forward add up, and the last holder gets the session.

What is load-bearing for the last holder is that a number is never issued twice: a list of live
handles would otherwise not tell one holder from two.
-/

namespace Retrace

universe u v w z

variable {σ : Type w} {τ : Type u} {ε : Type v} {α : Type z}

namespace Shared

/-! ### Numbers of handles -/

/-- **Live handles are told apart by their numbers,** and all of these were issued. -/
structure Numbered (s : Shared α) : Prop where
  distinct : s.live.Nodup
  issued : ∀ handle ∈ s.live, handle < s.issued

theorem of_numbered (value : α) : (of value).Numbered where
  distinct := List.nodup_singleton 0
  issued handle live := by
    rw [List.mem_singleton.1 live]
    exact Nat.zero_lt_one

namespace Numbered

variable {s : Shared α} {handle : Nat}

theorem clone (numbered : s.Numbered) : s.clone.2.Numbered where
  distinct := by
    refine List.nodup_append.2 ⟨numbered.distinct, List.nodup_singleton _, ?_⟩
    intro old live fresh listed
    rw [List.mem_singleton.1 listed]
    exact Nat.ne_of_lt (numbered.issued old live)
  issued other live := by
    rcases List.mem_append.1 live with old | fresh
    · exact Nat.lt_succ_of_lt (numbered.issued other old)
    · rw [List.mem_singleton.1 fresh]
      exact Nat.lt_succ_self s.issued

theorem drop (numbered : s.Numbered) (handle : Nat) : (s.drop handle).Numbered where
  distinct := numbered.distinct.filter _
  issued other live := numbered.issued other (List.mem_filter.1 live).1

/-- **One live handle** is one number listed once. -/
theorem live_eq_iff (numbered : s.Numbered) (live : handle ∈ s.live) :
    s.live = [handle] ↔ ∀ other ∈ s.live, other = handle := by
  constructor
  · intro only other listed
    rw [only] at listed
    exact List.mem_singleton.1 listed
  · intro only
    have copies : s.live = List.replicate s.live.length handle := List.eq_replicate_of_mem only
    have few : s.live.length ≤ 1 := by
      have distinct := numbered.distinct
      rw [copies] at distinct
      exact List.nodup_replicate.1 distinct
    have some : 0 < s.live.length := List.length_pos_of_mem live
    rwa [Nat.le_antisymm few some] at copies

end Numbered

theorem mem_live_drop {s : Shared α} {handle other : Nat} :
    other ∈ (s.drop handle).live ↔ other ∈ s.live ∧ other ≠ handle := by
  rw [drop, List.mem_filter, bne_iff_ne]

/-! ### One use -/

variable [BEq τ] {e : Engine σ τ ε} {s : Shared (Session τ × σ)} {handle other : Nat}
  {uses : List (Nat × Use)}

/-- **What a use of a handle comes to:** its answer, and what is shared from then on. -/
inductive Comes (e : Engine σ τ ε) (s : Shared (Session τ × σ)) (handle : Nat) :
    Use → Use.Answer σ τ ε × Shared (Session τ × σ) → Prop
  | cloned : Comes e s handle .clone (.issued s.issued, s.clone.2)
  | dropped : Comes e s handle .drop (.dropped, s.drop handle)
  | performed (c : Command) :
      Comes e s handle (.command c)
        (.answered (s.value.1.perform e s.value.2 c).answer,
          { s with
            value := ((s.value.1.perform e s.value.2 c).session,
              (s.value.1.perform e s.value.2 c).engine) })
  | taken (last : s.live = [handle]) :
      Comes e s handle .takeOut (.taken s.value.1 s.value.2, s.drop handle)
  | refused (shared : s.live ≠ [handle]) : Comes e s handle .takeOut (.refused, s)

/-- **Every use comes to one of five things.** -/
theorem use_comes (e : Engine σ τ ε) (s : Shared (Session τ × σ)) (handle : Nat) (use : Use) :
    Comes e s handle use (s.use e handle use) := by
  cases use with
  | clone => exact .cloned
  | drop => exact .dropped
  | command c => exact .performed c
  | takeOut =>
    by_cases last : s.live = [handle]
    · have taken : s.use e handle .takeOut = (.taken s.value.1 s.value.2, s.drop handle) := by
        rw [use, takeOut?, if_pos last]
      rw [taken]
      exact .taken last
    · have refused : s.use e handle .takeOut = (.refused, s) := by
        rw [use, takeOut?, if_neg last]
      rw [refused]
      exact .refused last

theorem Numbered.use (numbered : s.Numbered) (handle : Nat) (use : Use) :
    (s.use e handle use).2.Numbered := by
  have done := s.use_comes e handle use
  generalize s.use e handle use = o at done ⊢
  cases done with
  | cloned => exact numbered.clone
  | dropped | taken => exact numbered.drop handle
  | performed => exact ⟨numbered.distinct, numbered.issued⟩
  | refused => exact numbered

/-- **The session goes to the holder of the only live handle,** and to no other. Who is refused
leaves everything as it is. -/
theorem Numbered.takeOut_iff (numbered : s.Numbered) (live : handle ∈ s.live) :
    ((s.use e handle .takeOut).1 = .taken s.value.1 s.value.2 ↔
        ∀ other ∈ s.live, other = handle) ∧
      (s.use e handle .takeOut = (.refused, s) ↔ ∃ other ∈ s.live, other ≠ handle) := by
  have only_iff := numbered.live_eq_iff live
  have done := s.use_comes e handle .takeOut
  generalize s.use e handle .takeOut = o at done ⊢
  cases done with
  | taken last => simpa using only_iff.1 last
  | refused shared => simpa using mt only_iff.2 shared

/-! ### Sequences of uses -/

theorem Numbered.useAll (numbered : s.Numbered) (uses : List (Nat × Use)) :
    (s.useAll e uses).shared.Numbered := by
  induction uses generalizing s with
  | nil => exact numbered
  | cons first rest ih => exact ih (numbered.use first.1 first.2)

/-- **A sequence of uses answers and leaves behind what its commands would,** issued one after
another by one holder alone. -/
theorem useAll_performs (e : Engine σ τ ε) (s : Shared (Session τ × σ))
    (uses : List (Nat × Use)) :
    let alone := s.value.1.performAll e s.value.2 (Use.commands uses)
    (s.useAll e uses).commandAnswers = alone.answers ∧
      (s.useAll e uses).shared.value = (alone.session, alone.engine) := by
  induction uses generalizing s with
  | nil => exact ⟨rfl, rfl⟩
  | cons first rest ih =>
    obtain ⟨handle, use⟩ := first
    have done := s.use_comes e handle use
    rw [useAll_cons]
    have others := ih (s.use e handle use).2
    generalize s.use e handle use = o at done others ⊢
    cases done with
    | performed c =>
      obtain ⟨answers, value⟩ := others
      exact ⟨congrArg (List.cons _) answers, value⟩
    | cloned | dropped | taken | refused => exact others

/-- Numbers are issued in ascending order. -/
theorem le_of_issued (issued : .issued other ∈ (s.useAll e uses).answers) : s.issued ≤ other := by
  induction uses generalizing s with
  | nil => cases issued
  | cons first rest ih =>
    obtain ⟨handle, use⟩ := first
    have done := s.use_comes e handle use
    rw [useAll_cons] at issued
    generalize s.use e handle use = o at done issued
    rcases List.mem_cons.1 issued with now | later
    · cases done with
      | cloned => rw [Use.Answer.issued.inj now]
      | dropped | performed | taken | refused => cases now
    · have le := ih later
      cases done with
      | cloned => exact Nat.le_of_succ_le le
      | dropped | performed | taken | refused => exact le

/-- **A handle is live from when it is issued until it is given up.** The one that the session is
taken out with is the last. -/
theorem mem_live_iff (numbered : s.Numbered) (owned : s.Owned e uses) :
    other ∈ (s.useAll e uses).shared.live ↔
      (other ∈ s.live ∨ .issued other ∈ (s.useAll e uses).answers) ∧ (other, .drop) ∉ uses ∧
        ∀ session state, .taken session state ∉ (s.useAll e uses).answers := by
  induction uses generalizing s with
  | nil => simp
  | cons first rest ih =>
    obtain ⟨handle, use⟩ := first
    obtain ⟨live, owned⟩ := owned
    have later := ih (numbered.use handle use) owned
    have done := s.use_comes e handle use
    rw [useAll_cons]
    dsimp only
    rw [later]
    generalize s.use e handle use = o at done owned ⊢
    cases done with
    | cloned =>
      have issues : other ∈ s.clone.2.live ↔ other ∈ s.live ∨ other = s.issued := by
        simp [clone]
      simp [issues, or_assoc]
    | dropped =>
      -- the number given up is none of those issued from now on
      have fresh : .issued handle ∉ ((s.drop handle).useAll e rest).answers := fun issued =>
        Nat.not_lt_of_le (le_of_issued issued) (numbered.issued handle live)
      simp only [mem_live_drop]
      by_cases same : other = handle
      · subst same
        simp [fresh]
      · simp [same]
    | performed c => simp
    | taken last =>
      -- nobody is left to use a handle
      cases rest with
      | nil => simp [mem_live_drop, last]
      | cons next rest => simp [Owned, mem_live_drop, last] at owned
    | refused => simp

/-! ### Steps through any handle -/

/-- **Steps forward through shared handles add up.** Let the session be fresh and its handles be
used in any order, each only while it is live, that is, from when it is issued until it is given
up. Then the session goes to the holder of the only live handle, as the commands so far, issued one
after another, would have left it; anyone else who asks for it is refused, and nothing changes.

If the commands are steps forward whose sum is a step index, over a pure engine that never fails,
then each of them succeeds. It lands where the steps so far add up to, or where direct execution
halts if that comes first, on the term that direct execution has there. Where the cursor stands
after all of them, what is known of the end and what is recorded are the same after any other
sequence of uses whose steps are these in another order. -/
theorem steps_add_up [ReflBEq τ] {f : τ → Reply τ ε} (pure : e.AnswersBy f)
    (infallible : ∀ x error, f x ≠ .failed error) (initial : τ) (config : Config) (engine : σ)
    (uses : List (Nat × Use)) (owned : (of (Session.start initial config, engine)).Owned e uses) :
    let fresh := of (Session.start initial config, engine)
    let run := fresh.useAll e uses
    let alone := (Session.start initial config).performAll e engine (Use.commands uses)
    (∀ handle, handle ∈ run.shared.live ↔
      (handle = 0 ∨ .issued handle ∈ run.answers) ∧ (handle, .drop) ∉ uses ∧
        ∀ session state, .taken session state ∉ run.answers) ∧
    (∀ handle ∈ run.shared.live,
      ((run.shared.use e handle .takeOut).1 = .taken alone.session alone.engine ↔
        ∀ other ∈ run.shared.live, other = handle) ∧
      (run.shared.use e handle .takeOut = (.refused, run.shared) ↔
        ∃ other ∈ run.shared.live, other ≠ handle)) ∧
    ∀ ns : List Nat, Use.commands uses = ns.map .step → ns.sum ≤ Index.maxIndex →
      run.commandAnswers.length = ns.length ∧
      (∀ j < ns.length, ∃ visit, run.commandAnswers[j]? = some (.ok (.visit visit)) ∧
        (∀ t, e.HaltsAt initial engine t → visit.index = min (ns.take (j + 1)).sum t) ∧
        ((∀ t, ¬ e.HaltsAt initial engine t) → visit.index = (ns.take (j + 1)).sum) ∧
        (e.run visit.index initial engine).1 = .ok ⟨visit.state, visit.index, false⟩) ∧
      ∀ (uses' : List (Nat × Use)) (ns' : List Nat), Use.commands uses' = ns'.map .step →
        ns'.Perm ns →
        let other := (fresh.useAll e uses').shared.value.1
        other.position = run.shared.value.1.position ∧
          other.terminal = run.shared.value.1.terminal ∧
          other.history = run.shared.value.1.history := by
  intro fresh run alone
  have numbered : fresh.Numbered := of_numbered _
  obtain ⟨answers, value⟩ : run.commandAnswers = alone.answers ∧
      run.shared.value = (alone.session, alone.engine) := useAll_performs e fresh uses
  refine ⟨?_, ?_, ?_⟩
  · intro handle
    have issued : handle ∈ fresh.live ↔ handle = 0 := List.mem_singleton
    rw [← issued]
    exact mem_live_iff numbered owned
  · intro handle live
    have taken := (numbered.useAll (e := e) uses).takeOut_iff (e := e) live
    rwa [value] at taken
  · intro ns commands bounded
    -- whoever issued them, steps that add up to as much leave the same behind
    have stepped : ∀ (uses' : List (Nat × Use)) (ns' : List Nat),
        Use.commands uses' = ns'.map .step → ns'.sum = ns.sum →
        (fresh.useAll e uses').shared.value.1.Stepped f initial config.retention ns.sum := by
      intro uses' ns' commands' sum
      rw [(useAll_performs e fresh uses').2, commands', ← sum]
      exact (Session.performAll_stepped pure infallible config (sum ▸ bounded) engine).2
    refine ⟨?_, ?_, ?_⟩
    · rw [answers, Session.length_answers, commands, List.length_map]
    · intro j within
      obtain ⟨visit, d, answer, finishes, index, state⟩ :=
        (Session.performAll_stepped pure infallible config bounded engine).1 j within
      rw [← commands] at answer
      refine ⟨visit, ?_, ?_, ?_, ?_⟩
      · rw [answers]
        exact answer
      · intro t halts
        rw [index]
        exact finishes.steps_eq.1 t ((Engine.haltsAt_iff pure).1 halts)
      · intro endless
        rw [index]
        exact finishes.steps_eq.2 fun t halts => endless t ((Engine.haltsAt_iff pure).2 halts)
      · rw [index, state]
        exact (Engine.run_eq_iff pure).2 (.spent finishes.reached)
    · intro uses' ns' commands' perm other
      obtain ⟨position, history⟩ :=
        (stepped uses' ns' commands' perm.sum_eq).unique (stepped uses ns commands rfl)
      exact ⟨position, congrArg History.terminal history, history⟩

/-- Two holders step through a countdown from five, one of them past its end. The one who asks for
the session too early is refused, and the one who is left with the only handle gets it. The steps
in the other order, all through one handle, leave the same behind. -/
theorem steps_add_up_in_countdown :
    let fresh := of (Session.start 5 { retention := .checkpoints 2 }, ())
    let uses := [(0, .clone), (1, .command (.step 3)), (0, .command (.step 9)), (1, .takeOut),
      (0, .drop)]
    let uses' := [(0, .command (.step 9)), (0, .command (.step 3))]
    let run := fresh.useAll (Engine.ofFn countdown) uses
    let other := (fresh.useAll (Engine.ofFn countdown) uses').shared.value.1
    fresh.Owned (Engine.ofFn countdown) uses ∧
      run.answers[3]? = some .refused ∧
      run.shared.live = [1] ∧
      (run.shared.use (Engine.ofFn countdown) 1 .takeOut).1 =
        .taken run.shared.value.1 run.shared.value.2 ∧
      run.commandAnswers = [.ok (.visit ⟨2, 3, 3, false⟩), .ok (.visit ⟨0, 5, 12, true⟩)] ∧
      run.shared.value.1.history.entries = [(0, 5), (2, 3), (4, 1), (5, 0)] ∧
      other.position = run.shared.value.1.position ∧
      other.history = run.shared.value.1.history := by
  intro fresh uses uses' run other
  have owned : fresh.Owned (Engine.ofFn countdown) uses :=
    ⟨by decide, by decide, by decide, by decide, by decide, trivial⟩
  have infallible : ∀ x error, countdown x ≠ .failed error := by
    intro x error
    cases x <;> nofun
  obtain ⟨-, last, steps⟩ := steps_add_up (Engine.ofFn_answersBy countdown) infallible 5
    { retention := .checkpoints 2 } () uses owned
  obtain ⟨-, -, order⟩ := steps [3, 9] rfl (by decide)
  obtain ⟨position, -, history⟩ := order uses' [9, 3] rfl (List.Perm.swap 3 9 [])
  refine ⟨owned, rfl, rfl, (last 1 (by decide)).1.2 (by decide), rfl, rfl, position, history⟩

end Shared

end Retrace
