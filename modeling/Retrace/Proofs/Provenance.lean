import Retrace.Proofs.Commands
import Retrace.Proofs.Logging

/-!
# Where recorded terms come from

No term enters a history by itself. Whatever an engine answers, and however often it
changes its mind, each recorded term, the term at the cursor and the term of every
visit is the end of a chain of rewrites that the engine did answer, starting with the
initial term; and where a history knows an end of execution, the engine did report
the end at the term recorded there.

## Main definitions

* `History.Grounded`, `Session.Grounded` — everything recorded rests on given answers.

## Main statements

* `Waypoint.Next.grounded`, `Waypoint.Stop.grounded` — a replay grounds what it
  records.
* `Session.perform_grounded`, `Session.performAll_grounded` — so does every command, and
  every run.

What is load-bearing is that a replay walks a clear way (`Waypoint.Clear`): the term
it marks as the end of execution is then the very term recorded at that index, not
merely one that compares equal.
-/

namespace Retrace

universe u v w

variable {σ : Type w} {τ : Type u} {ε : Type v}

/-! ### Histories -/

/-- **A grounded history:** chains of answers lead to its terms, and to an end of
execution that was answered. -/
structure History.Grounded (answers : τ → Reply τ ε → Prop) (initial : τ) (h : History τ) :
    Prop where
  entry : ∀ i x, h.timeline.get? i = some x → Reaches answers initial i x
  terminal : ∀ t, h.terminal = some t → ∃ x, h.timeline.get? t = some x ∧ answers x .halted

namespace History

variable {answers : τ → Reply τ ε → Prop} {initial : τ} {h h' : History τ}

theorem new_grounded (initial : τ) (retention : Retention) :
    (new initial retention).Grounded answers initial where
  entry i x recorded := by
    change (Timeline.ofOrigin initial).get? i = some x at recorded
    rw [Timeline.get?_ofOrigin] at recorded
    split at recorded
    · next hi =>
      obtain rfl : initial = x := Option.some.inj recorded
      exact hi ▸ .origin
    · cases recorded
  terminal _ ht := nomatch ht

namespace Grounded

theorem mono {more : τ → Reply τ ε → Prop} (le : ∀ x r, answers x r → more x r)
    (grounded : h.Grounded answers initial) : h.Grounded more initial where
  entry i x recorded := (grounded.entry i x recorded).mono le
  terminal t ht := by
    obtain ⟨x, recorded, halted⟩ := grounded.terminal t ht
    exact ⟨x, recorded, le x _ halted⟩

/-- The term at index `0` is the initial one still. -/
theorem origin_eq (grounded : h.Grounded answers initial) : h.origin = initial :=
  (grounded.entry 0 h.origin h.timeline.get?_zero).eq_origin

theorem hold (grounded : h.Grounded answers initial) {i : Nat} {x : τ}
    (reached : Reaches answers initial i x) : (h.hold i x).Grounded answers initial where
  entry j y recorded := by
    rcases get?_hold_eq_some recorded with old | ⟨rfl, rfl⟩
    · exact grounded.entry j y old
    · exact reached
  terminal t ht := by
    obtain ⟨y, recorded, halted⟩ := grounded.terminal t ht
    exact ⟨y, get?_hold_of_some recorded, halted⟩

variable [BEq τ]

theorem put (grounded : h.Grounded answers initial) {i : Nat} {x : τ} {fresh : Bool}
    (reached : Reaches answers initial i x) (accepted : h.put i x = .ok (fresh, h')) :
    h'.Grounded answers initial := by
  obtain ⟨-, after⟩ := put_eq_ok_iff.1 accepted
  split at after
  · rw [(Prod.mk.inj after).2]
    exact grounded.hold reached
  · rw [(Prod.mk.inj after).2]
    exact grounded

theorem pin (grounded : h.Grounded answers initial) {i : Nat} {x : τ}
    (reached : Reaches answers initial i x) (accepted : h.pin i x = .ok h') :
    h'.Grounded answers initial := by
  obtain ⟨-, rfl⟩ := pin_eq_ok_iff.1 accepted
  have held : (h.hold i x).Grounded answers initial := grounded.hold reached
  constructor
  · intro j y recorded
    exact held.entry j y (get?_moveCursor_eq_some recorded)
  · intro t ht
    rw [moveCursor_terminal] at ht
    obtain ⟨y, recorded, halted⟩ := held.terminal t ht
    exact ⟨y, by rwa [get?_moveCursor_of_kept (.inl ht)], halted⟩

/-- **The end is recorded at the term that was answered:** `here` rules out that another,
equal term stands at the index already. -/
theorem markTerminal (grounded : h.Grounded answers initial) {i : Nat} {x : τ}
    (reached : Reaches answers initial i x) (halted : answers x .halted)
    (here : ∀ y, h.timeline.get? i = some y → y = x)
    (accepted : h.markTerminal i x = .ok h') : h'.Grounded answers initial := by
  obtain ⟨-, -, rfl⟩ := markTerminal_eq_ok_iff.1 accepted
  constructor
  · exact (grounded.hold reached).entry
  · intro t ht
    obtain rfl : i = t := Option.some.inj ht
    obtain ⟨y, recorded⟩ := Option.isSome_iff_exists.1 (isSome_get?_hold h i x)
    have hy : y = x := by
      rcases get?_hold_eq_some recorded with old | ⟨-, new⟩
      · exact here y old
      · exact new
    exact ⟨x, hy ▸ recorded, halted⟩

end Grounded

end History

/-! ### Replays -/

namespace Waypoint

variable {given : σ → τ → Reply τ ε → Prop} {initial : τ}

/-- A grounded point of a replay: the history is, and so is the term at hand. -/
structure Grounded (given : σ → τ → Reply τ ε → Prop) (initial : τ) (w : Waypoint σ τ) :
    Prop where
  history : w.history.Grounded (given w.engine) initial
  reached : Reaches (given w.engine) initial w.index w.state

theorem nearest_grounded {h : History τ} {s : σ} (grounded : h.Grounded (given s) initial)
    (target : Nat) : (nearest h target s).Grounded given initial where
  history := grounded
  reached := grounded.entry _ _ (h.nearest_recorded target)

variable [BEq τ] {e : Engine σ τ ε} {target : Nat} {w w' : Waypoint σ τ} {r : Replay σ τ ε}

/-- **One step of a replay grounds the term it records** on the answer just given. -/
theorem Next.grounded (ledger : e.Ledger given) (next : Next e target w w')
    (grounded : w.Grounded given initial) : w'.Grounded given initial := by
  obtain ⟨before, answer, accepted⟩ := next
  rename_i y fresh h
  have known : given (e.advance w.state w.engine).2 w.state (.rewrote y) :=
    answer ▸ ledger.entered w.state w.engine
  have reached : Reaches (given (e.advance w.state w.engine).2) initial (w.index + 1) y :=
    (grounded.reached.mono (ledger.kept w.state w.engine)).rewrite known
  have history := grounded.history.mono (ledger.kept w.state w.engine)
  exact ⟨history.put reached accepted, reached⟩

theorem Passes.grounded (ledger : e.Ledger given) (walk : Passes e target w w')
    (grounded : w.Grounded given initial) : w'.Grounded given initial :=
  Passes.invariant (fun _ _ next => next.grounded ledger) walk grounded

theorem Stop.grounded (ledger : e.Ledger given) (stop : Stop e target w r)
    (clear : w.Clear target) (grounded : w.Grounded given initial) :
    r.history.Grounded (given r.engine) initial ∧
      Reaches (given r.engine) initial w.index w.state := by
  have kept : ∀ x reply, given w.engine x reply → given r.engine x reply :=
    fun _ _ known => ledger.later stop.later known
  have history := grounded.history.mono kept
  have reached := grounded.reached.mono kept
  refine ⟨?_, reached⟩
  cases stop with
  | ended _ answer accepted =>
    have halted : given (e.advance w.state w.engine).2 w.state .halted :=
      answer ▸ ledger.entered w.state w.engine
    exact history.markTerminal reached halted clear.here accepted
  | arrived | endRefused | termRefused | failed => exact history

end Waypoint

/-! ### Sessions -/

namespace Session

/-- **A grounded session:** the history is, and so is the term at the cursor. -/
structure Grounded (answers : τ → Reply τ ε → Prop) (initial : τ) (s : Session τ) : Prop where
  history : s.history.Grounded answers initial
  cursor : Reaches answers initial s.current s.cursor

theorem start_grounded (answers : τ → Reply τ ε → Prop) (initial : τ) (config : Config) :
    (start initial config).Grounded answers initial where
  history := History.new_grounded initial config.retention
  cursor := .origin

theorem Grounded.mono {answers more : τ → Reply τ ε → Prop} {initial : τ} {s : Session τ}
    (le : ∀ x r, answers x r → more x r) (grounded : s.Grounded answers initial) :
    s.Grounded more initial where
  history := grounded.history.mono le
  cursor := grounded.cursor.mono le

variable [BEq τ] {e : Engine σ τ ε} {given : σ → τ → Reply τ ε → Prop} {initial : τ}
  {s : Session τ} {engine : σ}

/-- **A navigation grounds what it records and where it lands.** -/
theorem navigate_grounded (ledger : e.Ledger given) (grounded : s.Grounded (given engine) initial)
    (k : Nat) :
    (s.navigate e k engine).session.Grounded (given (s.navigate e k engine).engine) initial ∧
      ∀ visit, (s.navigate e k engine).answer = .ok visit →
        Reaches (given (s.navigate e k engine).engine) initial visit.index visit.state := by
  cases poisoned : s.poisoned with
  | some i =>
    rw [navigate_of_poisoned e poisoned]
    exact ⟨grounded, nofun⟩
  | none =>
    have later := s.navigate_later e k engine
    have cursor : Reaches (given (s.navigate e k engine).engine) initial s.current s.cursor :=
      grounded.cursor.mono fun _ _ known => ledger.later later known
    obtain ⟨w, walk, lands⟩ := s.navigate_lands e poisoned k engine
    have clear := walk.clear (Waypoint.nearest_clear s.history (s.history.clamp k) engine)
    have pointed := walk.grounded ledger
      (Waypoint.nearest_grounded grounded.history (s.history.clamp k))
    generalize s.navigate e k engine = o at lands cursor ⊢
    cases lands with
    | @stopped setback h engine' stop =>
      have history := (stop.grounded ledger clear pointed).1
      rw [conclude_engine] at cursor ⊢
      refine ⟨⟨?_, ?_⟩, ?_⟩
      · rw [conclude_history]
        exact history
      · rw [conclude_current, conclude_cursor]
        exact cursor
      · intro visit answer
        cases setback <;> cases answer
    | refused stop =>
      exact ⟨⟨(stop.grounded ledger clear pointed).1, cursor⟩, nofun⟩
    | moved stop pinned =>
      obtain ⟨history, reached⟩ := stop.grounded ledger clear pointed
      refine ⟨⟨history.pin reached pinned, reached⟩, ?_⟩
      rintro visit answer
      obtain rfl := Except.ok.inj answer
      exact reached

/-- **Every command grounds what it records and where it says the cursor is.** -/
theorem perform_grounded (ledger : e.Ledger given) (grounded : s.Grounded (given engine) initial)
    (c : Command) :
    (s.perform e engine c).session.Grounded (given (s.perform e engine c).engine) initial ∧
      ∀ visit, (s.perform e engine c).answer = .ok (.visit visit) →
        Reaches (given (s.perform e engine c).engine) initial visit.index visit.state := by
  have done := s.perform_comesTo e engine c
  generalize s.perform e engine c = o at done ⊢
  cases done with
  | @navigated _ k =>
    obtain ⟨after, landed⟩ := navigate_grounded ledger grounded k
    refine ⟨after, ?_⟩
    intro visit answer
    exact landed visit (map_visit_eq_ok.1 answer)
  | overflowed => exact ⟨grounded, nofun⟩
  | told =>
    refine ⟨grounded, ?_⟩
    intro visit answer
    cases answer
    exact grounded.cursor
  | verified i =>
    obtain ⟨hhistory, hcurrent, hcursor, -⟩ := s.verify_frame e i engine
    have later := s.verify_later e i engine
    have after := grounded.mono fun _ _ known => ledger.later later known
    refine ⟨⟨?_, ?_⟩, ?_⟩
    · exact hhistory ▸ after.history
    · show Reaches _ _ (s.verify e i engine).session.current
        (s.verify e i engine).session.cursor
      rw [hcurrent, hcursor]
      exact after.cursor
    · intro visit answer
      exact absurd answer map_report_ne_visit

/-- **Every run grounds what it records and where it says the cursor was.** -/
theorem performAll_grounded (ledger : e.Ledger given)
    (grounded : s.Grounded (given engine) initial) (cs : List Command) :
    (s.performAll e engine cs).session.Grounded (given (s.performAll e engine cs).engine)
        initial ∧
      ∀ visit, .ok (.visit visit) ∈ (s.performAll e engine cs).answers →
        Reaches (given (s.performAll e engine cs).engine) initial visit.index visit.state := by
  induction cs generalizing s engine with
  | nil => exact ⟨grounded, nofun⟩
  | cons c rest ih =>
    obtain ⟨after, landed⟩ := perform_grounded ledger grounded c
    obtain ⟨afterAll, visited⟩ := ih after
    rw [performAll_cons]
    refine ⟨afterAll, ?_⟩
    intro visit hmem
    rcases List.mem_cons.1 hmem with first | hmem
    · -- what the first command was told is still in the ledger at the end
      have later := performAll_later e (s.perform e engine c).session
        (s.perform e engine c).engine rest
      exact (landed visit first.symm).mono fun _ _ known => ledger.later later known
    · exact visited visit hmem

/-- Every session starts from its initial term for good. -/
theorem performAll_origin (e : Engine σ τ ε) (initial : τ) (config : Config) (engine : σ)
    (cs : List Command) :
    ((start initial config).performAll e engine cs).session.history.origin = initial :=
  (performAll_grounded e.credulous_ledger (start_grounded _ initial config)
    cs).1.history.origin_eq

/-- **No fabricated history.** For every engine, the log of all calls that a session makes
holds a chain of rewrites from the initial term to every term recorded, to the term at the
cursor and to the term of every visit, at its index; and it holds the report of the end at
the term recorded where execution is known to end. -/
theorem visited_terms_derive_from_log (e : Engine σ τ ε) (initial : τ) (config : Config)
    (engine : σ) (cs : List Command) :
    let run := (start initial config).performAll e engine cs
    let log := ((start initial config).performAll e.logged (engine, []) cs).engine.2
    let logged : τ → Reply τ ε → Prop := fun x r => (x, r) ∈ log
    (∀ i x, (i, x) ∈ run.session.history.entries → Reaches logged initial i x) ∧
      Reaches logged initial run.session.current run.session.cursor ∧
      (∀ visit, .ok (.visit visit) ∈ run.answers →
        Reaches logged initial visit.index visit.state) ∧
      ∀ t, run.session.terminal = some t →
        ∃ x, (t, x) ∈ run.session.history.entries ∧ logged x .halted := by
  intro run log logged
  let empty : σ × List (τ × Reply τ ε) := (engine, [])
  have grounded : (start initial config).Grounded (fun x r => (x, r) ∈ empty.2) initial :=
    start_grounded _ initial config
  obtain ⟨after, visited⟩ := performAll_grounded e.logged_ledger grounded cs
  -- the session whose calls are logged is the same session
  have same := performAll_logged e (start initial config) engine [] cs
  have hsession : run.session = ((start initial config).performAll e.logged empty cs).session :=
    congrArg Transcript.session same.symm
  have hanswers : run.answers = ((start initial config).performAll e.logged empty cs).answers :=
    congrArg Transcript.answers same.symm
  rw [hsession, hanswers]
  refine ⟨?_, after.cursor, visited, ?_⟩
  · intro i x hmem
    exact after.history.entry i x (Timeline.get?_eq_some_iff.2 hmem)
  · intro t ht
    obtain ⟨x, recorded, halted⟩ := after.history.terminal t ht
    exact ⟨x, Timeline.get?_eq_some_iff.1 recorded, halted⟩

end Session

end Retrace
