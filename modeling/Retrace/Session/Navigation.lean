import Retrace.Session.Basic

/-!
# Navigation

Every navigation is the same manoeuvre: limit the requested index to the known
end of execution, take the nearest recorded ancestor, replay the remaining gap
through the engine and record what comes out, then move the cursor. Moving
backwards is a replay from an earlier entry, never an inverted rule.

## Main definitions

* `History.replay` — execute across a gap, recording each term, by structural
  recursion on the gap.
* `Session.navigate` — the manoeuvre itself.
* `Session.step`, `Session.back`, `Session.jump`, `Session.resume` — the commands,
  which differ only in the index they request.

What is load-bearing is that a replay records before it goes on: when the engine
fails or contradicts the record in the middle, the entries before stay in the
history, while the cursor and the counters are those of the session before.
-/

namespace Retrace

universe u v w

/-- **What a replay leaves behind:** the index and term reached, or what stopped it,
with the history and the engine state in either case. -/
structure Replay (σ : Type w) (τ : Type u) (ε : Type v) where
  /-- The last index and term, or what stopped the replay. -/
  reached : Except (Setback ε) (Nat × τ)
  /-- The history with everything that the replay recorded. -/
  history : History τ
  /-- The engine state after the last call. -/
  engine : σ

variable {σ : Type w} {τ : Type u} {ε : Type v} [BEq τ]

namespace History

/-- **Execute across a gap,** starting with the term `x` at index `i`. Each term is
put on record as it is reached. If the engine reports the end of execution, the
term at hand is marked as the end, and the replay stops there. -/
def replay (e : Engine σ τ ε) : Nat → Nat → τ → History τ → σ → Replay σ τ ε
  | 0, i, x, h, s => ⟨.ok (i, x), h, s⟩
  | gap + 1, i, x, h, s =>
    match e.advance x s with
    | (.rewrote y, s') =>
      match h.put (i + 1) y with
      | .ok (_, h') => replay e gap (i + 1) y h' s'
      | .error cause => ⟨.error (.contradicted cause), h, s'⟩
    | (.halted, s') =>
      match h.markTerminal i x with
      | .ok h' => ⟨.ok (i, x), h', s'⟩
      | .error cause => ⟨.error (.contradicted cause), h, s'⟩
    | (.failed error, s') => ⟨.error (.failed error), h, s'⟩

@[simp] theorem replay_zero (e : Engine σ τ ε) (i : Nat) (x : τ) (h : History τ) (s : σ) :
    replay e 0 i x h s = ⟨.ok (i, x), h, s⟩ := rfl

end History

namespace Session

/-- **Move the cursor to a requested index,** or to the end of execution if that
comes first. -/
def navigate (e : Engine σ τ ε) (requested : Nat) (s : Session τ) (engine : σ) :
    Outcome σ τ ε (Visit τ) :=
  match s.poisoned with
  | some i => ⟨.error (.poisoned i), s, engine⟩
  | none =>
    let ancestor := s.history.nearest (s.history.clamp requested)
    let replay := History.replay e ancestor.gap ancestor.index ancestor.state s.history engine
    let recorded := { s with history := replay.history }
    match replay.reached with
    | .error setback => recorded.conclude replay.engine setback
    | .ok (i, x) =>
      match replay.history.pin i x with
      | .error cause => recorded.conclude replay.engine (.contradicted cause)
      | .ok history =>
        { answer := .ok
            { state := x, index := i, requested, terminated := history.terminal == some i }
          session :=
            { s with
              history
              current := i
              cursor := x
              stats := s.stats.recordNavigation (i - ancestor.index) }
          engine := replay.engine }

/-- **Move forward by `n` steps,** stopping early if execution ends. If the target
is no step index, the end of execution, once known, is where the cursor goes; as
long as it is not known the step is refused. -/
def step (e : Engine σ τ ε) (n : Nat) (s : Session τ) (engine : σ) : Outcome σ τ ε (Visit τ) :=
  match Index.add? s.current n with
  | some target => s.navigate e target engine
  | none =>
    if s.terminal.isSome then s.navigate e Index.maxIndex engine
    else ⟨.error (.stepOverflow n s.current), s, engine⟩

/-- **Move backward by `n` steps,** no further than the initial term. -/
def back (e : Engine σ τ ε) (n : Nat) (s : Session τ) (engine : σ) : Outcome σ τ ε (Visit τ) :=
  s.navigate e (s.current - n) engine

/-- **Move to a step index.** -/
def jump (e : Engine σ τ ε) (i : Nat) (s : Session τ) (engine : σ) : Outcome σ τ ε (Visit τ) :=
  s.navigate e i engine

/-- **Run forward until execution ends,** or until the configured limit is used up. -/
def resume (e : Engine σ τ ε) (s : Session τ) (engine : σ) : Outcome σ τ ε (Visit τ) :=
  s.navigate e (Index.addSaturating s.current (s.config.resumeLimit.getD Index.maxIndex)) engine

end Session

end Retrace
