import Retrace.Session.Basic

/-!
# Verification

A verification re-executes from the initial term and compares every recorded entry
on the way. It does not consult the record to skip anything and it does not move
the cursor. Where the record knows the end of execution, the engine is asked about
the end again.

## Main definitions

* `Verification` — what a completed verification reports.
* `Recheck` — what the re-execution found.
* `History.recheck` — re-execute across a gap and compare, by structural recursion
  on the gap.
* `History.recheckEnd` — ask again about a known end of execution.
* `History.checkEnd` — whether an end of execution agrees with the record.
* `Session.verify` — the command.

A mismatch is a contradiction and poisons the session, as in a navigation. A
verification never changes what is recorded; in particular an end of execution
that it meets is not recorded.
-/

namespace Retrace

universe u v w

/-- **What a completed verification reports.** -/
structure Verification where
  /-- Recorded entries that were compared. -/
  checked : Nat := 0
  /-- The last index re-executed. -/
  reached : Nat := 0
  /-- Whether execution ended at the last index. -/
  terminated : Bool := false
  deriving DecidableEq, Repr, Inhabited

/-- **What a re-execution found,** or what stopped it. -/
structure Recheck (σ : Type w) (τ : Type u) (ε : Type v) where
  /-- The report so far and the last term, or what stopped the re-execution. -/
  found : Except (Setback ε) (Verification × τ)
  /-- Calls that the engine answered without failing. -/
  answered : Nat
  /-- The engine state after the last call. -/
  engine : σ

variable {σ : Type w} {τ : Type u} {ε : Type v}

namespace History

/-- **Whether an end of execution at `i` agrees with the record.** Nothing may be
recorded past it, and no other end may be known. -/
def checkEnd (h : History τ) (i : Nat) : Except Contradiction Unit :=
  match h.timeline.firstAfter? i with
  | some later => .error (.differentTerm later)
  | none =>
    match h.terminal with
    | some t => if t = i then .ok () else .error (.differentEnd t i)
    | none => .ok ()

variable [BEq τ]

/-- **Re-execute across a gap and compare,** starting with the term `x` at index `i`
after `checked` comparisons and `answered` calls. -/
def recheck (e : Engine σ τ ε) (h : History τ) :
    Nat → Nat → Nat → Nat → τ → σ → Recheck σ τ ε
  | 0, i, checked, answered, x, s => ⟨.ok (⟨checked, i, false⟩, x), answered, s⟩
  | gap + 1, i, checked, answered, x, s =>
    match e.advance x s with
    | (.rewrote y, s') =>
      match h.check (i + 1) y with
      | .ok () =>
        let checked := if (h.get? (i + 1)).isSome then checked + 1 else checked
        recheck e h gap (i + 1) checked (answered + 1) y s'
      | .error cause => ⟨.error (.contradicted cause), answered + 1, s'⟩
    | (.halted, s') => ⟨.ok (⟨checked, i, true⟩, x), answered + 1, s'⟩
    | (.failed error, s') => ⟨.error (.failed error), answered, s'⟩

/-- **Ask again about a known end of execution,** if the re-execution stopped right
there without the engine having said so. -/
def recheckEnd (e : Engine σ τ ε) (h : History τ) (r : Recheck σ τ ε) : Recheck σ τ ε :=
  match r.found with
  | .error _ => r
  | .ok (report, x) =>
    if !report.terminated && h.terminal == some report.reached then
      match e.advance x r.engine with
      | (.rewrote _, s) =>
        let cause := .differentEnd report.reached (Index.addSaturating report.reached 1)
        ⟨.error (.contradicted cause), r.answered + 1, s⟩
      | (.halted, s) => ⟨.ok ({ report with terminated := true }, x), r.answered + 1, s⟩
      | (.failed error, s) => ⟨.error (.failed error), r.answered, s⟩
    else r

end History

namespace Session

/-- **Re-execute from the initial term up to an index and compare every recorded
entry on the way.** Every step that the engine answered is counted, also when the
verification fails. -/
def verify [BEq τ] (e : Engine σ τ ε) (upTo : Nat) (s : Session τ) (engine : σ) :
    Outcome σ τ ε Verification :=
  match s.poisoned with
  | some i => ⟨.error (.poisoned i), s, engine⟩
  | none =>
    let recheck := s.history.recheckEnd e
      (s.history.recheck e (s.history.clamp upTo) 0 0 0 s.history.origin engine)
    let counted := { s with stats := s.stats.recordVerification recheck.answered }
    match recheck.found with
    | .error setback => counted.conclude recheck.engine setback
    | .ok (report, _) =>
      match if report.terminated then s.history.checkEnd report.reached else .ok () with
      | .error cause => counted.conclude recheck.engine (.contradicted cause)
      | .ok () => ⟨.ok report, counted, recheck.engine⟩

end Session

end Retrace
