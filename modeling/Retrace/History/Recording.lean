import Retrace.History.Basic

/-!
# Recordings as data

The three ways of recording a term, as values, so that a history can be described
by what it was told.

## Main definitions

* `Recording` — one thing told to a history.
* `History.tell` — the history after being told, and what it answers.
* `History.ofRecordings` — the history after a list of recordings.

A refused recording leaves the history as it was (`tell_of_error`), so any list of
recordings describes a history, whatever was refused on the way.
-/

namespace Retrace

universe u

/-- **One thing told to a history:** a term at an index. -/
inductive Recording (τ : Type u) where
  /-- Keep it if the policy keeps the index. -/
  | put (index : Nat) (term : τ)
  /-- Move the cursor there. -/
  | pin (index : Nat) (term : τ)
  /-- Execution ends there. -/
  | markTerminal (index : Nat) (term : τ)
  deriving DecidableEq, Repr

namespace Recording

variable {τ : Type u}

/-- The index that is told of. -/
def index : Recording τ → Nat
  | put i _ | pin i _ | markTerminal i _ => i

/-- The term that is told. -/
def term : Recording τ → τ
  | put _ x | pin _ x | markTerminal _ x => x

end Recording

namespace History

variable {τ : Type u} [BEq τ]

/-- The history that accepts a recording; the Boolean tells whether a `put` stored a
new entry, and is false for the other two. -/
def accept? (h : History τ) : Recording τ → Except Contradiction (Bool × History τ)
  | .put i x => h.put i x
  | .pin i x => (h.pin i x).map (false, ·)
  | .markTerminal i x => (h.markTerminal i x).map (false, ·)

/-- **Tell a history something.** It answers with a contradiction and stays as it is, or
it accepts. -/
def tell (h : History τ) (r : Recording τ) : Except Contradiction Bool × History τ :=
  match h.accept? r with
  | .ok (fresh, h') => (.ok fresh, h')
  | .error cause => (.error cause, h)

/-- **The history after a list of recordings,** told to the history of an initial term. -/
def ofRecordings (initial : τ) (retention : Retention) (rs : List (Recording τ)) : History τ :=
  rs.foldl (fun h r => (h.tell r).2) (.new initial retention)

theorem tell_of_error {h : History τ} {r : Recording τ} {cause : Contradiction}
    (refused : h.accept? r = .error cause) : h.tell r = (.error cause, h) := by
  simp [tell, refused]

theorem tell_of_ok {h h' : History τ} {r : Recording τ} {fresh : Bool}
    (accepted : h.accept? r = .ok (fresh, h')) : h.tell r = (.ok fresh, h') := by
  simp [tell, accepted]

end History

end Retrace
