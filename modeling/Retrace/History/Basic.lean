import Retrace.Timeline
import Retrace.Retention.Basic
import Retrace.History.Contradiction

/-!
# Recorded history

A history is a timeline under a retention policy, together with two indices that
it holds whatever the policy says: the *pinned* index, where the cursor of a
session stands, and the *terminal* index, where execution was seen to end.

## Main definitions

* `History` — timeline, retention, terminal index, pinned index.
* `History.clamp`, `History.get?`, `History.nearest` — looking up.
* `History.moveCursor` — pin another index.
* `History.check` — compare a term with what is recorded at an index.
* `History.put` — record a term if the policy keeps its index.
* `History.pin` — record a term and move the cursor to it.
* `History.markTerminal` — record a term as the end of execution.

## Design notes

Terms are compared by a Boolean equality that need not be reflexive: a term that
does not equal itself contradicts its own record.

A command that contradicts the record yields the contradiction and no history,
so a refused command cannot have changed anything. `put` compares the term with
the record also at an index that the policy does not keep. `moveCursor` is the only
place where an entry is let go, and only the entry pinned before.

`get?` resolves every index past the terminal one to the terminal one, whereas
`nearest` and `check` take the index as it is.
-/

namespace Retrace

universe u

/-- **A recorded history.** -/
structure History (τ : Type u) where
  /-- The terms held, by step index. -/
  timeline : Timeline τ
  /-- Which indices are held on their own account. -/
  retention : Retention
  /-- Where execution was seen to end, once that is known. -/
  terminal : Option Nat := none
  /-- Where the cursor stands. -/
  pinned : Nat := 0

/-- The closest recorded entry at or before an index. -/
structure Ancestor (τ : Type u) where
  /-- Index of the recorded term. -/
  index : Nat
  /-- The recorded term. -/
  state : τ
  /-- Steps from there to the index asked for. -/
  gap : Nat

namespace History

variable {τ : Type u}

/-- The history that holds only the initial term, with the cursor on it. -/
def new (initial : τ) (retention : Retention) : History τ where
  timeline := .ofOrigin initial
  retention := retention

/-! ### Looking up -/

/-- The initial term. -/
def origin (h : History τ) : τ := h.timeline.origin

/-- An index, but no further than the end of execution if that is known. -/
def clamp (h : History τ) (i : Nat) : Nat :=
  match h.terminal with
  | some t => min i t
  | none => i

/-- **Exact lookup.** An index past a known end of execution resolves to the entry
there. The entry comes with its own index. -/
def get? (h : History τ) (i : Nat) : Option (Nat × τ) :=
  (h.timeline.get? (h.clamp i)).map fun x => (h.clamp i, x)

/-- The recorded entry with the largest index at or before `i`. -/
def nearest (h : History τ) (i : Nat) : Ancestor τ :=
  let entry := h.timeline.nearest i
  { index := entry.1, state := entry.2, gap := i - entry.1 }

/-- Recorded entries in ascending order of index. -/
def entries (h : History τ) : List (Nat × τ) := h.timeline.toList

/-- Number of recorded entries, the initial term included. -/
def size (h : History τ) : Nat := h.timeline.size

/-- Whether nothing is recorded; never the case, since the initial term is. -/
def isEmpty (h : History τ) : Bool := h.size == 0

theorem isEmpty_eq_false (h : History τ) : h.isEmpty = false := rfl

/-! ### Moving the cursor -/

/-- Whether something holds an index: the policy, the end of execution or the cursor. -/
def keeps (h : History τ) (i : Nat) : Bool :=
  h.retention.retains i || h.terminal == some i || h.pinned == i

/-- **Move the cursor to an index.** The entry it leaves is let go unless something
else holds it. -/
def moveCursor (h : History τ) (i : Nat) : History τ :=
  let moved := { h with pinned := i }
  if moved.keeps h.pinned then moved
  else { moved with timeline := moved.timeline.erase h.pinned }

/-- The index that contradicts an end of execution at `i`: a different known end,
or else the earliest entry past `i`. -/
def endConflict? (h : History τ) (i : Nat) : Option Nat :=
  match h.terminal with
  | some t => if t = i then h.timeline.firstAfter? i else some t
  | none => h.timeline.firstAfter? i

/-! ### Recording -/

variable [BEq τ]

/-- Compare a term with the one at the same index, if one is recorded there. -/
def checkTerm (h : History τ) (i : Nat) (x : τ) : Except Contradiction Unit :=
  match h.timeline.get? i with
  | some recorded => if recorded == x then .ok () else .error (.differentTerm i)
  | none => .ok ()

/-- **Compare a term with the record.** Nothing may follow a known end of
execution, and a recorded term must equal the given one. -/
def check (h : History τ) (i : Nat) (x : τ) : Except Contradiction Unit :=
  match h.terminal with
  | some t => if t < i then .error (.differentEnd t i) else h.checkTerm i x
  | none => h.checkTerm i x

/-- Record a term whatever the policy says; the Boolean tells whether the entry is
new. -/
def record (h : History τ) (i : Nat) (x : τ) : Except Contradiction (Bool × History τ) :=
  (h.check i x).map fun _ =>
    if (h.timeline.get? i).isSome then (false, h)
    else (true, { h with timeline := h.timeline.insert i x })

/-- **Record a term if the policy keeps its index.** The Boolean tells whether a new
entry was stored. -/
def put (h : History τ) (i : Nat) (x : τ) : Except Contradiction (Bool × History τ) :=
  if h.retention.retains i then h.record i x
  else (h.check i x).map fun _ => (false, h)

/-- **Record a term and move the cursor to it.** -/
def pin (h : History τ) (i : Nat) (x : τ) : Except Contradiction (History τ) :=
  (h.record i x).map fun recorded => recorded.2.moveCursor i

/-- **Record a term as the end of execution.** Refused if execution was seen to end
elsewhere, or if anything is recorded past the index. -/
def markTerminal (h : History τ) (i : Nat) (x : τ) : Except Contradiction (History τ) :=
  match h.endConflict? i with
  | some recorded => .error (.differentEnd recorded i)
  | none => (h.record i x).map fun recorded => { recorded.2 with terminal := some i }

end History

end Retrace
