import Retrace.History.Recording

/-!
# Changing a history in place

A history can also be taken for a place that is read and written. Then a recording is a sequence of
tests and writes, and a test that fails does not take back what was written before it. Each of the
three recordings is written out in this way, in the order in which its tests and writes are made.

## Main definitions

* `Change` — reads and writes a history, and may be refused on the way.
* `Change.read`, `Change.write`, `Change.demand` — one read, one write, one test.
* `History.insertInPlace`, `History.putInPlace`, `History.pinInPlace`,
  `History.markTerminalInPlace` — the recordings.
* `Recording.change` — the change that a recording makes.

## Design notes

`History.put`, `History.pin` and `History.markTerminal` yield a history only if they accept, so of
them it goes without saying that a refusal leaves nothing behind. Of a `Change` it does not:
`pinInPlace` writes up to three times and `markTerminalInPlace` twice, after up to three tests.
-/

namespace Retrace

universe u

/-- **A change of a history in place.** It may be refused half-way, and the history is then what was
written until then. -/
structure Change (τ : Type u) (α : Type) where
  /-- What a change of a history comes to, and the history as it is left. -/
  run : History τ → Except Contradiction α × History τ

namespace Change

variable {τ : Type u} {α β : Type}

/-- One change after the other. The second one finds the history as the first one left it, and is
not made if the first one was refused. -/
instance : Monad (Change τ) where
  pure a := ⟨fun h => (.ok a, h)⟩
  bind change next :=
    { run := fun h =>
        match change.run h with
        | (.ok a, h') => (next a).run h'
        | (.error cause, h') => (.error cause, h') }

/-- Read from the history. -/
def read (look : History τ → α) : Change τ α := ⟨fun h => (.ok (look h), h)⟩

/-- Write to the history. -/
def write (rewrite : History τ → History τ) : Change τ Unit := ⟨fun h => (.ok (), rewrite h)⟩

/-- Go on only if the history has nothing against it. -/
def demand (test : History τ → Except Contradiction Unit) : Change τ Unit := ⟨fun h => (test h, h)⟩

@[simp] theorem run_pure (a : α) (h : History τ) : (pure a : Change τ α).run h = (.ok a, h) := rfl

@[simp] theorem run_bind (change : Change τ α) (next : α → Change τ β) (h : History τ) :
    (change >>= next).run h =
      match change.run h with
      | (.ok a, h') => (next a).run h'
      | (.error cause, h') => (.error cause, h') := rfl

@[simp] theorem run_read (look : History τ → α) (h : History τ) :
    (read look).run h = (.ok (look h), h) := rfl

@[simp] theorem run_write (rewrite : History τ → History τ) (h : History τ) :
    (write rewrite).run h = (.ok (), rewrite h) := rfl

@[simp] theorem run_demand (test : History τ → Except Contradiction Unit) (h : History τ) :
    (demand test).run h = (test h, h) := rfl

end Change

namespace History

variable {τ : Type u}

/-- Whether execution is known to end elsewhere. -/
def checkKnownEnd (h : History τ) (i : Nat) : Except Contradiction Unit :=
  match h.terminal with
  | some t => if t = i then .ok () else .error (.differentEnd t i)
  | none => .ok ()

/-- Whether anything is recorded past an end of execution. -/
def checkPast (h : History τ) (i : Nat) : Except Contradiction Unit :=
  match h.timeline.firstAfter? i with
  | some later => .error (.differentEnd later i)
  | none => .ok ()

/-- Go on only if execution may end at an index. -/
def demandNoOtherEnd (i : Nat) : Change τ Unit := do
  Change.demand (·.checkKnownEnd i)
  Change.demand (·.checkPast i)

/-- Move the cursor in place, and then let go of the entry that it has left, unless something else
holds it. -/
def moveCursorInPlace (i : Nat) : Change τ Unit := do
  let previous ← Change.read (·.pinned)
  Change.write fun h => { h with pinned := i }
  if ← Change.read fun h => previous != i && !h.keeps previous then
    Change.write fun h => { h with timeline := h.timeline.erase previous }

variable [BEq τ]

/-- **Record a term in place.** -/
def insertInPlace (i : Nat) (x : τ) : Change τ Bool := do
  Change.demand (·.check i x)
  if ← Change.read fun h => (h.timeline.get? i).isSome then
    return false
  else
    Change.write fun h => { h with timeline := h.timeline.insert i x }
    return true

/-- **Record a term in place if the policy keeps its index.** -/
def putInPlace (i : Nat) (x : τ) : Change τ Bool := do
  if ← Change.read (·.retention.retains i) then
    insertInPlace i x
  else
    Change.demand (·.check i x)
    return false

/-- **Record a term in place and move the cursor to it.** -/
def pinInPlace (i : Nat) (x : τ) : Change τ Unit := do
  let _ ← insertInPlace i x
  moveCursorInPlace i

/-- **Record a term in place as the end of execution.** The end is marked last. -/
def markTerminalInPlace (i : Nat) (x : τ) : Change τ Unit := do
  demandNoOtherEnd i
  let _ ← insertInPlace i x
  Change.write fun h => { h with terminal := some i }

end History

/-- **The change that a recording makes in place.** The Boolean tells whether a `put` stored a new
entry. -/
def Recording.change {τ : Type u} [BEq τ] : Recording τ → Change τ Bool
  | .put i x => History.putInPlace i x
  | .pin i x => do
    History.pinInPlace i x
    return false
  | .markTerminal i x => do
    History.markTerminalInPlace i x
    return false

end Retrace
