/-!
# A value behind handles

A value can be shared by handing out handles to it. Commands through different
handles reach the one value, one at a time and in whatever order they are issued,
so sharing adds nothing but the question who may take the value out: only the last
live handle.

## Main definitions

* `Shared` — a value, its live handles, and how many handles were ever issued.
* `Shared.clone`, `Shared.drop` — one handle more, one less.
* `Shared.access` — act on the value.
* `Shared.takeOut?` — the value itself, for the last live handle.

Handles are numbered in the order they are issued and numbers are not used again.
-/

namespace Retrace

universe u v

/-- **A value behind handles.** -/
structure Shared (α : Type u) where
  /-- The value that every handle reaches. -/
  value : α
  /-- The live handles. -/
  live : List Nat := [0]
  /-- How many handles were ever issued. -/
  issued : Nat := 1

namespace Shared

variable {α : Type u} {β : Type v}

/-- A value behind its first handle, number `0`. -/
def of (value : α) : Shared α where
  value := value

/-- **Issue one handle more.** The answer is its number. -/
def clone (s : Shared α) : Nat × Shared α :=
  (s.issued, { s with live := s.live ++ [s.issued], issued := s.issued + 1 })

/-- **Give up a handle.** -/
def drop (s : Shared α) (handle : Nat) : Shared α :=
  { s with live := s.live.filter (· != handle) }

/-- The value, as long as some handle is live. -/
def value? (s : Shared α) : Option α :=
  if s.live.isEmpty then none else some s.value

/-- **Act on the value.** The action has the value to itself. -/
def access (s : Shared α) (act : α → β × α) : β × Shared α :=
  let (answer, value) := act s.value
  (answer, { s with value })

/-- **The value itself, for the last live handle.** Any other handle stays what it
is. -/
def takeOut? (s : Shared α) (handle : Nat) : Option α :=
  if s.live = [handle] then some s.value else none

theorem takeOut?_of (value : α) : (of value).takeOut? 0 = some value := rfl

end Shared

end Retrace
