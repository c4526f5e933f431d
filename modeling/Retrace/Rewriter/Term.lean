/-!
# Terms

The terms that the rewriters of this library work on: integers, strings, floats,
the state of a small loop machine, and nodes with an operator and arguments.

## Main definitions

* `Term` — the five kinds of terms.
* `Term.beq` — structural equality.
* `Word.fits` — whether an integer fits a signed 64-bit word.

Floats inside terms are compared as numbers, so a term that holds a NaN differs
from itself, and minus zero equals zero.
-/

namespace Retrace

/-- **A term.** -/
inductive Term where
  /-- An integer. -/
  | int (n : Int)
  /-- A string. -/
  | text (s : String)
  /-- A float. -/
  | float (x : Float)
  /-- The state of a loop machine: an accumulator, a counter and a program counter. -/
  | loop (sum counter : Int) (label : String)
  /-- An operator with arguments. -/
  | node (operator : String) (args : List Term)
  deriving Inhabited

namespace Term

mutual

/-- **Structural equality;** floats are compared as numbers. -/
def beq : Term → Term → Bool
  | int m, int n => m == n
  | text s, text t => s == t
  | float x, float y => x == y
  | loop s n p, loop t m q => s == t && n == m && p == q
  | node f xs, node g ys => f == g && beqList xs ys
  | _, _ => false

/-- Structural equality of argument lists. -/
def beqList : List Term → List Term → Bool
  | [], [] => true
  | x :: xs, y :: ys => beq x y && beqList xs ys
  | _, _ => false

end

instance : BEq Term := ⟨beq⟩

/-- The integer of a term that is one. -/
def int? : Term → Option Int
  | int n => some n
  | _ => none

end Term

/-- The largest signed 64-bit word. -/
def Word.largest : Int := 0x7FFF_FFFF_FFFF_FFFF

/-- Whether an integer fits a signed 64-bit word. -/
def Word.fits (n : Int) : Bool := -Word.largest - 1 ≤ n && n ≤ Word.largest

end Retrace
