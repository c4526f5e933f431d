import Retrace.Rewriter.Term

/-!
# Reducing expressions

An expression is an integer or an operator applied to expressions. One step reduces
the leftmost innermost operator whose arguments are all integers.

## Main definitions

* `applyOperator` — an operator applied to integers.
* `Term.reduce` — one step inside a node.
* `Term.reduceFirst` — one step inside the first argument that is no integer.

Reduction looks no further than it has to: an argument behind the one that is
reduced may be anything.
-/

namespace Retrace

/-- The failure of a rewriter on a term that it does not understand. -/
def malformedTerm : String := "malformed term"

/-- The failure of arithmetic that leaves the 64-bit words. -/
def arithmeticOverflow : String := "arithmetic overflow"

/-- An integer if it fits a word. -/
def Word.checked (n : Int) : Except String Int :=
  if Word.fits n then .ok n else .error arithmeticOverflow

/-- **An operator applied to integers.** -/
def applyOperator (operator : String) (args : List Int) : Except String Int :=
  match operator, args with
  | "add", [a, b] => Word.checked (a + b)
  | "sub", [a, b] => Word.checked (a - b)
  | "mul", [a, b] => Word.checked (a * b)
  | "neg", [a] => Word.checked (-a)
  | _, _ => .error ("unknown operator: " ++ operator ++ "/" ++ toString args.length)

namespace Term

mutual

/-- **One step inside a term that is no integer.** -/
def reduce : Term → Except String Term
  | node operator args =>
    match reduceFirst args with
    | none => (applyOperator operator (args.filterMap int?)).map int
    | some reduced => reduced.map (node operator)
  | _ => .error malformedTerm

/-- **One step inside the first argument that is no integer;** `none` if all are. -/
def reduceFirst : List Term → Option (Except String (List Term))
  | [] => none
  | int n :: rest => (reduceFirst rest).map fun reduced => reduced.map (int n :: ·)
  | x :: rest => some ((reduce x).map (· :: rest))

end

end Term

end Retrace
