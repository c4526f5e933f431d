import Retrace.Engine.Basic
import Retrace.Rewriter.Expression

/-!
# Rewriting rules

A catalogue of rules to step through. A rule answers by the term alone, so each is a
pure engine.

## Main definitions

* `Rule` — the kinds of rules with their parameters.
* `Rule.reply` — what a rule answers about a term.

A rule fails on terms of a kind that it does not take. Integers are signed 64-bit
words, and arithmetic that leaves them fails.
-/

namespace Retrace

/-- What a table holds for a term. -/
inductive Edge where
  /-- The next term. -/
  | to (next : String)
  /-- A failure. -/
  | fail (message : String)
  deriving DecidableEq, Repr

/-- **The kinds of rules.** -/
inductive Rule where
  /-- Count down to zero. -/
  | countdown
  /-- Count up, perhaps to a bound. -/
  | count (haltAt : Option Int)
  /-- Halve even numbers, triple odd ones and add one, until one. -/
  | collatz
  /-- Sum `n + (n - 1) + … + 0` on a loop machine, perhaps failing above a bound. -/
  | loop (failAbove : Option Int)
  /-- Replace the first occurrence of the first left-hand side that occurs. -/
  | markov (rules : List (String × String))
  /-- Look the next term up. -/
  | table (edges : List (String × Edge))
  /-- Multiply and add in floats, until nothing changes. -/
  | affine (factor summand : Float)
  /-- Reduce an expression. -/
  | expression

namespace Rule

/-- The reply of a step in checked arithmetic. -/
def ofChecked {α : Type} (build : α → Term) : Except String α → Reply Term String
  | .ok x => .rewrote (build x)
  | .error message => .failed message

/-- One step of the Collatz rule. -/
def collatzReply (n : Int) : Reply Term String :=
  if n = 1 then .halted
  else if n < 1 then .failed ("collatz undefined for " ++ toString n)
  else if n % 2 = 0 then .rewrote (.int (n / 2))
  else ofChecked .int (Word.checked (3 * n + 1))

/-- One step of the loop machine. -/
def loopReply (sum counter : Int) (label : String) : Reply Term String :=
  if label = "test" then .rewrote (.loop sum counter (if 0 ≤ counter then "add" else "halt"))
  else if label = "add" then
    ofChecked (fun sum => .loop sum counter "dec") (Word.checked (sum + counter))
  else if label = "dec" then
    ofChecked (fun counter => .loop sum counter "test") (Word.checked (counter - 1))
  else if label = "halt" then .halted
  else .failed malformedTerm

/-- A text without a word at its front, if the word is there. -/
def dropWord? : List Char → List Char → Option (List Char)
  | [], text => some text
  | _ :: _, [] => none
  | c :: word, d :: text => if c = d then dropWord? word text else none

/-- The text with the leftmost occurrence of a word replaced, if the word occurs. -/
def replaceFirst? (word replacement : List Char) : List Char → Option (List Char)
  | [] => (dropWord? word []).map (replacement ++ ·)
  | c :: text =>
    match dropWord? word (c :: text) with
    | some rest => some (replacement ++ rest)
    | none => (replaceFirst? word replacement text).map (c :: ·)

/-- The largest size of a text in bytes. -/
def textLimit : Nat := 4096

/-- One step of the replacement rules. -/
def markovReply (rules : List (String × String)) (s : String) : Reply Term String :=
  match rules.findSome? fun rule => replaceFirst? rule.1.toList rule.2.toList s.toList with
  | none => .halted
  | some text =>
    let next := String.ofList text
    if textLimit < next.utf8ByteSize then .failed "term too long" else .rewrote (.text next)

/-- One look into a table. -/
def tableReply (edges : List (String × Edge)) (s : String) : Reply Term String :=
  match edges.lookup s with
  | none => .halted
  | some (.to next) => .rewrote (.text next)
  | some (.fail message) => .failed message

/-- One multiplication and addition, each rounded. -/
def affineReply (factor summand x : Float) : Reply Term String :=
  let next := x * factor + summand
  if next == x then .halted else .rewrote (.float next)

/-- **What a rule answers about a term.** -/
def reply : Rule → Term → Reply Term String
  | countdown, .int n => if n ≤ 0 then .halted else .rewrote (.int (n - 1))
  | count haltAt, .int n =>
    if haltAt.any (· ≤ n) then .halted else ofChecked .int (Word.checked (n + 1))
  | collatz, .int n => collatzReply n
  | loop failAbove, .loop sum counter label =>
    if failAbove.any (· < sum) then .failed ("accumulator overflow at s = " ++ toString sum)
    else loopReply sum counter label
  | markov rules, .text s => markovReply rules s
  | table edges, .text s => tableReply edges s
  | affine factor summand, .float x => affineReply factor summand x
  | expression, .int _ => .halted
  | expression, x => ofChecked id x.reduce
  | _, _ => .failed malformedTerm

/-- The pure engine of a rule. -/
def engine {σ : Type} (r : Rule) : Engine σ Term String := .ofFn r.reply

end Rule

end Retrace
