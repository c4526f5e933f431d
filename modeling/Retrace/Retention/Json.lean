import Retrace.Retention.Basic
import Retrace.Json.Value
import Retrace.Json.Printer

/-!
# Retention policies in JSON

A policy is an object whose member `policy` names it and whose other members are
its parameters. The name may stand anywhere among the members, so the others are
taken in whole before it is known what they are for; members that are no parameter
are ignored. A policy may also be an array of its name and its parameters.

## Main definitions

* `Retention.Policy` — the two names.
* `Retention.readPolicy` — the name of a policy.
* `Retention.ofMembers`, `Retention.ofElements` — a policy from its name and
  what stands beside it.
* `Retention.read` — a policy within a depth of nesting.
* `Retention.ofText` — a whole document that is a policy.
* `Retention.print` — the compact text of a policy.
-/

namespace Retrace.Retention

open Retrace.Json

/-! ### Printing -/

/-- **The compact text of a policy.** -/
def print : Retention → List Char
  | unbounded => printObject [("policy", printWord "unbounded")]
  | checkpoints interval =>
    printObject [("policy", printWord "checkpoints"), ("interval", printNatural interval)]

/-- The compact text of a policy as a string. -/
def toJson (r : Retention) : String := String.ofList r.print

/-! ### Reading -/

/-- **The names of policies.** -/
inductive Policy where
  | unbounded
  | checkpoints
  deriving DecidableEq, Repr

/-- The names as they are written. -/
def policyNames : List String := ["unbounded", "checkpoints"]

/-- The policy of a written name. -/
def policyOfName (name : String) : Except ReadError Policy :=
  if name = "unbounded" then .ok .unbounded
  else if name = "checkpoints" then .ok .checkpoints
  else .error (.unknownVariant name policyNames)

/-- **The name of a policy.** -/
def readPolicy : Reader Policy := fun text => do
  match ← readKind text with
  | (.string name, rest) => return (← policyOfName name, rest)
  | (kind, _) => throw (.wrongKind kind "variant identifier")

/-- The interval among the members beside the name; `found` is the interval of an
earlier member. -/
def intervalOfMembers : Option Nat → List (String × Value) → Except ReadError Nat
  | some interval, [] => .ok interval
  | none, [] => .error (.missingField "interval")
  | found, (key, value) :: members =>
    if key = "interval" then
      if found.isSome then .error (.duplicateField "interval")
      else do intervalOfMembers (some (← value.kind.toNatural)) members
    else intervalOfMembers found members

/-- **A policy from its name and the other members.** -/
def ofMembers (policy : Policy) (members : List (String × Value)) : Except ReadError Retention :=
  match policy with
  | .unbounded => .ok unbounded
  | .checkpoints => (intervalOfMembers none members).map checkpoints

/-- **A policy from its name and the elements behind it.** -/
def ofElements (policy : Policy) (elements : List Value) : Except ReadError Retention :=
  match policy, elements with
  | .unbounded, [] => .ok unbounded
  | .unbounded, elements => .error (.wrongLength elements.length "0 elements in sequence")
  | .checkpoints, [] =>
    .error (.wrongLength 0 "struct variant Retention::Checkpoints with 1 element")
  | .checkpoints, value :: others => do
    let interval ← value.kind.toNatural
    if others.isEmpty then return checkpoints interval
    else throw (.wrongLength (others.length + 1) "1 element in sequence")

/-- Read one member, behind its key: the name of the policy, or any value. -/
def readMember (depth : Nat) (acc : Option Policy × List (String × Value)) (key : String) :
    Reader (Option Policy × List (String × Value)) := fun text =>
  if key = "policy" then
    if acc.1.isSome then .error (.duplicateField "policy")
    else do
      let (policy, rest) ← readPolicy (← expectColon text)
      return ((some policy, acc.2), rest)
  else do
    let (members, rest) ← addMember (readValue depth) acc.2 key text
    return ((acc.1, members), rest)

/-- A policy as an object, behind its opening bracket. -/
def readObject (depth : Nat) : Reader Retention := fun text => do
  match ← foldMembers (readMember depth) (none, []) text with
  | ((none, _), _) => throw (.missingField "policy")
  | ((some policy, members), rest) => return (← ofMembers policy members, rest)

/-- A policy as an array, behind its opening bracket. -/
def readArray (depth : Nat) : Reader Retention := fun text => do
  match ← nextElement true text with
  | .finished _ => throw (.missingField "policy")
  | .entry _ text =>
    let (policy, text) ← readPolicy text
    let (elements, rest) ← foldElements (addElement (readValue depth)) false [] text
    return (← ofElements policy elements, rest)

/-- **A policy** whose values are nested at most so deep. -/
def read (depth : Nat) : Reader Retention := fun text => do
  match ← readKind text with
  | (.object, rest) => readObject (← enter depth) rest
  | (.array, rest) => readArray (← enter depth) rest
  | (kind, _) => throw (.wrongKind kind "internally tagged enum Retention")

/-- **The policy written by a whole document.** -/
def ofText (text : String) : Except ReadError Retention := do
  let (retention, rest) ← read nestingLimit text.toList
  readEnd rest
  return retention

end Retrace.Retention
