import Retrace.Json.Scalar

/-!
# Arrays and objects

Elements and members are read one at a time, each separated from the next by a
comma, up to the closing bracket. The opening bracket was taken before.

## Main definitions

* `Next` — an entry that follows, or the end.
* `nextElement`, `nextMember` — go on to the next element, the next key.
* `foldElements`, `foldMembers` — read all of them, in the order of the text.
* `closeArray` — the end of an array that must not hold more.
* `nestingLimit`, `enter` — how deep arrays and objects may be nested.

## Design notes

The loops are bounded by the length of the text, since every entry takes at least
one character of it; the bound is never what ends a loop. A member's reader is
given the text behind its *key*, so that it can refuse a key before it looks at the
colon.
-/

namespace Retrace.Json

/-- **An entry that follows, or the end** with the text behind the closing bracket. -/
inductive Next (α : Type) where
  | entry (head : α) (rest : List Char)
  | finished (rest : List Char)

/-! ### Elements -/

/-- **Go on to the next element** of an array; `first` tells that there was none yet. -/
def nextElement (first : Bool) (text : List Char) : Except ReadError (Next Unit) :=
  match skipBlanks text with
  | [] => .error .unfinishedArray
  | ']' :: rest => .ok (.finished rest)
  | c :: rest =>
    if first then .ok (.entry () (c :: rest))
    else if c = ',' then
      match skipBlanks rest with
      | [] => .error .unfinishedValue
      | ']' :: _ => .error .trailingComma
      | rest => .ok (.entry () rest)
    else .error .expectedElementEnd

/-- Read elements one by one within a bound on their number. -/
def foldElementsWithin {α : Type} (read : α → Reader α) :
    Nat → Bool → α → Reader α
  | 0, _, _, _ => .error .expectedElementEnd
  | bound + 1, first, acc, text => do
    match ← nextElement first text with
    | .finished rest => return (acc, rest)
    | .entry _ text =>
      let (acc, rest) ← read acc text
      foldElementsWithin read bound false acc rest

/-- **Read all remaining elements** of an array, adding each to an accumulator. -/
def foldElements {α : Type} (read : α → Reader α) (first : Bool) (acc : α) : Reader α :=
  fun text => foldElementsWithin read (text.length + 1) first acc text

/-- **The end of an array** that must not hold more. -/
def closeArray (text : List Char) : Except ReadError (List Char) :=
  match skipBlanks text with
  | ']' :: rest => .ok rest
  | [] => .error .unfinishedArray
  | ',' :: rest =>
    match skipBlanks rest with
    | ']' :: _ => .error .trailingComma
    | _ => .error .trailingCharacters
  | _ => .error .trailingCharacters

/-! ### Members -/

/-- A key whose opening quote is next; anything else is no key. -/
def readKey : Reader String
  | '"' :: text => readString text
  | _ => .error .keyMustBeString

/-- **Go on to the next key** of an object; `first` tells that there was none yet. -/
def nextMember (first : Bool) (text : List Char) : Except ReadError (Next String) :=
  match skipBlanks text with
  | [] => .error .unfinishedObject
  | '}' :: rest => .ok (.finished rest)
  | c :: rest =>
    if first then entry (c :: rest)
    else if c = ',' then
      match skipBlanks rest with
      | [] => .error .unfinishedValue
      | '}' :: _ => .error .trailingComma
      | rest => entry rest
    else .error .expectedMemberEnd
where
  /-- The key at the front of the text. -/
  entry (text : List Char) : Except ReadError (Next String) :=
    (readKey text).map fun (key, rest) => .entry key rest

/-- Read members one by one within a bound on their number. -/
def foldMembersWithin {α : Type} (read : α → String → Reader α) :
    Nat → Bool → α → Reader α
  | 0, _, _, _ => .error .expectedMemberEnd
  | bound + 1, first, acc, text => do
    match ← nextMember first text with
    | .finished rest => return (acc, rest)
    | .entry key text =>
      let (acc, rest) ← read acc key text
      foldMembersWithin read bound false acc rest

/-- **Read all members** of an object, adding each to an accumulator. The reader of a
member starts behind the key, at the colon. -/
def foldMembers {α : Type} (read : α → String → Reader α) (acc : α) : Reader α :=
  fun text => foldMembersWithin read (text.length + 1) true acc text

/-! ### Nesting -/

/-- How deep arrays and objects may be nested. -/
def nestingLimit : Nat := 127

/-- **Enter an array or object,** from the depth that is left outside to the depth
that is left inside. -/
def enter : Nat → Except ReadError Nat
  | 0 => .error .nestedTooDeeply
  | depth + 1 => .ok depth

end Retrace.Json
