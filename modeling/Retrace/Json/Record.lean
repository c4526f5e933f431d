import Retrace.Json.Skip

/-!
# Records

A record is a value with named fields. It is written as an object whose members are
its fields, in any order, or as an array that holds the fields by position.

## Main definitions

* `RecordField` — a name and a reader that sets the field; `naturalField` and
  `booleanField` for scalar fields.
* `Record` — the fields of a record, and what happens to fields that are missing and
  to members that are not fields.
* `Record.read` — a record within a depth of nesting.
* `Record.ofText` — a whole document that is a record.

## Design notes

A record starts from a blank value, and each field that is read is set on it. A
*complete* record must hold every field; any other keeps what the blank value holds.
A *closed* record refuses members that are not fields, as soon as the key is read;
any other passes over them. A field that is there twice is refused, as soon as the
second key is read.
-/

namespace Retrace.Json

/-- **A field:** its name, and a reader of its value within a depth of nesting, which
sets it. -/
structure RecordField (α : Type) where
  name : String
  read : Nat → α → Reader α

/-- A field that is an unsigned integer. -/
def naturalField {α : Type} (name : String) (set : α → Nat → α) : RecordField α where
  name := name
  read _ x text := do
    let (n, rest) ← readNatural text
    return (set x n, rest)

/-- A field that is a Boolean. -/
def booleanField {α : Type} (name : String) (set : α → Bool → α) : RecordField α where
  name := name
  read _ x text := do
    let (b, rest) ← readBoolean text
    return (set x b, rest)

/-- **A record of type** `α`. -/
structure Record (α : Type) where
  /-- How messages call a value of this type. -/
  title : String
  /-- The fields in the order of their declaration. -/
  fields : List (RecordField α)
  /-- The value before any field is read. -/
  blank : α
  /-- Whether every field must be there. -/
  complete : Bool
  /-- Whether members that are not fields are refused. -/
  closed : Bool

namespace Record

variable {α : Type}

/-- The names of the fields. -/
def names (r : Record α) : List String := r.fields.map RecordField.name

/-- How messages call an array of the right length. -/
def lengthTitle (r : Record α) : String :=
  r.title ++ " with " ++ toString r.fields.length ++
    if r.fields.length = 1 then " element" else " elements"

/-- **Read one member,** behind its key. The list holds the names of the fields read
before. -/
def readMember (r : Record α) (depth : Nat) (acc : α × List String) (key : String) :
    Reader (α × List String) := fun text =>
  match r.fields.find? (fun field => field.name == key) with
  | none =>
    if r.closed then .error (.unknownField key r.names)
    else do
      let rest ← skipValue (← expectColon text)
      return (acc, rest)
  | some field =>
    if acc.2.contains key then .error (.duplicateField key)
    else do
      let (value, rest) ← field.read depth acc.1 (← expectColon text)
      return ((value, key :: acc.2), rest)

/-- The first field that is missing although it must be there. -/
def missing? (r : Record α) (seen : List String) : Option String :=
  if r.complete then r.names.find? (fun name => !seen.contains name) else none

/-- **Read the members of an object,** behind its opening bracket. -/
def readObject (r : Record α) (depth : Nat) : Reader α := fun text => do
  let ((value, seen), rest) ← foldMembers (r.readMember depth) (r.blank, []) text
  match r.missing? seen with
  | some name => throw (.missingField name)
  | none => return (value, rest)

/-- Read the given fields by position; `index` counts the elements before. -/
def readPositions (r : Record α) (depth : Nat) : List (RecordField α) → Nat → α → Reader α
  | [], _, value, text => (closeArray text).map fun rest => (value, rest)
  | field :: fields, index, value, text => do
    match ← nextElement (index == 0) text with
    | .finished rest =>
      if r.complete then throw (.wrongLength index r.lengthTitle) else return (value, rest)
    | .entry _ text =>
      let (value, rest) ← field.read depth value text
      readPositions r depth fields (index + 1) value rest

/-- **A record** whose arrays and objects are nested at most so deep. -/
def read (r : Record α) (depth : Nat) : Reader α := fun text => do
  match ← readKind text with
  | (.object, rest) => r.readObject (← enter depth) rest
  | (.array, rest) => r.readPositions (← enter depth) r.fields 0 r.blank rest
  | (kind, _) => throw (.wrongKind kind r.title)

/-- **The record written by a whole document.** -/
def ofText (r : Record α) (text : String) : Except ReadError α := do
  let (value, rest) ← r.read nestingLimit text.toList
  readEnd rest
  return value

end Record

end Retrace.Json
