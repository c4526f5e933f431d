import Retrace.Json.Collection

/-!
# JSON values

A whole JSON value, for readers that must take in a value before they can know
what to make of it.

## Main definitions

* `Value` — a JSON value; members in the order of the text, repeated keys kept.
* `Value.kind` — what messages tell about it.
* `readValue` — a value within a depth of nesting, by structural recursion on the
  depth.
* `Value.ofText` — a whole document.
-/

namespace Retrace.Json

/-- **A JSON value.** Members keep the order of the text, and repeated keys are kept. -/
inductive Value where
  | null
  | boolean (b : Bool)
  | number (n : Number)
  | string (s : String)
  | array (elements : List Value)
  | object (members : List (String × Value))

/-- What messages tell about a value. -/
def Value.kind : Value → Kind
  | null => .null
  | boolean b => .boolean b
  | number n => .number n
  | string s => .string s
  | array _ => .array
  | object _ => .object

/-- Read one more element with the given reader of values. -/
def addElement (read : Reader Value) (acc : List Value) : Reader (List Value) := fun text => do
  let (value, rest) ← read text
  return (acc ++ [value], rest)

/-- Read one more member, behind its key, with the given reader of values. -/
def addMember (read : Reader Value) (acc : List (String × Value)) (key : String) :
    Reader (List (String × Value)) := fun text => do
  let text ← expectColon text
  let (value, rest) ← read text
  return (acc ++ [(key, value)], rest)

/-- **A value** whose arrays and objects are nested at most so deep. -/
def readValue : Nat → Reader Value
  | 0, text => do
    match ← readKind text with
    | (.null, rest) => return (.null, rest)
    | (.boolean b, rest) => return (.boolean b, rest)
    | (.number n, rest) => return (.number n, rest)
    | (.string s, rest) => return (.string s, rest)
    | (.array, _) => throw .nestedTooDeeply
    | (.object, _) => throw .nestedTooDeeply
  | depth + 1, text => do
    match ← readKind text with
    | (.null, rest) => return (.null, rest)
    | (.boolean b, rest) => return (.boolean b, rest)
    | (.number n, rest) => return (.number n, rest)
    | (.string s, rest) => return (.string s, rest)
    | (.array, rest) =>
      let (elements, rest) ← foldElements (addElement (readValue depth)) true [] rest
      return (.array elements, rest)
    | (.object, rest) =>
      let (members, rest) ← foldMembers (addMember (readValue depth)) [] rest
      return (.object members, rest)

/-- **The value written by a whole document.** -/
def Value.ofText (text : String) : Except ReadError Value := do
  let (value, rest) ← readValue nestingLimit text.toList
  readEnd rest
  return value

end Retrace.Json
