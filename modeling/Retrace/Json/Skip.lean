import Retrace.Json.Collection

/-!
# Skipping values

A value that nobody asks for is passed over without being built. That is more
lenient than reading it: numbers may be of any size, escapes need not name
characters, and arrays and objects may be nested to any depth. What is open is kept
on a list and not on the call stack.

## Main definitions

* `Bracket` — what an open bracket opened.
* `openValue` — pass over a scalar, or take an opening bracket.
* `closeBrackets` — what follows a completed value, closing all that ends there.
* `skipValue` — the text after a value.
-/

namespace Retrace.Json

/-- What an open bracket opened. -/
inductive Bracket where
  | array
  | object
  deriving DecidableEq, Repr

namespace Bracket

/-- The text stops inside an array or object. -/
def unfinished : Bracket → ReadError
  | array => .unfinishedArray
  | object => .unfinishedObject

/-- An entry is followed neither by a comma nor by the end. -/
def expectedEnd : Bracket → ReadError
  | array => .expectedElementEnd
  | object => .expectedMemberEnd

/-- The closing bracket. -/
def closing : Bracket → Char
  | array => ']'
  | object => '}'

/-- **Go to the value of the next entry:** an element starts right away, a member has
a key and a colon before its value. -/
def toEntry : Bracket → List Char → Except ReadError (List Char)
  | array, text => .ok text
  | object, text =>
    match skipBlanks text with
    | [] => .error .unfinishedObject
    | '"' :: rest => do expectColon (← skipString rest)
    | _ => .error .keyMustBeString

end Bracket

/-- **Pass over a scalar,** or take an opening bracket and say which. -/
def openValue : Reader (Option Bracket) := fun text =>
  match skipBlanks text with
  | [] => .error .unfinishedValue
  | 'n' :: text => (expectKeyword ['u', 'l', 'l'] text).map fun rest => (none, rest)
  | 't' :: text => (expectKeyword ['r', 'u', 'e'] text).map fun rest => (none, rest)
  | 'f' :: text => (expectKeyword ['a', 'l', 's', 'e'] text).map fun rest => (none, rest)
  | '"' :: text => (skipString text).map fun rest => (none, rest)
  | '[' :: text => .ok (some .array, text)
  | '{' :: text => .ok (some .object, text)
  | '-' :: text => (skipNumber text).map fun rest => (none, rest)
  | c :: text =>
    if isDigit c then (skipNumber (c :: text)).map fun rest => (none, rest)
    else .error .expectedValue

/-- **What follows a completed value,** given what is open around it, innermost first.
Brackets that close here are taken off; if any is left, the text goes on at the
value of its next entry. -/
def closeBrackets : List Bracket → Reader (List Bracket)
  | [], text => .ok ([], text)
  | b :: outer, text =>
    match skipBlanks text with
    | [] => .error b.unfinished
    | c :: rest =>
      if c = ',' then (b.toEntry rest).map fun rest => (b :: outer, rest)
      else if c = b.closing then closeBrackets outer rest
      else .error b.expectedEnd

/-- What follows an opening bracket: its end, or its first entry. -/
def openBracket (b : Bracket) (outer : List Bracket) : Reader (List Bracket) := fun text =>
  match skipBlanks text with
  | [] => .error b.unfinished
  | c :: rest =>
    if c = b.closing then closeBrackets outer rest
    else (b.toEntry (c :: rest)).map fun rest => (b :: outer, rest)

/-- Pass over values until nothing is open any more, within a bound on their number. -/
def skipWithin : Nat → List Bracket → List Char → Except ReadError (List Char)
  | 0, _, _ => .error .expectedValue
  | bound + 1, outer, text => do
    let (opened, text) ← openValue text
    let (outer, text) ← match opened with
      | some b => openBracket b outer text
      | none => closeBrackets outer text
    if outer.isEmpty then return text else skipWithin bound outer text

/-- **The text after a value.** Every value passed over takes at least one character,
so the bound is never what ends the loop. -/
def skipValue (text : List Char) : Except ReadError (List Char) :=
  skipWithin (text.length + 1) [] text

end Retrace.Json
