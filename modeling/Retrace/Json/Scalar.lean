import Retrace.Json.Number

/-!
# Scalars and wanted kinds

Whatever a reader wants, it first looks at what is there. A null, Boolean, number
or string is read whole, so an error inside it comes first; of an array or object
only the opening bracket is taken. Then the reader accepts the kind or refuses it.

## Main definitions

* `readKind` — a scalar, or the opening of an array or object.
* `readNatural` — an unsigned integer of at most 64 bits.
* `readBoolean` — a Boolean.
* `readOptional` — null, or what another reader reads.
* `readEnd` — nothing but blanks.
-/

namespace Retrace.Json

/-- **What the next value is.** A scalar is read whole; of an array or object the
opening bracket is taken. -/
def readKind : Reader Kind := fun text =>
  match skipBlanks text with
  | [] => .error .unfinishedValue
  | 'n' :: text => (expectKeyword ['u', 'l', 'l'] text).map fun rest => (.null, rest)
  | 't' :: text => (expectKeyword ['r', 'u', 'e'] text).map fun rest => (.boolean true, rest)
  | 'f' :: text => (expectKeyword ['a', 'l', 's', 'e'] text).map fun rest => (.boolean false, rest)
  | '"' :: text => (readString text).map fun (s, rest) => (.string s, rest)
  | '[' :: text => .ok (.array, text)
  | '{' :: text => .ok (.object, text)
  | '-' :: text => (readNumber true text).map fun (n, rest) => (.number n, rest)
  | c :: text =>
    if isDigit c then (readNumber false (c :: text)).map fun (n, rest) => (.number n, rest)
    else .error .expectedValue

/-- What an unsigned integer is called in messages. -/
def naturalTitle : String := "u64"

/-- A kind as an unsigned integer. -/
def Kind.toNatural : Kind → Except ReadError Nat
  | .number (.natural n) => .ok n
  | .number (.negative n) => .error (.wrongValue (.number (.negative n)) naturalTitle)
  | kind => .error (.wrongKind kind naturalTitle)

/-- **An unsigned integer** of at most 64 bits. -/
def readNatural : Reader Nat := fun text => do
  let (kind, rest) ← readKind text
  let n ← kind.toNatural
  return (n, rest)

/-- **A Boolean.** -/
def readBoolean : Reader Bool := fun text => do
  match ← readKind text with
  | (.boolean b, rest) => return (b, rest)
  | (kind, _) => throw (.wrongKind kind "a boolean")

/-- **Null,** or what another reader reads. -/
def readOptional {α : Type} (read : Reader α) : Reader (Option α) := fun text =>
  match skipBlanks text with
  | 'n' :: rest => (expectKeyword ['u', 'l', 'l'] rest).map fun rest => (none, rest)
  | text => (read text).map fun (x, rest) => (some x, rest)

/-- **Nothing but blanks** up to the end of the document. -/
def readEnd (text : List Char) : Except ReadError Unit :=
  match skipBlanks text with
  | [] => .ok ()
  | _ => .error .trailingCharacters

end Retrace.Json
