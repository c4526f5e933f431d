import Retrace.Json.Error

/-!
# Blanks, keywords and strings

The smallest pieces of a JSON text. A reader takes its piece off the front of the
text, which is a list of characters, and returns what follows it.

## Main definitions

* `Reader` — a function from a text to a value and the rest of the text.
* `skipBlanks` — the text from the first character that is not blank.
* `expectKeyword` — the rest of a keyword whose first letter was seen.
* `expectColon` — the colon after a key.
* `readString` — a string whose opening quote was taken.
* `skipString` — the same string, for its end alone.

## Design notes

`readString` recurses on the text itself, which makes the rules about escapes
plain: an escape by code unit needs four hexadecimal digits, a leading surrogate
needs a trailing one right behind it, and a trailing surrogate may not come first.
Where fewer than four *bytes* are left for the four digits the text stops too
early; otherwise the escape is wrong.

`skipString` agrees on where a string ends, but it takes any four hexadecimal
digits for an escape: a string nobody reads need not name characters.
-/

namespace Retrace.Json

/-- **A reader:** takes a value off the front of a text and returns the rest. -/
abbrev Reader (α : Type) := List Char → Except ReadError (α × List Char)

/-- The four blank characters. -/
def isBlank (c : Char) : Bool :=
  c == ' ' || c == '\n' || c == '\t' || c == '\r'

/-- The text from the first character that is not blank. -/
def skipBlanks (text : List Char) : List Char :=
  text.dropWhile isBlank

/-- The rest of a keyword whose first letter was taken. -/
def expectKeyword : List Char → List Char → Except ReadError (List Char)
  | [], text => .ok text
  | _ :: _, [] => .error .unfinishedValue
  | k :: keyword, c :: text =>
    if c = k then expectKeyword keyword text else .error .expectedKeyword

/-- The colon after a key. -/
def expectColon (text : List Char) : Except ReadError (List Char) :=
  match skipBlanks text with
  | ':' :: rest => .ok rest
  | [] => .error .unfinishedObject
  | _ => .error .expectedColon

/-! ### Escapes -/

/-- The value of a hexadecimal digit. -/
def hexDigit? (c : Char) : Option Nat :=
  if '0' ≤ c ∧ c ≤ '9' then some (c.toNat - '0'.toNat)
  else if 'a' ≤ c ∧ c ≤ 'f' then some (c.toNat - 'a'.toNat + 10)
  else if 'A' ≤ c ∧ c ≤ 'F' then some (c.toNat - 'A'.toNat + 10)
  else none

/-- The code unit written by four hexadecimal digits. -/
def codeUnit? (a b c d : Char) : Option Nat := do
  let a ← hexDigit? a
  let b ← hexDigit? b
  let c ← hexDigit? c
  let d ← hexDigit? d
  return ((a * 16 + b) * 16 + c) * 16 + d

/-- What is wrong with a text that does not start with four digits of a code unit. -/
def codeUnitError (text : List Char) : ReadError :=
  if (text.take 4).foldl (fun size c => size + c.utf8Size) 0 < 4 then .unfinishedString
  else .invalidEscape

/-- Whether a code unit is the first half of a surrogate pair. -/
def isLeadingSurrogate (unit : Nat) : Bool := 0xd800 ≤ unit && unit ≤ 0xdbff

/-- Whether a code unit is the second half of a surrogate pair. -/
def isTrailingSurrogate (unit : Nat) : Bool := 0xdc00 ≤ unit && unit ≤ 0xdfff

/-- The character of a surrogate pair. -/
def pairedChar (leading trailing : Nat) : Char :=
  Char.ofNat (0x10000 + (leading - 0xd800) * 0x400 + (trailing - 0xdc00))

/-- What is wrong with a text that should go on with the second half of a surrogate
pair but does not hold one whole escape by code unit. -/
def trailingError : List Char → ReadError
  | [] => .unfinishedString
  | ['\\'] => .unfinishedString
  | '\\' :: 'u' :: text => codeUnitError text
  | _ => .unexpectedEndOfEscape

/-- The character that a letter behind a backslash stands for. -/
def escapedChar? : Char → Option Char
  | '"' => some '"'
  | '\\' => some '\\'
  | '/' => some '/'
  | 'b' => some '\x08'
  | 'f' => some '\x0c'
  | 'n' => some '\n'
  | 'r' => some '\r'
  | 't' => some '\t'
  | _ => none

/-- Whether a character may not stand in a string as it is. -/
def isControl (c : Char) : Bool := c.toNat < 0x20

/-! ### Strings -/

/-- Put a character in front of what a reader of characters returned. -/
def consChar (c : Char) (rest : Except ReadError (List Char × List Char)) :
    Except ReadError (List Char × List Char) :=
  rest.map fun (chars, text) => (c :: chars, text)

/-- **The characters of a string** up to its closing quote. -/
def readChars : Reader (List Char)
  | [] => .error .unfinishedString
  | '"' :: text => .ok ([], text)
  | ['\\'] => .error .unfinishedString
  | '\\' :: 'u' :: a :: b :: c :: d :: text =>
    match codeUnit? a b c d with
    | none => .error .invalidEscape
    | some unit =>
      if isTrailingSurrogate unit then .error .loneSurrogate
      else if isLeadingSurrogate unit then
        match text with
        | '\\' :: 'u' :: a :: b :: c :: d :: text =>
          match codeUnit? a b c d with
          | none => .error .invalidEscape
          | some trailing =>
            if isTrailingSurrogate trailing then
              consChar (pairedChar unit trailing) (readChars text)
            else .error .loneSurrogate
        | text => .error (trailingError text)
      else consChar (Char.ofNat unit) (readChars text)
  | '\\' :: 'u' :: text => .error (codeUnitError text)
  | '\\' :: c :: text =>
    match escapedChar? c with
    | none => .error .invalidEscape
    | some c => consChar c (readChars text)
  | c :: text => if isControl c then .error .controlCharacter else consChar c (readChars text)

/-- **A string** whose opening quote was taken. -/
def readString : Reader String := fun text =>
  (readChars text).map fun (chars, rest) => (String.ofList chars, rest)

/-- **The text after a string** whose opening quote was taken. -/
def skipString : List Char → Except ReadError (List Char)
  | [] => .error .unfinishedString
  | '"' :: text => .ok text
  | ['\\'] => .error .unfinishedString
  | '\\' :: 'u' :: a :: b :: c :: d :: text =>
    if (codeUnit? a b c d).isSome then skipString text else .error .invalidEscape
  | '\\' :: 'u' :: text => .error (codeUnitError text)
  | '\\' :: c :: text =>
    if (escapedChar? c).isSome then skipString text else .error .invalidEscape
  | c :: text => if isControl c then .error .controlCharacter else skipString text

end Retrace.Json
