/-!
# Compact JSON text

What this library writes as JSON: objects with fixed keys, unsigned integers,
Booleans, null and plain words, without any blanks. A text is a list of characters
until it is handed out.

## Main definitions

* `printNatural`, `printBoolean`, `printWord`, `printOptional` — scalars.
* `printObject` — members in the given order.

Keys and words are printed as they are, so they must hold neither quotes nor
backslashes nor control characters.
-/

namespace Retrace.Json

/-- An unsigned integer in decimal digits. -/
def printNatural (n : Nat) : List Char := Nat.toDigits 10 n

/-- A Boolean. -/
def printBoolean (b : Bool) : List Char :=
  if b then ['t', 'r', 'u', 'e'] else ['f', 'a', 'l', 's', 'e']

/-- A plain word between quotes. -/
def printWord (word : String) : List Char := '"' :: word.toList ++ ['"']

/-- Null, or what another printer prints. -/
def printOptional {α : Type} (print : α → List Char) : Option α → List Char
  | none => ['n', 'u', 'l', 'l']
  | some x => print x

/-- A member: its key and its printed value. -/
def printMember (member : String × List Char) : List Char :=
  printWord member.1 ++ ':' :: member.2

/-- **An object** with printed values. -/
def printObject (members : List (String × List Char)) : List Char :=
  '{' :: [','].intercalate (members.map printMember) ++ ['}']

end Retrace.Json
