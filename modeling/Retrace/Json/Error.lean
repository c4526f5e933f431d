import Retrace.Json.Kind

/-!
# Errors in JSON documents

Reading stops at the first thing that is wrong, in the order of the text. There are
three categories: the text is not JSON, the text stops too early, or a value is
not one that the reader can use.

## Main definitions

* `ReadError` — the causes.
* `ReadError.Category`, `ReadError.category` — the three categories.
* `ReadError.message` — the wording.
-/

namespace Retrace.Json

/-- **Why a document cannot be read.** -/
inductive ReadError where
  /-- The text stops inside an array. -/
  | unfinishedArray
  /-- The text stops inside an object. -/
  | unfinishedObject
  /-- The text stops inside a string. -/
  | unfinishedString
  /-- The text stops inside or before a value. -/
  | unfinishedValue
  /-- A key is not followed by a colon. -/
  | expectedColon
  /-- An element is followed neither by a comma nor by the end of the array. -/
  | expectedElementEnd
  /-- A member is followed neither by a comma nor by the end of the object. -/
  | expectedMemberEnd
  /-- A word that is none of `null`, `true` and `false`. -/
  | expectedKeyword
  /-- Nothing that starts a value. -/
  | expectedValue
  /-- A backslash with no meaning. -/
  | invalidEscape
  /-- A number with a superfluous zero or a missing digit. -/
  | invalidNumber
  /-- A number too large for a float. -/
  | numberOutOfRange
  /-- A control character inside a string. -/
  | controlCharacter
  /-- A member that does not start with a string. -/
  | keyMustBeString
  /-- One half of a surrogate pair where it cannot stand. -/
  | loneSurrogate
  /-- A comma before the end of an array or object. -/
  | trailingComma
  /-- Something after the end. -/
  | trailingCharacters
  /-- The first half of a surrogate pair, and no second half. -/
  | unexpectedEndOfEscape
  /-- Arrays and objects nested too deeply. -/
  | nestedTooDeeply
  /-- A value of another kind than the wanted one. -/
  | wrongKind (found : Kind) (wanted : String)
  /-- A value of the wanted kind that is out of range. -/
  | wrongValue (found : Kind) (wanted : String)
  /-- An array with another number of elements than the wanted one. -/
  | wrongLength (length : Nat) (wanted : String)
  /-- A tag that names no variant. -/
  | unknownVariant (name : String) (known : List String)
  /-- A member that is not known. -/
  | unknownField (name : String) (known : List String)
  /-- A member that must be there and is not. -/
  | missingField (name : String)
  /-- A member that is there twice. -/
  | duplicateField (name : String)

namespace ReadError

/-- **The three categories of errors.** -/
inductive Category where
  /-- The text is not JSON. -/
  | malformed
  /-- The text stops too early. -/
  | unfinished
  /-- A value is not one that the reader can use. -/
  | unusable
  deriving DecidableEq, Repr

/-- The category of an error. -/
def category : ReadError → Category
  | unfinishedArray | unfinishedObject | unfinishedString | unfinishedValue => .unfinished
  | expectedColon | expectedElementEnd | expectedMemberEnd | expectedKeyword | expectedValue
  | invalidEscape | invalidNumber | numberOutOfRange | controlCharacter | keyMustBeString
  | loneSurrogate | trailingComma | trailingCharacters | unexpectedEndOfEscape
  | nestedTooDeeply => .malformed
  | wrongKind .. | wrongValue .. | wrongLength .. | unknownVariant .. | unknownField ..
  | missingField _ | duplicateField _ => .unusable

/-- Known names as alternatives. -/
def alternatives (names : List String) : String :=
  " or ".intercalate (names.map fun name => "`" ++ name ++ "`")

/-- **The wording of an error.** -/
def message : ReadError → String
  | unfinishedArray => "EOF while parsing a list"
  | unfinishedObject => "EOF while parsing an object"
  | unfinishedString => "EOF while parsing a string"
  | unfinishedValue => "EOF while parsing a value"
  | expectedColon => "expected `:`"
  | expectedElementEnd => "expected `,` or `]`"
  | expectedMemberEnd => "expected `,` or `\x7d`"
  | expectedKeyword => "expected ident"
  | expectedValue => "expected value"
  | invalidEscape => "invalid escape"
  | invalidNumber => "invalid number"
  | numberOutOfRange => "number out of range"
  | controlCharacter => "control character (\\u0000-\\u001F) found while parsing a string"
  | keyMustBeString => "key must be a string"
  | loneSurrogate => "lone leading surrogate in hex escape"
  | trailingComma => "trailing comma"
  | trailingCharacters => "trailing characters"
  | unexpectedEndOfEscape => "unexpected end of hex escape"
  | nestedTooDeeply => "recursion limit exceeded"
  | wrongKind found wanted => "invalid type: " ++ found.describe ++ ", expected " ++ wanted
  | wrongValue found wanted => "invalid value: " ++ found.describe ++ ", expected " ++ wanted
  | wrongLength length wanted =>
    "invalid length " ++ toString length ++ ", expected " ++ wanted
  | unknownVariant name known =>
    "unknown variant `" ++ name ++ "`, expected " ++ alternatives known
  | unknownField name known => "unknown field `" ++ name ++ "`, expected " ++ alternatives known
  | missingField name => "missing field `" ++ name ++ "`"
  | duplicateField name => "duplicate field `" ++ name ++ "`"

end ReadError

end Retrace.Json
