import Retrace.Config.Json

/-!
# Loading configurations

A configuration is loaded from the text of a JSON document, or from what was found
at a path. Loading checks the configuration, so a loaded configuration is valid.

## Main definitions

* `ConfigError` — why there is no configuration.
* `Config.ofJson` — from a JSON document.
* `FileContents` — what was found at a path.
* `Config.ofFile` — from what was found at a path.

The text of a file is its bytes read as UTF-8, strictly and without any mark at the
beginning being taken off.
-/

namespace Retrace

/-- Why a file has no text. -/
inductive FileError where
  /-- There is nothing at the path. -/
  | missing
  /-- There is a directory at the path. -/
  | directory
  /-- The bytes are not UTF-8. -/
  | notUtf8
  deriving DecidableEq, Repr

/-- The wording of a file error. -/
def FileError.message : FileError → String
  | missing => "No such file or directory (os error 2)"
  | directory => "Is a directory (os error 21)"
  | notUtf8 => "stream did not contain valid UTF-8"

/-- **Why there is no configuration.** -/
inductive ConfigError where
  /-- The file has no text. -/
  | unreadable (path : String) (cause : FileError)
  /-- The document is not a configuration. -/
  | unparsable (cause : Json.ReadError)
  /-- The configuration breaks these rules. -/
  | invalid (violations : List Violation)

/-- The wording of a configuration error. -/
def ConfigError.message : ConfigError → String
  | unreadable path cause => "failed to read config file " ++ path ++ ": " ++ cause.message
  | unparsable cause => "failed to parse config: " ++ cause.message
  | invalid violations =>
    "invalid config: " ++ "; ".intercalate (violations.map Violation.message)

/-- **What was found at a path.** -/
inductive FileContents where
  | missing
  | directory
  | bytes (contents : ByteArray)

/-- The text of what was found at a path. -/
def FileContents.text : FileContents → Except FileError String
  | missing => .error .missing
  | directory => .error .directory
  | bytes contents =>
    match String.fromUTF8? contents with
    | some text => .ok text
    | none => .error .notUtf8

namespace Config

/-- **The configuration written by a document,** if it is valid. -/
def ofJson (text : String) : Except ConfigError Config :=
  match ofText text with
  | .error cause => .error (.unparsable cause)
  | .ok config => config.validated.mapError .invalid

/-- **The configuration in a file,** if it is valid. -/
def ofFile (path : String) (found : FileContents) : Except ConfigError Config :=
  match found.text with
  | .error cause => .error (.unreadable path cause)
  | .ok text => ofJson text

end Config

end Retrace
