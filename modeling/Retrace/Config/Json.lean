import Retrace.Config.Basic
import Retrace.Retention.Json
import Retrace.Json.Record

/-!
# Configurations in JSON

A configuration is a record of two fields, both of which may be missing; a missing
field has its default. Members that are no field are refused.

## Main definitions

* `Config.record` — the fields.
* `Config.ofText` — the configuration of a document, valid or not.
* `Config.print` — the compact text of a configuration.
-/

namespace Retrace.Config

open Retrace.Json

/-- **The compact text of a configuration.** -/
def print (c : Config) : List Char :=
  printObject
    [("retention", c.retention.print),
      ("resume_limit", printOptional printNatural c.resumeLimit)]

/-- The compact text of a configuration as a string. -/
def toJson (c : Config) : String := String.ofList c.print

/-- The retention policy of a configuration. -/
def retentionField : RecordField Config where
  name := "retention"
  read depth c text := do
    let (retention, rest) ← Retention.read depth text
    return ({ c with retention }, rest)

/-- The limit of one `resume`. -/
def resumeLimitField : RecordField Config where
  name := "resume_limit"
  read _ c text := do
    let (resumeLimit, rest) ← readOptional readNatural text
    return ({ c with resumeLimit }, rest)

/-- **The fields of a configuration.** -/
def record : Record Config where
  title := "struct SessionConfig"
  fields := [retentionField, resumeLimitField]
  blank := {}
  complete := false
  closed := true

/-- **The configuration written by a document,** valid or not. -/
def ofText (text : String) : Except ReadError Config := record.ofText text

end Retrace.Config
