import Retrace.Session.Stats
import Retrace.Session.Verification
import Retrace.Json.Record
import Retrace.Json.Printer

/-!
# Counters and reports in JSON

The counters of a session and the report of a verification are records whose fields
must all be there; members that are no field are passed over.

## Main definitions

* `Stats.record`, `Verification.record` — the fields.
* `Stats.ofText`, `Verification.ofText` — the record of a document.
* `Stats.print`, `Verification.print` — the compact texts.
-/

namespace Retrace

open Retrace.Json

namespace Stats

/-- **The compact text of the counters.** -/
def print (s : Stats) : List Char :=
  printObject
    [("navigations", printNatural s.navigations),
      ("cache_hits", printNatural s.cacheHits),
      ("replayed_steps", printNatural s.replayedSteps),
      ("verified_steps", printNatural s.verifiedSteps),
      ("last_replay", printNatural s.lastReplay)]

/-- The compact text of the counters as a string. -/
def toJson (s : Stats) : String := String.ofList s.print

/-- **The fields of the counters.** -/
def record : Record Stats where
  title := "struct SessionStats"
  fields :=
    [naturalField "navigations" fun s n => { s with navigations := n },
      naturalField "cache_hits" fun s n => { s with cacheHits := n },
      naturalField "replayed_steps" fun s n => { s with replayedSteps := n },
      naturalField "verified_steps" fun s n => { s with verifiedSteps := n },
      naturalField "last_replay" fun s n => { s with lastReplay := n }]
  blank := {}
  complete := true
  closed := false

/-- **The counters written by a document.** -/
def ofText (text : String) : Except ReadError Stats := record.ofText text

end Stats

namespace Verification

/-- **The compact text of a report.** -/
def print (v : Verification) : List Char :=
  printObject
    [("checked", printNatural v.checked),
      ("reached", printNatural v.reached),
      ("terminated", printBoolean v.terminated)]

/-- The compact text of a report as a string. -/
def toJson (v : Verification) : String := String.ofList v.print

/-- **The fields of a report.** -/
def record : Record Verification where
  title := "struct Verification"
  fields :=
    [naturalField "checked" fun v n => { v with checked := n },
      naturalField "reached" fun v n => { v with reached := n },
      booleanField "terminated" fun v b => { v with terminated := b }]
  blank := {}
  complete := true
  closed := false

/-- **The report written by a document.** -/
def ofText (text : String) : Except ReadError Verification := record.ofText text

end Verification

end Retrace
