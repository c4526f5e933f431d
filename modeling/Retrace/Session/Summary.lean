import Retrace.Session.Basic

/-!
# One-line summaries

A session describes itself in one line for diagnostics: its cursor, what it knows
of the end of execution, how much it has recorded and whether it is poisoned.
The identity of a session is not a function of its commands, so the summary takes
the text that stands for it.

## Main definitions

* `Session.summary` — the line.
* `Session.sharedSummary` — the line of a handle to a shared session.
* `Session.lockedSummary` — what a handle says while the session is in use.
-/

namespace Retrace.Session

universe u

/-- An index that may be missing, as it appears in a summary. -/
def summarizeIndex : Option Nat → String
  | some i => "Some(" ++ toString i ++ ")"
  | none => "None"

variable {τ : Type u}

/-- **The one-line summary of a session.** -/
def summary (identity : String) (s : Session τ) : String :=
  "DebuggerSession \x7b id: SessionId(" ++ identity ++ "), current: " ++ toString s.current ++
    ", terminal: " ++ summarizeIndex s.terminal ++
    ", recorded: " ++ toString s.history.size ++
    ", poisoned: " ++ summarizeIndex s.poisoned ++ " \x7d"

/-- The summary of a handle to a shared session. -/
def sharedSummary (identity : String) (s : Session τ) : String :=
  "SharedSession(" ++ s.summary identity ++ ")"

/-- What a handle says of itself while a command has the session to itself. -/
def lockedSummary : String := "SharedSession(<locked>)"

end Retrace.Session
