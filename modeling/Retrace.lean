import Retrace.Config.Load
import Retrace.Engine.Run
import Retrace.Engine.Wrapper
import Retrace.History.Recording
import Retrace.History.Change
import Retrace.Rewriter.Basic
import Retrace.Session.Builder
import Retrace.Session.Handles
import Retrace.Session.Json
import Retrace.Session.Summary
import Retrace.Timeline.Lemmas
import Retrace.Proofs.Execution
import Retrace.Proofs.Acceptance
import Retrace.Proofs.Recordings
import Retrace.Proofs.Replay
import Retrace.Proofs.Commands
import Retrace.Proofs.Logging
import Retrace.Proofs.Calls
import Retrace.Proofs.Continuation
import Retrace.Proofs.Provenance
import Retrace.Proofs.Alarm
import Retrace.Proofs.Verification
import Retrace.Proofs.Fidelity
import Retrace.Proofs.Transparency
import Retrace.Proofs.Coherence
import Retrace.Proofs.Certification
import Retrace.Proofs.Coverage
import Retrace.Proofs.Revisits
import Retrace.Proofs.Detection
import Retrace.Proofs.Refusal
import Retrace.Proofs.Poison
import Retrace.Proofs.Ending
import Retrace.Proofs.Flags
import Retrace.Proofs.Stepping
import Retrace.Proofs.Sharing
import Retrace.Proofs.Diagnosis
import Retrace.Proofs.Accounting
import Retrace.Proofs.Survey
import Retrace.Proofs.Composition
import Retrace.Proofs.Repetition
import Retrace.Proofs.Budget
import Retrace.Proofs.Failure
import Retrace.Proofs.Archive
import Retrace.Proofs.Settings
import Retrace.Proofs.Literals
import Retrace.Proofs.RoundTrip
import Retrace.Proofs.Documents
import Retrace.Proofs.Loading
