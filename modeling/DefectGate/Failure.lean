import DefectGate.Count
import DefectGate.Duration
import DefectGate.Text.Quoted
import DefectGate.Host.Error
import DefectGate.Host.Path

/-!
# Failures

Every way in which a run can end without a clean verdict. Each failure has a stable name for
machines, a message for people and, where the system gave one, a cause.
-/
namespace DefectGate

open Host (Path)

inductive Failure where
  | analyzerMissing (analyzer : String)
  | targetMissing (path : Path)
  | targetUnreadable (path : Path) (cause : Host.Error)
  | launchFailed (analyzer : String) (cause : Host.Error)
  | timedOut (analyzer : String) (limit : Duration)
  | logUnwritable (path : Path) (cause : Host.Error)
  | summaryMissing (analyzer marker : String)
  | countUnreadable (line : String)
  | defectsFound (analyzer : String) (count : Count)
  deriving DecidableEq, Repr

namespace Failure

/-- A target that could not be read is missing only if the system says that it does not exist. -/
def ofTargetError (path : Path) (cause : Host.Error) : Failure :=
  if cause.isNotFound then .targetMissing path else .targetUnreadable path cause

def kind : Failure → String
  | .analyzerMissing .. => "tool_unavailable"
  | .targetMissing .. => "target_missing"
  | .targetUnreadable .. => "target_unreadable"
  | .launchFailed .. => "process_launch"
  | .timedOut .. => "timeout"
  | .logUnwritable .. => "log_write"
  | .summaryMissing .. => "marker_not_found"
  | .countUnreadable .. => "invalid_count"
  | .defectsFound .. => "defects_reported"

def message : Failure → String
  | .analyzerMissing analyzer => s!"program {analyzer} is not installed"
  | .targetMissing path => s!"file {path.display} can not be found"
  | .targetUnreadable path cause => s!"file {path.display} can not be read: {cause.message}"
  | .launchFailed analyzer cause => s!"failed to launch {analyzer}: {cause.message}"
  | .timedOut analyzer limit => s!"{analyzer} did not finish within {limit.text} and was killed"
  | .logUnwritable path cause => s!"failed to write log {path.display}: {cause.message}"
  | .summaryMissing analyzer marker =>
    s!"no line in the {analyzer} transcript contains {Text.Quoted.quote marker}"
  | .countUnreadable line =>
    s!"could not read a defect count from line {Text.Quoted.quote line}"
  | .defectsFound analyzer count => s!"{analyzer} found {count.text} errors!"

def cause? : Failure → Option Host.Error
  | .targetUnreadable _ cause | .launchFailed _ cause | .logUnwritable _ cause => some cause
  | _ => none

end Failure
end DefectGate
