import DefectGate.Verdict

/-!
# Summaries

The machine-readable record of one run. What a failed run never reached is absent.
-/
namespace DefectGate

/-- The program that made a summary. -/
structure Tool where
  name : String
  version : String
  commit : Option String
  deriving DecidableEq, Repr

inductive Status where
  | clean
  | failed
  deriving DecidableEq, Repr

/-- A failure as a summary records it. -/
structure Problem where
  kind : String
  message : String
  deriving DecidableEq, Repr

def Problem.ofFailure (f : Failure) : Problem := ⟨f.kind, f.message⟩

structure Summary where
  schemaVersion : String
  tool : Tool
  analyzer : String
  target : Option Fingerprint
  logPath : Option String
  defectCount : Option Count
  status : Status
  error : Option Problem
  exitCode : Int32
  deriving DecidableEq, Repr

namespace Summary

/-- The version of the format that is written. -/
def currentSchema : String := "0.1.0"

def statusOf : Verdict → Status
  | .clean => .clean
  | .failed _ => .failed

/-- The summary of a run, of which the report is known if it finished. -/
def ofRun (tool : Tool) (analyzer : String) (report : Option Report) (verdict : Verdict) :
    Summary where
  schemaVersion := currentSchema
  tool := tool
  analyzer := analyzer
  target := report.map (·.target)
  logPath := report.map (·.log.path.display)
  defectCount := report.map (·.count)
  status := statusOf verdict
  error := verdict.failure?.map Problem.ofFailure
  exitCode := verdict.exitCode

end Summary
end DefectGate
