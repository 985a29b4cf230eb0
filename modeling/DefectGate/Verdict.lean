import DefectGate.Report

/-!
# Verdicts

A run is clean only if it finished and reported no defect at all. Everything else is a failure, and
a positive count is one of them.
-/
namespace DefectGate

inductive Verdict where
  | clean
  | failed (f : Failure)
  deriving DecidableEq, Repr

namespace Verdict

def ofResult : Except Failure Report → Verdict
  | .ok r => if r.count = 0 then .clean else .failed (.defectsFound r.analyzer r.count)
  | .error f => .failed f

def isClean : Verdict → Bool
  | .clean => true
  | .failed _ => false

def exitCode : Verdict → Int32
  | .clean => 0
  | .failed _ => 1

def failure? : Verdict → Option Failure
  | .clean => none
  | .failed f => some f

end Verdict
end DefectGate
