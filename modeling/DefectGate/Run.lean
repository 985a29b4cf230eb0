import DefectGate.Catalogue
import DefectGate.Log
import DefectGate.Sha256

/-!
# Runs

One analysis from end to end: is the analyzer there, is the target there, what is the target, what
does the analyzer say, keep it, read the count. The first stage that fails ends the run. The log is
kept before the count is read, so that it exists even if there is no count in it.
-/
namespace DefectGate

open Host (Path)

/-- A program that may end with a failure of the run. -/
abbrev Stage := ExceptT Failure Program

/-- Whether a program can be started at all. What it does with the question is its own affair. -/
def canStart (program : String) : Program Bool := do
  match ← (Call.probe (Text.Utf8.encode program)).ask.run with
  | .ok () => return true
  | .error _ => return false

/-- Whether a path leads to a regular file. Where that can not be told, it does not. -/
def isRegularFile (path : Path) : Program Bool := do
  match ← (Call.stat path).ask.run with
  | .ok kind => return kind = .regular
  | .error _ => return false

/-- The fingerprint of a file with the given content. -/
def Fingerprint.ofContent (path : Path) (content : Bytes) : Fingerprint :=
  ⟨path.display, UInt64.ofNat content.length, ⟨"sha256", (Sha256.digest content).toHex⟩⟩

def Fingerprint.ofFile (path : Path) : Attempt Fingerprint := do
  return .ofContent path (← (Call.readFile path).ask)

namespace Analysis

/-- Whether a run may start; the analyzer is looked for first. -/
def check (a : Analysis) : Stage Unit := do
  if !(← canStart a.analyzer) then throw (.analyzerMissing a.analyzer)
  if !(← isRegularFile a.target) then throw (.targetMissing a.target)

def identifyTarget (a : Analysis) : Stage Fingerprint :=
  ExceptT.adapt (Failure.ofTargetError a.target) (Fingerprint.ofFile a.target)

/-- What the end of a capture means for the run. -/
def transcriptOf (a : Analysis) (limit : Duration) : Capture.Result → Except Failure Transcript
  | .complete bytes => .ok (.ofBytes bytes)
  | .timedOut => .error (.timedOut a.analyzer limit)
  | .failed cause => .error (.launchFailed a.analyzer cause)

/-- Runs the analyzer and captures what it says. -/
def capture (a : Analysis) : Stage Transcript := do
  let events ←
    ExceptT.adapt (Failure.launchFailed a.analyzer) (Call.launch a.commandLine a.limit).ask
  ExceptT.mk (.done (a.transcriptOf (a.limit.getD ⟨0⟩) (Capture.result a.limit events)))

def run (a : Analysis) (c : Catalogue) : Stage Report := do
  a.check
  let target ← a.identifyTarget
  let transcript ← a.capture
  let log ← Log.store transcript a.logPath
  let count ← ExceptT.mk (.done (c.read a transcript))
  return ⟨a.shortName, target, log, count⟩

end Analysis
end DefectGate
