import DefectGate.Console
import DefectGate.Report

/-!
# Logs

A log replaces whatever stood in its place; nothing is ever appended. The file is complete before
the first line is shown on the console, and a console that stops accepting bytes ends the showing
and nothing else.
-/
namespace DefectGate.Log

open Host (Path)

/-- Whether a path leads to a directory; where that can not be told, it does not. -/
def isDirectory (path : Path) : Program Bool := do
  match ← (Call.stat path).ask.run with
  | .ok kind => return kind = .directory
  | .error _ => return false

/-- What to do about a directory that could not be made: nothing, if it is there already. -/
def accept (path : Path) (e : Host.Error) : Attempt Unit := do
  if ← isDirectory path then return else throw e

def noRoot : Host.Error := .explained .uncategorized "failed to create whole tree"

/-- Makes the first of a list of directories, each of which lies in the next one. Those further
down the list are made only as far as they are missing. -/
def makeChain : List Path → Attempt Unit
  | [] => throw noRoot
  | path :: parents => do
    if path.isEmpty then return
    try (Call.makeDirectory path).ask
    catch e =>
      if e.isNotFound then
        makeChain parents
        try (Call.makeDirectory path).ask
        catch e => accept path e
      else accept path e

/-- A path, its parent, the parent of that one, and so on. -/
def ancestors : Nat → Path → List Path
  | 0, p => [p]
  | steps + 1, p =>
    match p.parent? with
    | none => [p]
    | some q => p :: ancestors steps q

/-- Makes a directory and those above it that are missing. -/
def makeDirectories (path : Path) : Attempt Unit := makeChain (ancestors path.bytes.length path)

/-- Removes a file; there need not be one. -/
def clear (path : Path) : Attempt Unit := do
  try (Call.unlink path).ask
  catch e => if e.isNotFound then return else throw e

/-- Writes lines to an open file, each with its newline, until one can not be written. -/
def writeLines (file : Host.Handle) : List String → Attempt Unit
  | [] => return
  | line :: rest => do
    (Call.write file (Transcript.lineBytes line)).ask
    writeLines file rest

/-- Puts a file that holds the lines in the place of whatever is there. -/
def replace (path : Path) (lines : List String) : Attempt Unit := do
  if let some directory := path.parent? then makeDirectories directory
  clear path
  let file ← (Call.create path).ask
  writeLines file lines
  (Call.flush file).ask

/-- Stores a transcript and shows it. -/
def store (t : Transcript) (path : Path) : ExceptT Failure Program LogFile := do
  ExceptT.adapt (Failure.logUnwritable path) (replace path t.lines)
  Console.echo t.lines
  return ⟨path, t.length⟩

end DefectGate.Log
