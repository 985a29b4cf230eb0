import DefectGate.Markers

/-!
# Analyses

Everything that one run of one analyzer against one target needs.
-/
namespace DefectGate

open Host (Path)

structure Analysis where
  /-- The analyzer's name or path, as it is started. -/
  analyzer : String
  /-- What the analyzer is given before the target. -/
  flags : List String
  target : Path
  /-- What is handed on to the target. -/
  arguments : List String
  /-- Markers that take precedence over those known for the analyzer. -/
  markers : Option Markers
  logDir : Path
  /-- Without a limit the analyzer may run for as long as it likes. -/
  limit : Option Duration
  deriving DecidableEq, Repr

namespace Analysis

/-- The short name of an analyzer: the file name of a path that has one, else the path itself. -/
def nameOf (analyzer : String) : String :=
  match (Path.ofString analyzer).fileName? with
  | some name => Text.Utf8.toStringLossy name
  | none => analyzer

def shortName (a : Analysis) : String := nameOf a.analyzer

/-- The analyzer, its flags, the target and the target's arguments. -/
def commandLine (a : Analysis) : List Bytes :=
  Text.Utf8.encode a.analyzer :: a.flags.map Text.Utf8.encode ++
    a.target.bytes :: a.arguments.map Text.Utf8.encode

def logName (analyzer : String) : Path := Path.ofString (analyzer ++ "-results.log")

def logPath (a : Analysis) : Path := a.logDir.join (logName a.shortName)

/-- The line that announces a run. -/
def banner (a : Analysis) : String :=
  s!"Running memory analysis with {a.shortName} for target: {a.target.display} " ++
    s!"with argument list: {Text.Quoted.quoteList a.arguments}"

end Analysis
end DefectGate
