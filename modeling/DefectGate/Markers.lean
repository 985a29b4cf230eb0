import DefectGate.Failure
import DefectGate.Transcript
import DefectGate.Text.Blank

/-!
# Markers

The two texts that stand before and after the count on an analyzer's summary line. Analyzers print
running totals before the final summary, so the last line with the first marker is the one that
counts. On it both markers are searched from the start of the line, and no other line is tried if it
holds no count.
-/
namespace DefectGate

structure Markers where
  opening : String
  closing : String
  deriving DecidableEq, Repr

namespace Markers

/-- The summary line of the default analyzer. -/
def standard : Markers := ⟨"ERROR SUMMARY: ", "errors"⟩

/-- What lies between the end of the first opening marker and the start of the first closing one,
unless they are missing or in the wrong order. -/
def between? (m : Markers) (line : List Char) : Option (List Char) := do
  let start := (← Text.index? m.opening.toList line) + m.opening.length
  let stop ← Text.index? m.closing.toList line
  if start ≤ stop then some ((line.take stop).drop start) else none

/-- The count on one line; blanks around it are allowed. -/
def countOn? (m : Markers) (line : String) : Option Count := do
  Count.parse? (Text.trim (← m.between? line.toList))

/-- The last line that holds the opening marker. -/
def summaryLine? (m : Markers) (t : Transcript) : Option String :=
  t.lines.reverse.find? fun line => Text.occursIn m.opening.toList line.toList

/-- The count that a transcript of the named analyzer reports. -/
def read (m : Markers) (analyzer : String) (t : Transcript) : Except Failure Count :=
  match m.summaryLine? t with
  | none => .error (.summaryMissing analyzer m.opening)
  | some line =>
    match m.countOn? line with
    | none => .error (.countUnreadable line)
    | some n => .ok n

end Markers
end DefectGate
