import DefectGate.Text.Lines
import DefectGate.Text.Utf8

/-!
# Transcripts

The lines of an analyzer's diagnostic stream in order, and the bytes that a log of them holds.
-/
namespace DefectGate

structure Transcript where
  lines : List String
  deriving DecidableEq, Repr

namespace Transcript

/-- The transcript of a captured stream; what is not text is replaced, never refused. -/
def ofBytes (bs : Bytes) : Transcript :=
  ⟨(Text.lines (Text.Utf8.decodeLossy bs)).map String.ofList⟩

def length (t : Transcript) : Nat := t.lines.length

/-- A line as it is written out: its bytes and a newline. -/
def lineBytes (line : String) : Bytes := Text.Utf8.encode line ++ [10]

/-- What a complete log holds. -/
def logBytes (t : Transcript) : Bytes := t.lines.flatMap lineBytes

end Transcript
end DefectGate
