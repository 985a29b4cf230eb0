import DefectGate.Program
import DefectGate.Transcript

/-!
# The console

A console may accept only a part of what it is offered, and it may fail for good at any byte. What
has been accepted is never offered again.
-/
namespace DefectGate.Console

/-- Offers bytes until all of them have been accepted. Each offer that succeeds takes at least one,
so as many offers as there are bytes are enough. -/
def offer : Nat → Bytes → Attempt Unit
  | _, [] => return
  | 0, _ :: _ => throw .nothingWritten
  | offers + 1, b :: bs => do
    let accepted : Nat ← (Call.print (b :: bs)).ask
    if accepted = 0 then throw .nothingWritten else offer offers ((b :: bs).drop accepted)

def put (bs : Bytes) : Attempt Unit := offer bs.length bs

def putLine (line : String) : Attempt Unit := do
  put (Text.Utf8.encode line)
  put [10]

/-- Shows lines until the console fails; then the rest is not shown. -/
def echo : List String → Program Unit
  | [] => return
  | line :: rest => do
    match ← (putLine line).run with
    | .ok () => echo rest
    | .error _ => return

end DefectGate.Console
