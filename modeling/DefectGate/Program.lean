import DefectGate.Capture
import DefectGate.Host.Path

/-!
# Programs

A program is a tree of calls to the system: each node holds a call and says how to go on for every
answer. It does nothing by itself. A host answers the calls; running a program on a host threads the
host's state through them and keeps a record of every call in order.
-/
namespace DefectGate

open Host (Path)

/-- What a path leads to, symbolic links followed. -/
inductive Host.FileKind where
  | regular
  | directory
  | other
  deriving DecidableEq, Repr

/-- A file that is open for writing. -/
structure Host.Handle where
  id : Nat
  deriving DecidableEq, Repr

inductive Call where
  /-- Can the named program be started with `--version`? -/
  | probe (program : Bytes)
  | stat (path : Path)
  /-- Opens a file and reads all of it. -/
  | readFile (path : Path)
  /-- Starts a program and watches it until nobody waits for it any more. -/
  | launch (command : List Bytes) (limit : Option Duration)
  | makeDirectory (path : Path)
  | unlink (path : Path)
  /-- Opens a file for writing, empty. -/
  | create (path : Path)
  | write (file : Host.Handle) (bytes : Bytes)
  | flush (file : Host.Handle)
  /-- Offers bytes to the console, which says how many it accepted. An offer that is interrupted is
  made again below the call, so that no answer stands for an interruption. -/
  | print (bytes : Bytes)
  | flushConsole
  /-- Writes to the stream for diagnostics. -/
  | complain (text : String)
  deriving DecidableEq, Repr

/-- What a call gives if it succeeds. -/
abbrev Call.Value : Call → Type
  | .stat _ => Host.FileKind
  | .readFile _ => Bytes
  | .launch _ _ => List Capture.Event
  | .create _ => Host.Handle
  | .print _ => Nat
  | .probe _ | .makeDirectory _ | .unlink _ | .write _ _ | .flush _ | .flushConsole
  | .complain _ => Unit

/-- Every call may fail with any error. -/
abbrev Call.Answer (c : Call) : Type := Except Host.Error c.Value

inductive Program (α : Type) where
  | done (a : α)
  | call (c : Call) (next : c.Answer → Program α)

namespace Program

def bind : Program α → (α → Program β) → Program β
  | .done a, k => k a
  | .call c next, k => .call c fun answer => (next answer).bind k

instance : Monad Program where
  pure := .done
  bind := bind

@[simp] theorem pure_eq (a : α) : (pure a : Program α) = .done a := rfl

@[simp] theorem bind_eq (p : Program α) (k : α → Program β) : (p >>= k) = p.bind k := rfl

@[simp] theorem done_bind (a : α) (k : α → Program β) : (Program.done a).bind k = k a := rfl

@[simp] theorem call_bind (c : Call) (next : c.Answer → Program α) (k : α → Program β) :
    (Program.call c next).bind k = .call c fun answer => (next answer).bind k := rfl

theorem bind_assoc (p : Program α) (k : α → Program β) (l : β → Program γ) :
    (p.bind k).bind l = p.bind fun a => (k a).bind l := by
  induction p with
  | done a => rfl
  | call c next ih => simp [ih]

end Program

/-- A program that may end with an error of the system. -/
abbrev Attempt := ExceptT Host.Error Program

/-- Makes one call; if it fails, the attempt fails. -/
def Call.ask (c : Call) : Attempt c.Value := ExceptT.mk (.call c .done)

/-- Answers every call, from a state and into one. -/
structure Host (σ : Type) where
  answer : (c : Call) → σ → c.Answer × σ

/-- A call that was made, with its answer. -/
structure Step where
  call : Call
  answer : call.Answer

namespace Program

def run (h : Host σ) : Program α → σ → α × σ
  | .done a, s => (a, s)
  | .call c next, s =>
    let (answer, s') := h.answer c s
    (next answer).run h s'

/-- The calls of a run in order. -/
def trace (h : Host σ) : Program α → σ → List Step
  | .done _, _ => []
  | .call c next, s =>
    let (answer, s') := h.answer c s
    ⟨c, answer⟩ :: (next answer).trace h s'

theorem run_bind (h : Host σ) (p : Program α) (k : α → Program β) (s : σ) :
    (p.bind k).run h s = (k (p.run h s).1).run h (p.run h s).2 := by
  induction p generalizing s with
  | done a => rfl
  | call c next ih => simp [run, ih]

theorem trace_bind (h : Host σ) (p : Program α) (k : α → Program β) (s : σ) :
    (p.bind k).trace h s = p.trace h s ++ (k (p.run h s).1).trace h (p.run h s).2 := by
  induction p generalizing s with
  | done a => rfl
  | call c next ih => simp [run, trace, ih]

end Program
end DefectGate
