import DefectGate.Gate
import DefectGate.Workspace.Arrangement

/-!
# The command

Answers the calls of the gate with real files and a real console. No process is started: an analyzer
is a script of the shell, found like any program, and runs in a workspace that holds nothing else.
-/
namespace DefectGate.Terminal

open Host (Path)

/-- The number of a system error, where there is one; some come with their sign reversed. -/
def errorNumber? : IO.Error → Option UInt32
  | .alreadyExists _ n _ | .otherError n _ | .resourceBusy n _ | .resourceVanished n _
  | .unsupportedOperation n _ | .hardwareFault n _ | .unsatisfiedConstraints n _
  | .illegalOperation n _ | .protocolError n _ | .timeExpired n _ | .interrupted _ n _
  | .noFileOrDirectory _ n _ | .invalidArgument _ n _ | .permissionDenied _ n _
  | .resourceExhausted _ n _ | .inappropriateType _ n _ | .noSuchThing _ n _ => some n
  | .unexpectedEof | .userError _ => none

def errorOf (e : IO.Error) : Host.Error :=
  match errorNumber? e with
  | some n => .number n.toInt32.toInt.natAbs
  | none => .explained .other (toString e)

def attempt (act : IO α) : IO (Except Host.Error α) := do
  try return .ok (← act)
  catch e => return .error (errorOf e)

def bytesOf (content : ByteArray) : Bytes := content.toList

def arrayOf (bs : Bytes) : ByteArray := ⟨bs.toArray⟩

/-- Does something with a path that is text and can be handed to the system. -/
def withPath (path : Path) (act : String → IO α) : IO (Except Host.Error α) :=
  if 0 ∈ path.bytes then return .error .zeroByteInPath
  else
    match Text.Utf8.toString? path.bytes with
    | some name => attempt (act name)
    | none => return .error (.explained .invalidFilename "the path is not text")

def kindOf (name : String) : IO Host.FileKind := do
  match (← (← IO.FS.realPath name).metadata).type with
  | .file => return .regular
  | .dir => return .directory
  | _ => return .other

/-- The script that a program's name leads to, if it leads to one. -/
def script? (program : Bytes) : IO (Option Bytes) := do
  let directories ← if Path.slash ∈ program then pure [""] else do
    let found ← IO.getEnv "PATH"
    pure ((found.getD "").splitOn ":")
  for directory in directories do
    let path := if directory = "" then ⟨program⟩ else (Path.ofString directory).join ⟨program⟩
    let found ← withPath path fun name => return bytesOf (← IO.FS.readBinFile name)
    if let .ok content := found then
      if (Workspace.Image.interpreter? content).isSome then return some content
  return none

/-- A workspace in which a command can be launched, with the words to do so. -/
def stage (command : List Bytes) : IO (Workspace × List Bytes) := do
  let program := command.headD []
  match ← script? program with
  | none => return (.empty, command)
  | some content =>
    let name := ((⟨program⟩ : Path).fileName?).getD program
    let place := (Path.ofString "bin").join ⟨name⟩
    let (_, w) := Workspace.empty.perform (Log.makeDirectories (.ofString "bin")).run
    return ((w.put place content true).2, place.bytes :: command.drop 1)

def answer (opened : IO.Ref (Array IO.FS.Handle)) : (c : Call) → IO c.Answer
  | .probe program => do
    let (w, command) ← stage [program]
    return (w.files.probe (command.headD [])).map fun _ => ()
  | .stat path => withPath path kindOf
  | .readFile path => withPath path fun name => return bytesOf (← IO.FS.readBinFile name)
  | .launch command limit => do
    let (w, command) ← stage command
    return (w.files.launch command limit).map (·.1)
  | .makeDirectory path => withPath path fun name => IO.FS.createDir name
  | .unlink path => withPath path fun name => IO.FS.removeFile name
  | .create path => withPath path fun name => do
    let file ← IO.FS.Handle.mk name .write
    let files ← opened.get
    opened.set (files.push file)
    return ⟨files.size⟩
  | .write file bytes => do
    match (← opened.get)[file.id]? with
    | some f => attempt (f.write (arrayOf bytes))
    | none => return .error (.number Host.ErrorNumber.badDescriptor)
  | .flush file => do
    match (← opened.get)[file.id]? with
    | some f => attempt f.flush
    | none => return .error (.number Host.ErrorNumber.badDescriptor)
  | .print bytes => attempt do
    (← IO.getStdout).write (arrayOf bytes)
    return bytes.length
  | .flushConsole => attempt do (← IO.getStdout).flush
  | .complain text => attempt do (← IO.getStderr).putStr text

/-- Runs a program with the given answers to its calls. -/
def perform (answer : (c : Call) → IO c.Answer) : Program α → IO α
  | .done a => return a
  | .call c next => do perform answer (next (← answer c))

end DefectGate.Terminal

def main (words : List String) : IO UInt32 := do
  let opened ← IO.mkRef #[]
  let answer := DefectGate.Terminal.answer opened
  return (← DefectGate.Terminal.perform answer (DefectGate.Gate.run words)).toUInt32
