import DefectGate.Invocation
import DefectGate.Run
import DefectGate.Summary.Format

/-!
# The gate

The whole command: from the words of the command line to the exit status. The status is zero only
for a clean run whose summary, if one was asked for, has been written. The console carries the
banner, the transcript and the verdict; everything else goes to the stream for diagnostics.
-/
namespace DefectGate

open Host (Path)

namespace Settings

/-- Why no settings could be loaded from a file. -/
inductive LoadError where
  | unreadable (path : Path) (cause : Host.Error)
  | invalid (path : Path) (cause : ReadError)
  deriving DecidableEq, Repr

def LoadError.message : LoadError → String
  | .unreadable path _ => s!"failed to read config: {path.display}"
  | .invalid path _ => s!"invalid config: {path.display}"

def LoadError.cause : LoadError → String
  | .unreadable _ cause => cause.message
  | .invalid _ cause => cause.message

def ofBytes (path : Path) (content : Bytes) : Except LoadError Settings :=
  match Text.Utf8.toString? content with
  | none => .error (.unreadable path .notText)
  | some text =>
    match ofText text with
    | .error e => .error (.invalid path e)
    | .ok s => .ok s

def load (path : Path) : ExceptT LoadError Program Settings := do
  let content ← ExceptT.adapt (LoadError.unreadable path) (Call.readFile path).ask
  ExceptT.mk (.done (ofBytes path content))

end Settings

namespace Gate

def tool (commit : Option String) : Tool := ⟨"memgate-cli", "0.1.0", commit⟩

def versionLine : String := "memgate 0.1.0"

/-- What the options and arguments are said to be for. How this is laid out is left to the reader of
the options. -/
def helpText : String :=
  "Run a memory analyzer against a binary and fail the build on reported errors\n\n" ++
  "Usage: memgate [OPTIONS] <TARGET> [ARGUMENTS]...\n\n" ++
  "Arguments:\n" ++
  "  <TARGET>        Full path to the binary target that will be analyzed\n" ++
  "  [ARGUMENTS]...  Arguments forwarded to the target binary\n\n" ++
  "Options:\n" ++
  "      --analyzer <ANALYZER>          Analyzer executable name or path (default: valgrind)\n" ++
  "      --log-dir <LOG_DIR>            Directory for <analyzer>-results.log (default: current " ++
    "directory)\n" ++
  "      --timeout-secs <TIMEOUT_SECS>  Kill the analyzer if it runs longer than this many " ++
    "seconds\n" ++
  "      --config <CONFIG>              TOML configuration file\n" ++
  "      --summary-out <SUMMARY_OUT>    Also write a JSON run summary to this file\n" ++
  "      --commit <COMMIT>              Optional git commit hash for tool metadata\n" ++
  "  -h, --help                         Print help\n" ++
  "  -V, --version                      Print version"

/-- Writes to the stream for diagnostics, whether or not anybody listens: last words of a command,
which do not change how it ends. -/
def complain (text : String) : Program Unit := do
  let _ ← (Call.complain text).ask.run

/-- Ends the command with an error that is none of the run's failures. -/
def giveUp (message : String) (cause : Option String) : Program Int32 := do
  let explanation :=
    match cause with
    | none => ""
    | some c => s!"\n\nCaused by:\n    {c}"
  complain s!"Error: {message}{explanation}\n"
  return 1

/-- Answers a command line that starts no run. -/
def stop (s : Invocation.Stop) : Program Int32 := do
  match s with
  | .help =>
    let _ ← (Console.putLine helpText).run
    return 0
  | .version =>
    let _ ← (Console.putLine versionLine).run
    return 0
  | s =>
    complain s!"error: {s.message}\n"
    return 2

/-- The settings of a run: those of the file, if one is named, under those of the command line. -/
def settings (i : Invocation) : ExceptT Settings.LoadError Program Settings := do
  let s ←
    match i.config with
    | some path => Settings.load path
    | none => pure .default
  return i.override s

def analysis (i : Invocation) (s : Settings) : Analysis := s.analysis i.target i.arguments

/-- Writes a text into a file, in place of what the file holds. Nothing is held back: writing and
flushing are one act that may fail. -/
def writeText (path : Path) (text : String) : Attempt Unit := do
  let file ← (Call.create path).ask
  (Call.write file (Text.Utf8.encode text)).ask
  (Call.flush file).ask

/-- Says how a run ended: reported defects on the console, any other failure as an error. Either can
be refused. -/
def announce : Verdict → Attempt Unit
  | .clean => return
  | .failed f =>
    match f with
    | .defectsFound .. => Console.putLine f.message
    | _ => (Call.complain s!"error: {f.message}\n").ask

/-- The status of a command whose verdict could not be told. Such a command ends where it stands;
what the runtime then adds on the stream for diagnostics is left out. -/
def untold : Int32 := 101

/-- Everything after the run itself. -/
def conclude (i : Invocation) (a : Analysis) (result : Except Failure Report) : Program Int32 := do
  let verdict := Verdict.ofResult result
  match ← (announce verdict).run with
  | .error _ => return untold
  | .ok () =>
    match i.summaryOut with
    | none => return verdict.exitCode
    | some path =>
      let summary := Summary.ofRun (tool i.commit) a.shortName result.toOption verdict
      match ← (writeText path summary.render).run with
      | .ok () => return verdict.exitCode
      | .error e => giveUp s!"failed to write summary: {path.display}" (some e.message)

def perform (i : Invocation) (a : Analysis) : Program Int32 := do
  match ← (Console.putLine a.banner).run with
  | .error e => giveUp e.message none
  | .ok () =>
    let result ← (a.run .standard).run
    match ← Call.flushConsole.ask.run with
    | .error e => giveUp e.message none
    | .ok () => conclude i a result

def run (words : List String) : Program Int32 := do
  match Invocation.parse words with
  | .error s => stop s
  | .ok i =>
    match ← (settings i).run with
    | .error e => giveUp e.message (some e.cause)
    | .ok s => perform i (analysis i s)

end Gate
end DefectGate
