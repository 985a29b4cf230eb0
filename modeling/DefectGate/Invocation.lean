import DefectGate.Settings

/-!
# Invocations

The command line: options, the target, and everything after the target's first argument, which is
handed on as it stands. Until that first argument options are recognised wherever they stand, except
after a double dash. A word that looks like an option but is none is an error before the target and
an argument after it. An option's value is checked when the next word needs the place, so of two
mistakes the earlier one is reported.
-/
namespace DefectGate

structure Invocation where
  target : Host.Path
  arguments : List String
  analyzer : Option String
  logDir : Option Host.Path
  timeoutSeconds : Option UInt64
  config : Option Host.Path
  summaryOut : Option Host.Path
  commit : Option String
  deriving DecidableEq, Repr

namespace Invocation

/-- Why a command line starts no run. -/
inductive Stop where
  | unknownOption
  | missingTarget
  | missingValue
  | badNumber
  | unwantedValue
  | givenTwice
  | help
  | version
  deriving DecidableEq, Repr

/-- A short name of the reason. The wording that a user sees, with the words at fault and the usage,
belongs to the reader of the options and is left out. -/
def Stop.message : Stop → String
  | .unknownOption => "an option is not known"
  | .missingTarget => "no target is given"
  | .missingValue => "a value is missing"
  | .badNumber => "a number of seconds is expected"
  | .unwantedValue => "an option takes no value"
  | .givenTwice => "an option is given twice"
  | .help => "help is asked for"
  | .version => "the version is asked for"

inductive Opt where
  | analyzer
  | logDir
  | timeoutSeconds
  | config
  | summaryOut
  | commit
  deriving DecidableEq, Repr

def Opt.all : List Opt := [.analyzer, .logDir, .timeoutSeconds, .config, .summaryOut, .commit]

def Opt.name : Opt → String
  | .analyzer => "analyzer"
  | .logDir => "log-dir"
  | .timeoutSeconds => "timeout-secs"
  | .config => "config"
  | .summaryOut => "summary-out"
  | .commit => "commit"

/-- The options that ask for information and take no value. -/
def inquiry? (name : String) : Option Stop :=
  if name = "help" then some .help else if name = "version" then some .version else none

def shortInquiry? (c : Char) : Option Stop :=
  if c = 'h' then some .help else if c = 'V' then some .version else none

/-- A word of the command line by its look. -/
inductive Word where
  | doubleDash
  | long (name : String) (value : Option String)
  | short (letters : List Char)
  | plain
  deriving DecidableEq, Repr

def Word.ofString (s : String) : Word :=
  match s.toList with
  | ['-', '-'] => .doubleDash
  | '-' :: '-' :: cs =>
    match cs.dropWhile (· ≠ '=') with
    | _ :: value => .long (String.ofList (cs.takeWhile (· ≠ '='))) (some (String.ofList value))
    | [] => .long (String.ofList cs) none
  | ['-'] => .plain
  | '-' :: cs => .short cs
  | _ => .plain

/-- A number of seconds: decimal digits, perhaps after a plus sign, that fit 64 bits. -/
def seconds? (s : String) : Option UInt64 :=
  let digits :=
    match s.toList with
    | '+' :: cs => cs
    | cs => cs
  if Count.isDigits digits then Count.ofNat? (Count.valueOf digits) else none

/-- What has been accepted so far. -/
structure Draft where
  target : Option Host.Path
  analyzer : Option String
  logDir : Option Host.Path
  timeoutSeconds : Option UInt64
  config : Option Host.Path
  summaryOut : Option Host.Path
  commit : Option String
  deriving DecidableEq, Repr

def Draft.empty : Draft := ⟨none, none, none, none, none, none, none⟩

def Draft.has (d : Draft) : Opt → Bool
  | .analyzer => d.analyzer.isSome
  | .logDir => d.logDir.isSome
  | .timeoutSeconds => d.timeoutSeconds.isSome
  | .config => d.config.isSome
  | .summaryOut => d.summaryOut.isSome
  | .commit => d.commit.isSome

/-- A path must not be empty. -/
def pathValue (s : String) : Except Stop Host.Path :=
  if s.isEmpty then .error .missingValue else .ok (.ofString s)

/-- Takes the value of an option that has not been given before. -/
def Draft.setOption (d : Draft) (o : Opt) (v : String) : Except Stop Draft :=
  if d.has o then .error .givenTwice
  else
    match o with
    | .analyzer => .ok { d with analyzer := some v }
    | .logDir => (pathValue v).map fun p => { d with logDir := some p }
    | .timeoutSeconds =>
      match seconds? v with
      | none => .error .badNumber
      | some n => .ok { d with timeoutSeconds := some n }
    | .config => (pathValue v).map fun p => { d with config := some p }
    | .summaryOut => (pathValue v).map fun p => { d with summaryOut := some p }
    | .commit => .ok { d with commit := some v }

/-- A word that has been read and not yet checked. -/
inductive Pending where
  | nothing
  | waiting (o : Opt)
  | option (o : Opt) (value : String)
  | target (value : String)
  deriving DecidableEq, Repr

def Draft.settle (d : Draft) : Pending → Except Stop Draft
  | .nothing => .ok d
  | .waiting _ => .error .missingValue
  | .option o v => d.setOption o v
  | .target v => (pathValue v).map fun p => { d with target := some p }

/-- Where the reader of a command line stands: `named` tells that the target has been read. -/
structure Reader where
  draft : Draft
  pending : Pending
  named : Bool
  deriving DecidableEq, Repr

namespace Reader

def start : Reader := ⟨.empty, .nothing, false⟩

/-- Checks the pending word and puts the next one in its place. -/
def advance (r : Reader) (next : Pending) : Except Stop Reader := do
  return { r with draft := ← r.draft.settle r.pending, pending := next }

def finish (r : Reader) (arguments : List String) : Except Stop Invocation := do
  let d ← r.draft.settle r.pending
  match d.target with
  | none => .error .missingTarget
  | some target =>
    return ⟨target, arguments, d.analyzer, d.logDir, d.timeoutSeconds, d.config, d.summaryOut,
      d.commit⟩

/-- The first letter of a bundle decides, for each letter stands for an inquiry or for nothing. -/
def stopAtLetters (r : Reader) : List Char → Stop
  | [] => .unknownOption
  | c :: _ =>
    match shortInquiry? c with
    | none => .unknownOption
    | some inquiry =>
      match r.draft.settle r.pending with
      | .error e => e
      | .ok _ => inquiry

/-- What a word in the place of an option does: it is used up, or it is taken as an ordinary
word. -/
def takeOption (r : Reader) : Word → Except Stop (Option Reader)
  | .plain | .doubleDash => .ok none
  | .short letters =>
    if r.named ∧ letters.any (fun c => (shortInquiry? c).isNone) then .ok none
    else .error (r.stopAtLetters letters)
  | .long name value =>
    match inquiry? name, value with
    | some _, some _ => .error .unwantedValue
    | some inquiry, none => do
      let _ ← r.advance .nothing
      .error inquiry
    | none, value =>
      match Opt.all.find? (·.name = name), value with
      | none, _ => if r.named then .ok none else .error .unknownOption
      | some o, none => do return some (← r.advance (.waiting o))
      | some o, some v => do
        let r ← r.advance .nothing
        return some { r with draft := ← r.draft.setOption o v }

/-- Reads words after a double dash: the target, if it is still to come, and its arguments. -/
def readPlain (r : Reader) : List String → Except Stop Invocation
  | [] => r.finish []
  | word :: rest =>
    if r.named then r.finish (word :: rest)
    else do
      let r ← r.advance (.target word)
      readPlain { r with named := true } rest

/-- Reads words while options are recognised. -/
def read (r : Reader) : List String → Except Stop Invocation
  | [] => r.finish []
  | word :: rest =>
    if Word.ofString word = .doubleDash then r.readPlain rest
    else
      match r.takeOption (Word.ofString word) with
      | .error e => .error e
      | .ok (some r) => read r rest
      | .ok none =>
        match r.pending with
        | .waiting o => read { r with pending := .option o word } rest
        | _ =>
          if r.named then r.finish (word :: rest)
          else do
            let r ← r.advance (.target word)
            read { r with named := true } rest

end Reader

def parse (words : List String) : Except Stop Invocation := Reader.start.read words

/-- The settings of a run: what the command line says goes before what the document says. -/
def override (i : Invocation) (s : Settings) : Settings :=
  { s with
    analyzer := i.analyzer.getD s.analyzer
    logDir := i.logDir.getD s.logDir
    timeoutSeconds := i.timeoutSeconds <|> s.timeoutSeconds }

end Invocation
end DefectGate
