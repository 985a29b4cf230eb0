import DefectGate.Workspace.Streams

/-!
# Tools

A tool is a program of the system that does its work on a session and leaves its exit status there.
-/
namespace DefectGate.Workspace

open Host (Path)
open Shell (Text)

/-- What a tool is asked to do: its options, each with its argument, and the words that are none. -/
structure Request where
  options : List (Char × Text)
  operands : List Text
  deriving DecidableEq, Repr

namespace Request

def has (r : Request) (letter : Char) : Bool := r.options.any (·.1 = letter)

/-- The argument of the last option with a letter. -/
def value? (r : Request) (letter : Char) : Option Text :=
  (r.options.reverse.find? (·.1 = letter)).map (·.2)

/-- Which of several options was given last. -/
def last? (r : Request) (letters : List Char) : Option Char :=
  (r.options.reverse.find? (·.1 ∈ letters)).map (·.1)

end Request

/-- How a tool reads its words. -/
structure Tool.Grammar where
  /-- The letters of options without an argument. -/
  flags : String
  /-- The letters of options with an argument. -/
  valued : String
  /-- Long names for letters. -/
  long : List (String × Char)
  /-- Whether options may follow other words. -/
  mixes : Bool

structure Tool where
  name : String
  /-- A tool without a grammar takes every word as it is. -/
  grammar : Option Tool.Grammar
  /-- The status after words that the tool does not understand. -/
  misuse : Nat
  act : Request → Session → Session

namespace Tool

def shown (t : Text) : String := String.ofList t

def errorText : Host.Error → String
  | .number n => Host.ErrorNumber.text n
  | e => e.message

/-! ## Reading words -/

/-- The options of one group of letters. -/
def letters (g : Grammar) (rest : List Text) :
    Text → Except String (List (Char × Text) × List Text)
  | [] => .ok ([], rest)
  | c :: cs =>
    if c ∈ g.valued.toList then
      match cs, rest with
      | [], argument :: rest => .ok ([(c, argument)], rest)
      | [], [] => .error s!"option requires an argument -- '{c}'"
      | argument, rest => .ok ([(c, argument)], rest)
    else if c ∈ g.flags.toList then do
      let (more, rest) ← letters g rest cs
      return ((c, []) :: more, rest)
    else .error s!"invalid option -- '{c}'"

/-- The option that a long name stands for. -/
def longOption (g : Grammar) (name : Text) (rest : List Text) :
    Except String ((Char × Text) × List Text) :=
  let key := name.takeWhile (· ≠ '=')
  match g.long.find? (·.1.toList = key) with
  | none => .error s!"unrecognized option '--{shown name}'"
  | some (_, letter) =>
    if key.length < name.length then .ok ((letter, name.drop (key.length + 1)), rest)
    else if letter ∈ g.valued.toList then
      match rest with
      | argument :: rest => .ok ((letter, argument), rest)
      | [] => .error s!"option '--{shown name}' requires an argument"
    else .ok ((letter, []), rest)

/-- What words ask a tool to do. -/
def Grammar.read (g : Grammar) : (fuel : Nat) → List Text → Except String Request
  | 0, words => .ok ⟨[], words⟩
  | fuel + 1, words =>
    match words with
    | [] => .ok ⟨[], []⟩
    | ['-', '-'] :: rest => .ok ⟨[], rest⟩
    | ('-' :: '-' :: name) :: rest => do
      let (option, rest) ← longOption g name rest
      let r ← g.read fuel rest
      return { r with options := option :: r.options }
    | ('-' :: c :: cs) :: rest => do
      let (options, rest) ← letters g rest (c :: cs)
      let r ← g.read fuel rest
      return { r with options := options ++ r.options }
    | word :: rest =>
      if !g.mixes then .ok ⟨[], word :: rest⟩
      else do
        let r ← g.read fuel rest
        return { r with operands := word :: r.operands }

/-! ## Writing -/

/-- Writes to the output of a tool, if it is open. -/
def out (t : Text) (s : Session) : Session := s.write 1 t

/-- Says something on the stream for diagnostics. -/
def say (message : String) (s : Session) : Session := s.write 2 (message ++ "\n").toList

/-- Ends a tool with what it has to say. -/
def put (t : Text) (s : Session) : Session := (out t s).status 0

/-- What a tool says about a closed output, and its status then. -/
def closedOutput (name : String) : String × Nat :=
  match name with
  | "cat" | "yes" => ("standard output: Bad file descriptor", 1)
  | "tee" => ("'standard output': Bad file descriptor", 1)
  | "sed" => ("couldn't close stdout: Bad file descriptor", 4)
  | "sort" => ("fflush failed: 'standard output': Bad file descriptor\nsort: write error", 2)
  | "grep" | "ls" => ("write error: Bad file descriptor", 2)
  | "expr" => ("write error: Bad file descriptor", 3)
  | "env" => ("write error: Bad file descriptor", 125)
  | _ => ("write error: Bad file descriptor", 1)

/-- Does the work of a tool. If its output is closed, that matters as soon as there is something to
write; some tools look at it in any case. -/
def toOutput (name : String) (act : Session → Session) (s : Session) : Session :=
  if (s.stream? 1).isSome then act s
  else
    let (message, status) := closedOutput name
    let refused (s : Session) : Session := (say s!"{name}: {message}" s).status status
    if name = "cat" then refused s
    else
      let (n, t) := s.openChannel []
      let t := (act (t.connect 1 (.channel n))).close 1
      if t.channelText n = [] ∧ name ≠ "grep" then t else refused t

/-- Reports that something could not be done to a file. -/
def fail (message : String) (e : Host.Error) (s : Session) : Session :=
  (say s!"{message}: {errorText e}" s).status 1

/-- Reports words that a tool does not understand. -/
def misused (name message : String) (status : Nat) (s : Session) : Session :=
  ((say s!"{name}: {message}" s).write 2
    s!"Try '{name} --help' for more information.\n".toList).status status

/-- Runs a tool with the words after its name. -/
def run (t : Tool) (words : List Text) (s : Session) : Session :=
  match t.grammar with
  | none => t.act ⟨[], words⟩ s
  | some g =>
    match g.read (words.length + 1) words with
    | .ok r => t.act r s
    | .error message => misused t.name message t.misuse s

/-- Does something for each of several words; the status says whether all of it succeeded. -/
def forEach (act : Text → Session → Session) (words : List Text) (s : Session) : Session :=
  words.foldl
    (fun s word =>
      let before := s.process.status
      let s := act word s
      if before = 0 then s else s.status (max before s.process.status))
    (s.status 0)

/-! ## Files -/

/-- Whether something is true of what a path leads to. -/
def nodeIs (s : Session) (file : Text) (what : Node → Bool) : Bool :=
  match s.files.find (pathOf file) with
  | .ok (_, n) => what n
  | .error _ => false

/-- What a path itself names, if it names anything. -/
def nodeAt? (s : Session) (file : Text) : Option (Location × Node) :=
  match s.files.locate false (pathOf file) with
  | .ok l => (s.files.node? l).map (l, ·)
  | .error _ => none

def isLink (s : Session) (file : Text) : Bool := (nodeAt? s file).any (·.2.isLink)

def isDirectory (s : Session) (file : Text) : Bool := nodeIs s file Node.isDirectory

/-- The bytes that a word leads to; a dash means the input. -/
def contentOf (file : Text) (s : Session) : Except Host.Error (Text × Session) := do
  if file = ['-'] then return s.takeAll 0
  else
    if isDirectory s file then throw Files.isADirectory
    let (stream, t) ← s.streamToRead file
    let (content, _) := (t.connect 0 stream).takeAll 0
    return (content, s)

/-- The words that name inputs; without any it is the input itself. -/
def inputs (r : Request) : List Text := if r.operands = [] then [['-']] else r.operands

/-- The lines of a text, each with the newline at its end if it has one. -/
def linesOf : Text → List Text
  | [] => []
  | c :: rest =>
    if c = '\n' then ['\n'] :: linesOf rest
    else
      match linesOf rest with
      | [] => [[c]]
      | line :: more => (c :: line) :: more

/-- A line without the newline at its end. -/
def bare (line : Text) : Text := if line.getLast? = some '\n' then line.dropLast else line

/-- A whole number without a sign. -/
def natural? (t : Text) : Option Nat := number? t

def decimal (n : Nat) : Text := (toString n).toList

/-- A text after enough blanks to be so long. -/
def padded (width : Nat) (t : Text) : Text := List.replicate (width - t.length) ' ' ++ t

/-! ## Collections -/

/-- A tool that reads options among its words. -/
def withOptions (name flags valued : String) (long : List (String × Char))
    (act : Request → Session → Session) : Tool :=
  { name, grammar := some ⟨flags, valued, long, true⟩, misuse := 1, act }

/-- A tool that takes every word as it is. -/
def plain (name : String) (act : List Text → Session → Session) : Tool :=
  { name, grammar := none, misuse := 1, act := fun r => act r.operands }

/-- A tool whose misuse has a status of its own. -/
def withMisuse (status : Nat) (t : Tool) : Tool := { t with misuse := status }

end Tool
end DefectGate.Workspace
