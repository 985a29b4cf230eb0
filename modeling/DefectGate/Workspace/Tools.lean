import DefectGate.Sha256
import DefectGate.Workspace.Programs
import DefectGate.Workspace.Tools.Editing
import DefectGate.Workspace.Tools.Expressions
import DefectGate.Workspace.Tools.Files
import DefectGate.Workspace.Tools.Tests

/-!
# The tools of the system

All programs of the system that do not run others, by name.
-/
namespace DefectGate.Workspace

open Shell (Text)

namespace Tool

/-! ## Time and numbers -/

/-- A time in nanoseconds: a decimal fraction of seconds, or of the unit named after it. -/
def nanoseconds? (t : Text) : Option Nat :=
  if t = "infinity".toList then some (Nat.pow 10 20)
  else
    let whole := t.takeWhile Shell.isDigit
    let rest := t.drop whole.length
    let fraction := match rest with | '.' :: r => r.takeWhile Shell.isDigit | _ => []
    let suffix := match rest with | '.' :: r => r.drop fraction.length | r => r
    let seconds? : Option Nat :=
      match suffix with
      | [] | ['s'] => some 1
      | ['m'] => some 60
      | ['h'] => some 3600
      | ['d'] => some 86400
      | _ => none
    if whole = [] ∧ fraction = [] then none
    else seconds?.map fun unit =>
      Shell.Arithmetic.numberOf 10 (whole ++ fraction) * unit * 1000000000 /
        Nat.pow 10 fraction.length

def sleep (r : Request) (s : Session) : Session :=
  let wrong := r.operands.filter fun t => (nanoseconds? t).isNone
  if r.operands = [] then misused "sleep" "missing operand" 1 s
  else if wrong ≠ [] then
    let s := wrong.foldl (fun s t => say s!"sleep: invalid time interval '{shown t}'" s) s
    (say "Try 'sleep --help' for more information." s).status 1
  else (s.advance ((r.operands.filterMap nanoseconds?).foldl (· + ·) 0)).status 0

/-- The numbers from one on by equal steps, as long as they do not pass the last. -/
def steps (first step last : Int) : List Int :=
  if step = 0 then []
  else
    let n := if 0 < step then (last - first) / step else (first - last) / (-step)
    if n < 0 then [] else (List.range (n.toNat + 1)).map fun k : Nat => first + step * k

/-- The separator, the wish for equal widths and the numbers in the words of `seq`. -/
def sequenceWords (separator : Text) (equal : Bool) : List Text → Text × Bool × List Text
  | ['-', 's'] :: t :: rest => sequenceWords t equal rest
  | ('-' :: 's' :: t) :: rest => sequenceWords t equal rest
  | ['-', 'w'] :: rest => sequenceWords separator true rest
  | words => (separator, equal, words)

def seq (words : List Text) (s : Session) : Session :=
  let (separator, equal, words) := sequenceWords ['\n'] false words
  match words.find? fun t => (Expressions.integer? t).isNone with
  | some t => misused "seq" s!"invalid floating point argument: '{shown t}'" 1 s
  | none =>
    let numbers? : Option (List Int) :=
      match words.filterMap Expressions.integer? with
      | [last] => some (steps 1 1 last)
      | [first, last] => some (steps first 1 last)
      | [first, step, last] => some (steps first step last)
      | _ => none
    match numbers? with
    | none =>
      match words[3]? with
      | some extra => misused "seq" s!"extra operand '{shown extra}'" 1 s
      | none => misused "seq" "missing operand" 1 s
    | some numbers =>
      let texts := numbers.map Expressions.ofInt
      let width := (texts.map List.length).foldl max 0
      let wide (t : Text) : Text :=
        if !equal then t
        else
          let (sign, digits) := match t with | '-' :: ds => (['-'], ds) | ds => ([], ds)
          sign ++ List.replicate (width - t.length) '0' ++ digits
      let line := ((texts.map wide).intersperse separator).flatten
      put (if texts = [] then [] else line ++ ['\n']) s

/-! ## Output -/

/-- The flags of `echo` at the start of its words: whether a newline ends the output, and whether
backslashes mean more than themselves. -/
def echoWords (newline escapes : Bool) : List Text → Bool × Bool × List Text
  | [] => (newline, escapes, [])
  | word :: rest =>
    match word with
    | '-' :: c :: cs =>
      if (c :: cs).all (· ∈ ['n', 'e', 'E']) then
        let escapes :=
          match (c :: cs).reverse.find? (· ≠ 'n') with
          | some c => c = 'e'
          | none => escapes
        echoWords (newline && 'n' ∉ c :: cs) escapes rest
      else (newline, escapes, word :: rest)
    | _ => (newline, escapes, word :: rest)

def echo (words : List Text) (s : Session) : Session :=
  let (newline, escapes, words) := echoWords true false words
  let t := Shell.Format.spaced words
  let (t, ends) := if escapes then Shell.Format.unescaped (t.length + 1) t else (t, false)
  put (if newline ∧ !ends then t ++ ['\n'] else t) s

def printf (words : List Text) (s : Session) : Session :=
  if words = [] then misused "printf" "missing operand" 1 s
  else
    let printed := Shell.Format.printf words
    let s := printed.complaints.foldl (fun s m => say s!"printf: {m}" s) s
    match printed.failure with
    | some m => (say s!"printf: {m}" (out printed.out s)).status 1
    | none => (put printed.out s).status (if printed.complaints = [] then 0 else 1)

/-- How many bytes are written to a reader that may have stopped reading. -/
def pipeSize : Nat := 65536

def yes (words : List Text) (s : Session) : Session :=
  let line := (if words = [] then ['y'] else Shell.Format.spaced words) ++ ['\n']
  (out (List.replicate (pipeSize / line.length + 1) line).flatten s).status 141

/-! ## Questions -/

def answer (name : String) (question : List Text) (s : Session) : Session :=
  match holds s question with
  | .ok true => s.status 0
  | .ok false => s.status 1
  | .error message => (say s!"{name}: {message}" s).status 2

def bracket (words : List Text) (s : Session) : Session :=
  if words.getLast? = some [']'] then answer "[" words.dropLast s
  else (say "[: missing ']'" s).status 2

def cmp (r : Request) (s : Session) : Session :=
  match r.operands with
  | file :: others =>
    let other := others.headD ['-']
    match contentOf file s, contentOf other s with
    | .error e, _ => (fail s!"cmp: {shown file}" e s).status 2
    | _, .error e => (fail s!"cmp: {shown other}" e s).status 2
    | .ok (a, _), .ok (b, s) =>
      let same := (a.zip b).takeWhile fun (c, d) => c = d
      let line := (same.filter (·.1 = '\n')).length + 1
      if a = b then s.status 0
      else if r.has 's' then s.status 1
      else if same.length = min a.length b.length then
        let shorter := if a.length < b.length then file else other
        let place := s!"after byte {same.length}, in line {line}"
        (say s!"cmp: EOF on {shown shorter} {place}" s).status 1
      else
        (out s!"{shown file} {shown other} differ: char {same.length + 1}, line {line}\n".toList
          s).status 1
  | [] => misused "cmp" "missing operand after 'cmp'" 2 s

def sha256sum (r : Request) (s : Session) : Session :=
  eachInput r (fun file => s!"sha256sum: {shown file}")
    (fun file t => put ((Sha256.digest (Text.toBytes t)).toHex ++ s!"  {shown file}\n").toList) s

def which (r : Request) (s : Session) : Session :=
  let directories := (Shell.sections ':' ((s.lookup? "PATH".toList).getD [])).map pathOf
  let one (name : Text) (s : Session) : Session :=
    let found :=
      if '/' ∈ name then
        if nodeIs s name Node.isExecutable then some name else none
      else
        (Image.locate s.files (pathOf name) false directories).toOption.map fun path =>
          Text.ofBytes path.bytes
    match found with
    | some path => put (path ++ ['\n']) s
    | none => s.status 1
  if r.operands = [] then s.status 1 else forEach one r.operands s

/-! ## The collection -/

/-- Tools for time, numbers, output and questions. -/
def various : List Tool :=
  [plain "true" fun _ s => s.status 0, plain "false" fun _ s => s.status 1,
    plain "echo" echo, plain "printf" printf, plain "test" (answer "test"), plain "[" bracket,
    plain "seq" seq, plain "expr" expr, plain "yes" yes, plain "sync" fun _ s => s.status 0,
    plain "uname" fun _ => put "Linux\n".toList,
    plain "whoami" fun _ => put "root\n".toList,
    withOptions "sleep" "" "" [] sleep,
    withMisuse 2 (withOptions "cmp" "sl" "" [("quiet", 's'), ("silent", 's')] cmp),
    withOptions "sha256sum" "bt" "" [] sha256sum, withOptions "which" "as" "" [] which,
    withMisuse 2 (withOptions "grep" "EFGivcnqolLhHswxya" "efm"
      [("extended-regexp", 'E'), ("fixed-strings", 'F'), ("ignore-case", 'i'),
        ("invert-match", 'v'), ("count", 'c'), ("line-number", 'n'), ("quiet", 'q'),
        ("silent", 'q'), ("only-matching", 'o'), ("files-with-matches", 'l'),
        ("word-regexp", 'w'), ("line-regexp", 'x'), ("regexp", 'e'), ("text", 'a')] grep),
    withOptions "sed" "nErsiuz" "ef"
      [("quiet", 'n'), ("silent", 'n'), ("expression", 'e'), ("regexp-extended", 'E'),
        ("in-place", 'i')] sed]

/-- All tools. -/
def all : List Tool := various ++ forFiles ++ forLines

/-- Words of tools that know a count by itself as an option. -/
def prepared (name : String) (words : List Text) : List Text :=
  if name = "head" ∨ name = "tail" then withCount words else words

/-- Runs the tool of a name, if there is one. -/
def perform? (name : String) (words : List Text) (s : Session) : Option Session :=
  (all.find? (·.name = name)).map fun t => toOutput name (t.run (prepared name words)) s

end Tool
end DefectGate.Workspace
