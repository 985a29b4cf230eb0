import DefectGate.Workspace.Tools.Basic
import DefectGate.Workspace.Tools.Regular

/-!
# Searching lines

The tool `grep`: the lines of inputs that match one of several patterns.
-/
namespace DefectGate.Workspace.Tool

open Shell (Text)

namespace Search

/-- Whether what stands around a match is no part of the same word. -/
def isWhole (m : Regular.Match) : Bool :=
  !m.before.getLast?.any Regular.isWordChar && !m.after.head?.any Regular.isWordChar

/-- The leftmost match of one of several expressions; of several at one place the longest. -/
def first? (es : List Regular) (ignoringCase : Bool) (before after : Text) :
    Option Regular.Match :=
  let found := es.filterMap fun e =>
    e.searchFrom ignoringCase (e.fuelFor (before ++ after)) before after
  found.foldl
    (fun best m =>
      match best with
      | none => some m
      | some b =>
        if m.before.length < b.before.length ∨
            (m.before.length = b.before.length ∧ b.matched.length < m.matched.length) then some m
        else some b) none

/-- All matches in a line, from left to right. -/
def all (es : List Regular) (ignoringCase wholeWords : Bool) :
    (fuel : Nat) → (before after : Text) → List Regular.Match
  | 0, _, _ => []
  | fuel + 1, before, after =>
    match first? es ignoringCase before after with
    | none => []
    | some m =>
      let skipped : Text := if m.matched = [] then m.after.take 1 else []
      let before := (m.before ++ m.matched ++ skipped).reverse
      let rest := all es ignoringCase wholeWords fuel before (m.after.drop skipped.length)
      let more := if m.matched = [] ∧ m.after = [] then [] else rest
      if wholeWords ∧ !isWhole m then more else m :: more

/-- The matches of a request in a line. -/
def matchesIn (r : Request) (es : List Regular) (line : Text) : List Regular.Match :=
  let found := all es (r.has 'i' || r.has 'y') (r.has 'w') (line.length + 2) [] line
  if r.has 'x' then found.filter fun m => m.before = [] ∧ m.after = [] else found

/-- The expressions of a request and the words after them. -/
def expressions (r : Request) (s : Session) : Except String (List Regular × List Text) := do
  let given := (r.options.filter (·.1 = 'e')).map (·.2)
  let (texts, files) ←
    match r.value? 'f' with
    | some file =>
      match contentOf file s with
      | .ok (t, _) => pure (given ++ (linesOf t).map bare, r.operands)
      | .error e => throw s!"{shown file}: {errorText e}"
    | none =>
      match given, r.operands with
      | [], t :: files => pure ([t], files)
      | given, files => pure (given, files)
  let texts := texts.flatMap fun t => if t = [] then [[]] else (linesOf t).map bare
  let texts := if r.has 'x' then texts else texts
  let read (t : Text) : Except String Regular :=
    if r.has 'F' then .ok (.ofLiteral t)
    else
      let e := Regular.ofText (r.has 'E') t
      if r.has 'x' then e.map fun e => .sequence .start (.sequence e .finish) else e
  return (← texts.mapM read, files)

end Search

def grep (r : Request) (s : Session) : Session :=
  match Search.expressions r s with
  | .error message => (say s!"grep: {message}" s).status 2
  | .ok ([], _) =>
    (say "Try 'grep --help' for more information."
      (say "Usage: grep [OPTION]... PATTERNS [FILE]..." s)).status 2
  | .ok (es, files) =>
    let titled := (1 < files.length ∨ r.has 'H') ∧ !r.has 'h'
    let most := (r.value? 'm').bind natural?
    let step (state : Bool × Bool × Session) (file : Text) : Bool × Bool × Session :=
      let (found, failed, s) := state
      match contentOf file s with
      | .error e =>
        (found, true, if r.has 's' then s else say s!"grep: {shown file}: {errorText e}" s)
      | .ok (t, s) =>
        let name := if file = ['-'] then "(standard input)".toList else file
        let mark : Text := if titled then name ++ [':'] else []
        let lines := ((linesOf t).map bare).zipIdx 1
        let isMeant (line : Text) : Bool := (Search.matchesIn r es line).isEmpty == r.has 'v'
        let hits := lines.filter fun (line, _) => isMeant line
        let hits := match most with | some n => hits.take n | none => hits
        let number (n : Nat) : Text := if r.has 'n' then decimal n ++ [':'] else []
        let shownLines : Text :=
          if r.has 'q' then []
          else if r.has 'l' then (if hits = [] then [] else name ++ ['\n'])
          else if r.has 'L' then (if hits = [] then name ++ ['\n'] else [])
          else if r.has 'c' then mark ++ decimal hits.length ++ ['\n']
          else if r.has 'o' then
            hits.flatMap fun (line, n) =>
              ((Search.matchesIn r es line).filter (·.matched ≠ [])).flatMap fun m =>
                mark ++ number n ++ m.matched ++ ['\n']
          else hits.flatMap fun (line, n) => mark ++ number n ++ line ++ ['\n']
        (found || hits ≠ [], failed, out shownLines s)
    let words := if files = [] then [['-']] else files
    let (found, failed, s) := words.foldl step (false, false, s)
    s.status (if failed ∧ !(found ∧ r.has 'q') then 2 else if found then 0 else 1)

end DefectGate.Workspace.Tool
