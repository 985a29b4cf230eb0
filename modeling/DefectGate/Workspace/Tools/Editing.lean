import DefectGate.Workspace.Tools.Lines
import DefectGate.Workspace.Tools.Search

/-!
# Editing streams of lines

The tool `sed`: commands with addresses that are applied to one line of the input after the other.
-/
namespace DefectGate.Workspace.Tool

open Shell (Text)

namespace Editing

inductive Address where
  | line (n : Nat)
  /-- Every so many lines from one on. -/
  | steps (first every : Nat)
  | last
  | pattern (e : Regular) (ignoringCase : Bool)

/-- A part of a replacement. -/
inductive Part where
  | text (t : Text)
  | group (n : Nat)

structure Substitution where
  expression : Regular
  ignoringCase : Bool
  replacement : List Part
  /-- From which match on; all that follow are replaced too if it is global. -/
  nth : Nat
  isGlobal : Bool
  prints : Bool

inductive Action where
  | substitute (s : Substitution)
  | translate (before after : Text)
  | append (t : Text)
  | insert (t : Text)
  | change (t : Text)
  | quit (silently : Bool) (status : Nat)
  /-- A command without anything after its letter. -/
  | letter (c : Char)
  /-- The start of a block of so many commands. -/
  | block (length : Nat)

structure Command where
  first : Option Address
  last : Option Address
  negated : Bool
  action : Action

/-! ## Reading -/

/-- Reads a script; what is wrong with it comes with what was left of it. -/
abbrev Reading := StateT Text (Except (String × Text))

def complain (message : String) : Reading α := do throw (message, ← get)

def skipBlanks : Reading Unit := modify (·.dropWhile Shell.Arithmetic.isSpace)

/-- The text up to a mark; a backslash before the mark is taken away, and in square brackets it is
no mark. -/
def upTo (mark : Char) : (inBrackets : Bool) → Text → Option (Text × Text)
  | _, [] => none
  | inBrackets, '\\' :: c :: rest =>
    (upTo mark inBrackets rest).map fun (t, after) =>
      (if c = mark then c :: t else '\\' :: c :: t, after)
  | inBrackets, c :: rest =>
    if c = mark ∧ !inBrackets then some ([], rest)
    else
      let inBrackets := if c = '[' then true else if c = ']' then false else inBrackets
      (upTo mark inBrackets rest).map fun (t, after) => (c :: t, after)

def delimited (mark : Char) (message : String) : Reading Text := do
  match upTo mark false (← get) with
  | some (part, after) =>
    set after
    return part
  | none => throw (message, [])

def natural : Reading Nat := do
  let (ds, rest) := Shell.Arithmetic.digits 10 (← get)
  set rest
  return Shell.Arithmetic.numberOf 10 ds

def expression (extended : Bool) (t : Text) : Reading Regular :=
  match Regular.ofText extended t with
  | .ok e => return e
  | .error message => complain message

def address? (extended : Bool) : Reading (Option Address) := do
  match ← get with
  | '$' :: rest =>
    set rest
    return some .last
  | '/' :: rest =>
    set rest
    let t ← delimited '/' "unterminated address regex"
    let e ← expression extended t
    match ← get with
    | 'I' :: rest =>
      set rest
      return some (.pattern e true)
    | _ => return some (.pattern e false)
  | c :: _ =>
    if !Shell.isDigit c then return none
    let n ← natural
    match ← get with
    | '~' :: rest =>
      set rest
      return some (.steps n (← natural))
    | _ => return some (.line n)
  | [] => return none

/-- The parts of a replacement. -/
def parts : Text → List Part
  | [] => []
  | '\\' :: c :: rest =>
    if Shell.isDigit c then .group (c.toNat - '0'.toNat) :: parts rest
    else .text [if c = 'n' then '\n' else if c = 't' then '\t' else c] :: parts rest
  | c :: rest => (if c = '&' then .group 0 else .text [c]) :: parts rest

/-- The flags after a substitution. -/
def flags : (fuel : Nat) → Substitution → Reading Substitution
  | 0, s => return s
  | fuel + 1, s => do
    match ← get with
    | 'g' :: rest =>
      set rest
      flags fuel { s with isGlobal := true }
    | 'p' :: rest =>
      set rest
      flags fuel { s with prints := true }
    | 'i' :: rest | 'I' :: rest =>
      set rest
      flags fuel { s with ignoringCase := true }
    | c :: _ => if Shell.isDigit c then flags fuel { s with nth := ← natural } else return s
    | [] => return s

/-- A text up to a newline that has no backslash before it, and what follows. -/
def untilNewline : Text → Text × Text
  | [] => ([], [])
  | '\\' :: c :: rest =>
    let (t, after) := untilNewline rest
    (c :: t, after)
  | c :: rest =>
    if c = '\n' then ([], rest)
    else
      let (t, after) := untilNewline rest
      (c :: t, after)

/-- Text that a command adds: the rest of its line, and further lines after backslashes. -/
def addedText : Reading Text := do
  modify (·.dropWhile Shell.isBlank)
  match ← get with
  | '\\' :: rest =>
    let rest := rest.dropWhile Shell.isBlank
    set (match rest with | '\n' :: rest => rest | rest => rest)
  | _ => pure ()
  let (t, after) := untilNewline (← get)
  set after
  return t ++ ['\n']

/-- The command after an address. -/
def action (extended : Bool) : Reading Action := do
  match ← get with
  | [] => complain "missing command"
  | c :: rest =>
    set rest
    match c with
    | 's' | 'y' =>
      match ← get with
      | [] => complain s!"unterminated \x60{c}' command"
      | mark :: rest =>
        set rest
        let first ← delimited mark s!"unterminated \x60{c}' command"
        let second ← delimited mark s!"unterminated \x60{c}' command"
        if c = 'y' then return .translate first second
        let e ← expression extended first
        return .substitute (← flags 8 ⟨e, false, parts second, 1, false, false⟩)
    | 'a' => return .append (← addedText)
    | 'i' => return .insert (← addedText)
    | 'c' => return .change (← addedText)
    | 'q' | 'Q' =>
      modify (·.dropWhile Shell.isBlank)
      return .quit (c = 'Q') (← natural)
    | '=' | 'd' | 'D' | 'p' | 'P' | 'n' | 'N' | 'h' | 'H' | 'g' | 'G' | 'x' => return .letter c
    | c => complain s!"unknown command: \x60{c}'"

/-- Commands up to the end or a closing bracket. -/
def commands (extended : Bool) : (fuel : Nat) → Reading (List Command)
  | 0 => return []
  | fuel + 1 => do
    modify (·.dropWhile fun c => Shell.Arithmetic.isSpace c || c = ';')
    match ← get with
    | [] => return []
    | '\x7d' :: rest =>
      set rest
      return []
    | '#' :: rest =>
      set (rest.dropWhile (· ≠ '\n'))
      commands extended fuel
    | _ =>
      let first ← address? extended
      skipBlanks
      let last ←
        match first, ← get with
        | some _, ',' :: rest =>
          set (rest.dropWhile Shell.isBlank)
          address? extended
        | _, _ => pure none
      skipBlanks
      let negated := (← get).head? = some '!'
      if negated then modify fun t => t.tail.dropWhile fun c => Shell.isBlank c || c = '!'
      match ← get with
      | '\x7b' :: rest =>
        set rest
        let inner ← commands extended fuel
        return ⟨first, last, negated, .block inner.length⟩ :: inner ++ (← commands extended fuel)
      | _ =>
        let a ← action extended
        modify (·.dropWhile Shell.isBlank)
        let next := (← get).head?
        if next.any (· ∉ ['\n', ';', '\x7d', '#']) then
          modify (·.drop 1)
          complain "extra characters after command"
        return ⟨first, last, negated, a⟩ :: (← commands extended fuel)

/-! ## Editing -/

structure State where
  /-- The lines that have not been read. -/
  rest : List Text
  number : Nat
  pattern : Text
  hold : Text
  out : Text
  /-- What is written after the line. -/
  appended : Text
  /-- The commands, by place, whose ranges have begun, with the line of their start. -/
  ranges : List (Nat × Nat)

/-- How editing goes on after a command. -/
inductive Next where
  | command
  | cycle
  | quit (prints : Bool) (status : Nat)

def Address.holds (s : State) : Address → Bool
  | .line n => s.number = n
  | .steps first every =>
    if every = 0 then s.number = first else first ≤ s.number && (s.number - first) % every = 0
  | .last => s.rest.isEmpty
  | .pattern e ignoringCase => (e.search? ignoringCase s.pattern).isSome

/-- Whether a command at a place applies to the line, and the ranges that have begun after that. -/
def applies (place : Nat) (c : Command) (s : State) : Bool × State :=
  let (holds, s) : Bool × State :=
    match c.first, c.last with
    | none, _ => (true, s)
    | some a, none => (a.holds s, s)
    | some a, some b =>
      let others := s.ranges.filter (·.1 ≠ place)
      let endsBy (n : Nat) : Bool :=
        match b with
        | .line m => m ≤ n
        | b => b.holds s
      if s.ranges.any (·.1 = place) then
        (true, if endsBy s.number then { s with ranges := others } else s)
      else if a.holds s then
        let isOver :=
          match b with
          | .line m => decide (m ≤ s.number)
          | .last => s.rest.isEmpty
          | _ => false
        (true, if isOver then s else { s with ranges := (place, s.number) :: s.ranges })
      else (false, s)
  (holds != c.negated, s)

/-- What a replacement becomes for a match. -/
def replaced (parts : List Part) (m : Regular.Match) : Text :=
  parts.flatMap fun
    | .text t => t
    | .group 0 => m.matched
    | .group n => ((m.groups.find? (·.1 = n)).map (·.2)).getD []

/-- A text after a substitution, and whether anything was replaced. Nothing is matched by an empty
part right after a match. -/
def Substitution.apply (sub : Substitution) : (fuel : Nat) → (count : Nat) → (afterMatch : Bool) →
    (before after : Text) → Text × Bool
  | 0, _, _, _, after => (after, false)
  | fuel + 1, count, afterMatch, before, after =>
    match sub.expression.searchFrom sub.ignoringCase
      (sub.expression.fuelFor (before ++ after)) before after with
    | none => (after, false)
    | some m =>
      let isEmpty := afterMatch && m.matched.isEmpty && m.before.length = before.length
      let isMeant := !isEmpty && if sub.isGlobal then sub.nth ≤ count else count = sub.nth
      let between := m.before.drop before.length
      let new := if isMeant then replaced sub.replacement m else m.matched
      let skipped : Text := if m.matched = [] then m.after.take 1 else []
      let isOver := (isMeant ∧ !sub.isGlobal) ∨ (m.matched = [] ∧ m.after = [])
      let (more, changed) :=
        if isOver then (m.after.drop skipped.length, false)
        else
          sub.apply fuel (if isEmpty then count else count + 1) (m.matched ≠ [])
            (m.before ++ m.matched ++ skipped).reverse (m.after.drop skipped.length)
      (between ++ new ++ skipped ++ more, isMeant || changed)

def State.write (s : State) (t : Text) : State := { s with out := s.out ++ t }

def firstLine (t : Text) : Text := t.takeWhile (· ≠ '\n')

/-- Does one command. -/
def perform (quiet : Bool) (a : Action) (s : State) : Next × State :=
  match a with
  | .block _ => (.command, s)
  | .substitute sub =>
    let (t, changed) := sub.apply (s.pattern.length + 2) 1 false [] s.pattern
    let s := { s with pattern := t }
    (.command, if changed ∧ sub.prints then s.write (t ++ ['\n']) else s)
  | .translate before after =>
    (.command, { s with pattern := s.pattern.map fun c =>
      if c ∈ before then after.getD (before.idxOf c) c else c })
  | .append t => (.command, { s with appended := s.appended ++ t })
  | .insert t => (.command, s.write t)
  | .change t => (.cycle, ({ s with pattern := [] } : State).write t)
  | .quit silently status => (.quit (!silently && !quiet) status, s)
  | .letter c =>
    match c with
    | '=' => (.command, s.write (decimal s.number ++ ['\n']))
    | 'd' => (.cycle, s)
    | 'p' => (.command, s.write (s.pattern ++ ['\n']))
    | 'P' => (.command, s.write (firstLine s.pattern ++ ['\n']))
    | 'h' => (.command, { s with hold := s.pattern })
    | 'H' => (.command, { s with hold := s.hold ++ '\n' :: s.pattern })
    | 'g' => (.command, { s with pattern := s.hold })
    | 'G' => (.command, { s with pattern := s.pattern ++ '\n' :: s.hold })
    | 'x' => (.command, { s with pattern := s.hold, hold := s.pattern })
    | 'n' =>
      match s.rest with
      | [] => (.quit (!quiet) 0, s)
      | line :: rest =>
        let s := if quiet then s else s.write (s.pattern ++ ['\n'])
        let s := s.write s.appended
        (.command, { s with pattern := line, rest, number := s.number + 1, appended := [] })
    | 'N' =>
      match s.rest with
      | [] => (.quit (!quiet) 0, s)
      | line :: rest =>
        (.command, { s with pattern := s.pattern ++ '\n' :: line, rest, number := s.number + 1 })
    | _ =>
      let more := s.pattern.drop (firstLine s.pattern).length
      match more with
      | [] => (.cycle, s)
      | _ :: more => (.cycle, { s with rest := more :: s.rest, number := s.number - 1 })

/-- Does commands one after the other; those of a block that does not apply are left out. -/
def performAll (quiet : Bool) : (fuel : Nat) → (place : Nat) → List Command → State → Next × State
  | 0, _, _, s => (.cycle, s)
  | _, _, [], s => (.command, s)
  | fuel + 1, place, c :: cs, s =>
    let (isMeant, s) := applies place c s
    if !isMeant then
      let skipped := match c.action with | .block n => n | _ => 0
      performAll quiet fuel (place + skipped + 1) (cs.drop skipped) s
    else
      match perform quiet c.action s with
      | (.command, s) => performAll quiet fuel (place + 1) cs s
      | other => other

/-- Edits line after line; the answer is also the status. -/
def edit (quiet : Bool) (cs : List Command) : (fuel : Nat) → State → State × Nat
  | 0, s => (s, 0)
  | fuel + 1, s =>
    match s.rest with
    | [] => (s, 0)
    | line :: rest =>
      let s := { s with rest, pattern := line, number := s.number + 1 }
      let finish (prints : Bool) (s : State) : State :=
        let s := if prints then s.write (s.pattern ++ ['\n']) else s
        { s.write s.appended with appended := [] }
      match performAll quiet (cs.length + 1) 0 cs s with
      | (.command, s) => edit quiet cs fuel (finish (!quiet) s)
      | (.cycle, s) => edit quiet cs fuel (finish false s)
      | (.quit prints status, s) => (finish prints s, status)

/-- A text after editing, and the status. -/
def run (quiet : Bool) (cs : List Command) (t : Text) : Text × Nat :=
  let lines := (linesOf t).map bare
  let (s, status) := edit quiet cs (2 * t.length + 8) ⟨lines, 0, [], [], [], [], []⟩
  let isOpen := t ≠ [] ∧ t.getLast? ≠ some '\n' ∧ s.rest = []
  (if isOpen ∧ s.out.getLast? = some '\n' then s.out.dropLast else s.out, status)

end Editing

def sed (r : Request) (s : Session) : Session :=
  let given := (r.options.filter (·.1 = 'e')).map (·.2)
  let fromFile := ((r.value? 'f').bind fun file => (contentOf file s).toOption).map (·.1)
  let (scripts, files) :=
    match given ++ fromFile.toList, r.operands with
    | [], script :: files => ([script], files)
    | scripts, files => (scripts, files)
  let script : Text := (scripts.intersperse ['\n']).flatten
  if scripts = [] then
    (say "Usage: sed [OPTION]... \x7bscript-only-if-no-other-script\x7d [input-file]..." s).status 1
  else
    match (Editing.commands (r.has 'E' || r.has 'r') (script.length + 4)).run script with
    | .error (message, rest) =>
      let place := script.length - rest.length
      (say s!"sed: -e expression #1, char {place}: {message}" s).status 1
    | .ok (cs, _) =>
      if r.has 'i' then
        forEach
          (fun file s =>
            match s.files.find (pathOf file) with
            | .error e => (fail s!"sed: can't read {shown file}" e s).status 2
            | .ok (l, _) =>
              let (t, status) :=
                Editing.run (r.has 'n') cs (.ofBytes (s.files.contentAt l))
              let f := s.files.setContent l (Text.toBytes t)
              (s.setFiles f).status status) files s
      else
        let (t, s) := allInputs { r with operands := files }
          (fun file => s!"sed: can't read {shown file}") s
        let failed := s.process.status
        let (t, status) := Editing.run (r.has 'n') cs t
        (out t s).status (if failed = 0 then status else 2)

end DefectGate.Workspace.Tool
