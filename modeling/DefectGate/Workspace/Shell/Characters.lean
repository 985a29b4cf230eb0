import DefectGate.Workspace.Shell.Syntax

/-!
# Characters of scripts

Which characters make up names, which end a word, and how far a line, a quotation or a document
goes.
-/
namespace DefectGate.Workspace.Shell

def isDigit (c : Char) : Bool := '0' ≤ c ∧ c ≤ '9'

def isNameStart (c : Char) : Bool := ('a' ≤ c ∧ c ≤ 'z') ∨ ('A' ≤ c ∧ c ≤ 'Z') ∨ c = '_'

def isNameChar (c : Char) : Bool := isNameStart c ∨ isDigit c

def isName (t : Text) : Bool :=
  match t with
  | [] => false
  | c :: rest => isNameStart c && rest.all isNameChar

def isBlank (c : Char) : Bool := c = ' ' ∨ c = '\t'

/-- Whether a character ends a word that is not quoted. -/
def endsWord (c : Char) : Bool := isBlank c ∨ c ∈ ['\n', ';', '&', '|', '(', ')', '<', '>']

/-- The signs that are parameters by themselves. -/
def isSign (c : Char) : Bool := c ∈ ['@', '*', '#', '?', '$', '!', '-']

/-- The name of a parameter at the start of a text: a name, a number or a single sign. -/
def parameterName (t : Text) : Text :=
  match t with
  | [] => []
  | c :: _ =>
    if isNameStart c then t.takeWhile isNameChar
    else if isDigit c then t.takeWhile isDigit
    else if isSign c then [c]
    else []

/-- The sections of a text between the occurrences of a character. -/
def sections (separator : Char) : Text → List Text
  | [] => [[]]
  | c :: rest =>
    match sections separator rest with
    | [] => [[c]]
    | first :: more => if c = separator then [] :: first :: more else (c :: first) :: more

/-- What stands before a character, if it occurs. -/
def upTo (stop : Char) (t : Text) : Option Text :=
  if stop ∈ t then some (t.takeWhile (· ≠ stop)) else none

/-- The text between two back quotes and how many characters it takes with the second one. In it a
backslash keeps its meaning except before some characters. -/
def upToBackQuote (quoted : Bool) : Text → Option (Text × Nat)
  | [] => none
  | '\x60' :: _ => some ([], 1)
  | '\\' :: c :: rest =>
    let kept := if c ∈ ['$', '\x60', '\\'] ∨ (quoted ∧ c = '"') then [c] else ['\\', c]
    (upToBackQuote quoted rest).map fun (t, n) => (kept ++ t, n + 2)
  | c :: rest => (upToBackQuote quoted rest).map fun (t, n) => (c :: t, n + 1)

/-- How many characters there are before the next lexeme: blanks, joined lines and a comment. -/
def gap : Text → Nat
  | [] => 0
  | '\\' :: '\n' :: rest => gap rest + 2
  | c :: rest =>
    if isBlank c then gap rest + 1
    else if c = '#' then (rest.takeWhile (· ≠ '\n')).length + 1
    else 0

/-- Where a line stands with respect to quotes and comments. -/
inductive Inside where
  | plain
  | plainEscape
  | single
  | double
  | doubleEscape
  | comment
  deriving DecidableEq, Repr

def Inside.next (i : Inside) (afterBlank : Bool) (c : Char) : Inside :=
  match i with
  | .plain =>
    if c = '\\' then .plainEscape else if c = '\'' then .single else if c = '"' then .double
    else if c = '#' ∧ afterBlank then .comment else .plain
  | .plainEscape => .plain
  | .single => if c = '\'' then .plain else .single
  | .double => if c = '\\' then .doubleEscape else if c = '"' then .plain else .double
  | .doubleEscape => .double
  | .comment => .comment

/-- What stands before the newline that ends a line, and what follows it. -/
def upToLineEnd : Inside → (afterBlank : Bool) → Text → Text × Text
  | _, _, [] => ([], [])
  | i, afterBlank, c :: rest =>
    if c = '\n' ∧ (i = .plain ∨ i = .comment) then ([], rest)
    else
      let (line, more) := upToLineEnd (i.next afterBlank c) (isBlank c) rest
      (c :: line, more)

/-- The first line of a text with its newline, if it has one, and what follows. -/
def firstLine (t : Text) : Text × Text :=
  let line := t.takeWhile (· ≠ '\n')
  let more := t.drop line.length
  (line ++ more.take 1, more.drop 1)

/-- The lines up to one that is the delimiter, how many lines that takes, and what follows. -/
def documentLines (delimiter : Text) (dropTabs : Bool) : (fuel : Nat) → Text → Text × Nat × Text
  | 0, t => ([], 0, t)
  | fuel + 1, t =>
    if t = [] then ([], 0, [])
    else
      let (line, more) := firstLine t
      let line := if dropTabs then line.dropWhile (· = '\t') else line
      if line.takeWhile (· ≠ '\n') = delimiter then ([], 1, more)
      else
        let (content, lines, after) := documentLines delimiter dropTabs fuel more
        (line ++ content, lines + 1, after)

end DefectGate.Workspace.Shell
