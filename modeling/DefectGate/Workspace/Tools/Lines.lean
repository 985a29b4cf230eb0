import DefectGate.Workspace.Shell.Format
import DefectGate.Workspace.Shell.Pattern
import DefectGate.Workspace.Tools.Basic

/-!
# Tools for lines

Showing, counting, ordering, cutting and changing the lines of texts.
-/
namespace DefectGate.Workspace.Tool

open Shell (Text)

/-! ## Reading inputs -/

/-- Does something with the content of every input of a request. -/
def eachInput (r : Request) (complaint : Text → String) (act : Text → Text → Session → Session)
    (s : Session) : Session :=
  forEach
    (fun file s =>
      match contentOf file s with
      | .ok (t, s) => act file t (s.status 0)
      | .error e => fail (complaint file) e s) (inputs r) s

/-- The contents of all inputs that can be read, after complaints about those that can not. -/
def allInputs (r : Request) (complaint : Text → String) (s : Session) : Text × Session :=
  (inputs r).foldl
    (fun (t, s) file =>
      match contentOf file s with
      | .ok (content, s) => (t ++ content, s)
      | .error e => (t, fail (complaint file) e s)) ([], s.status 0)

/-! ## Showing -/

/-- The lines of a text with the changes that options of `cat` make, from a number on. -/
def decorated (r : Request) : (number : Nat) → (afterBlank : Bool) → List Text → Text
  | _, _, [] => []
  | n, afterBlank, line :: lines =>
    let isBlank := line = ['\n']
    if isBlank ∧ afterBlank ∧ r.has 's' then decorated r n true lines
    else
      let counts := if r.has 'b' then !isBlank else r.has 'n'
      let mark := if counts then padded 6 (decimal n) ++ ['\t'] else []
      let body := (bare line).flatMap fun c => if c = '\t' ∧ r.has 'T' then ['^', 'I'] else [c]
      let ending : Text := if line.length = (bare line).length then [] else ['\n']
      mark ++ body ++ (if r.has 'E' ∧ ending ≠ [] then ['$'] else []) ++ ending ++
        decorated r (if counts then n + 1 else n) isBlank lines

def cat (r : Request) (s : Session) : Session :=
  if r.options.all (·.1 = 'u') then
    eachInput r (fun file => s!"cat: {shown file}") (fun _ t => put t) s
  else
    let (t, s) := allInputs r (fun file => s!"cat: {shown file}") s
    put (decorated r 1 false (linesOf t)) s |>.status s.process.status

/-- How much of a text is shown. -/
structure Amount where
  inBytes : Bool
  /-- Whether the count is of what is left out at the other end. -/
  complement : Bool
  count : Nat

/-- The amount that a request for the start or the end of a text names. -/
def amount? (r : Request) (mark : Char) : Except String Amount :=
  let (inBytes, t) :=
    match r.last? ['n', 'c'] with
    | some 'c' => (true, (r.value? 'c').getD [])
    | _ => (false, (r.value? 'n').getD ['1', '0'])
  let (complement, digits) :=
    match t with
    | c :: rest => if c = mark then (true, rest) else (false, if c = '-' then rest else t)
    | [] => (false, [])
  match natural? digits with
  | some count => .ok ⟨inBytes, complement, count⟩
  | none =>
    let what := if inBytes then "bytes" else "lines"
    .error s!"invalid number of {what}: '{shown t}'"

/-- The option for a count that is written as a number after a dash. -/
def withCount : List Text → List Text
  | ('-' :: c :: cs) :: rest =>
    if (c :: cs).all Shell.isDigit then ['-', 'n'] :: (c :: cs) :: rest
    else ('-' :: c :: cs) :: rest
  | words => words

/-- The pieces that an amount counts. -/
def Amount.pieces (a : Amount) (t : Text) : List Text :=
  if a.inBytes then t.map ([·]) else linesOf t

def firstPart (a : Amount) (t : Text) : Text :=
  let pieces := a.pieces t
  (pieces.take (if a.complement then pieces.length - a.count else a.count)).flatten

def lastPart (a : Amount) (t : Text) : Text :=
  let pieces := a.pieces t
  (pieces.drop (if a.complement then a.count - 1 else pieces.length - a.count)).flatten

/-- Shows a part of each input; several have titles. -/
def showParts (name : String) (mark : Char) (part : Amount → Text → Text) (r : Request)
    (s : Session) : Session :=
  match amount? r mark with
  | .error message => (say s!"{name}: {message}" s).status 1
  | .ok a =>
    let titled := (1 < r.operands.length ∨ r.has 'v') ∧ !r.has 'q'
    let title (file : Text) : String :=
      let name := if file = ['-'] then "standard input" else shown file
      s!"==> {name} <==\n"
    let step (state : Bool × Session) (file : Text) : Bool × Session :=
      let (isFirst, s) := state
      let status := s.process.status
      match contentOf file s with
      | .error e =>
        let complaint :=
          if e = Files.isADirectory then s!"{name}: error reading '{shown file}'"
          else s!"{name}: cannot open '{shown file}' for reading"
        (isFirst, fail complaint e s)
      | .ok (t, s) =>
        let head := if titled then (if isFirst then "" else "\n") ++ title file else ""
        (false, put (head.toList ++ part a t) s |>.status status)
    ((inputs r).foldl step (true, s.status 0)).2

def head : Request → Session → Session := showParts "head" '-' firstPart

def tail : Request → Session → Session := showParts "tail" '+' lastPart

def tac (r : Request) (s : Session) : Session :=
  eachInput r (fun file => s!"tac: failed to open '{shown file}' for reading")
    (fun _ t => put (linesOf t).reverse.flatten) s

def rev (r : Request) (s : Session) : Session :=
  eachInput r (fun file => s!"rev: cannot open {shown file}")
    (fun _ t => put ((linesOf t).flatMap fun line =>
      (bare line).reverse ++ line.drop (bare line).length)) s

/-- Lines with their numbers; blank ones are not counted unless all are. -/
def numbered (all : Bool) : (number : Nat) → List Text → Text
  | _, [] => []
  | n, line :: lines =>
    if line = ['\n'] ∧ !all then List.replicate 7 ' ' ++ line ++ numbered all n lines
    else padded 6 (decimal n) ++ '\t' :: line ++ numbered all (n + 1) lines

def nl (r : Request) (s : Session) : Session :=
  let (t, s) := allInputs r (fun file => s!"nl: {shown file}") s
  put (numbered (r.value? 'b' = some ['a']) 1 (linesOf t)) s |>.status s.process.status

def tee (r : Request) (s : Session) : Session :=
  let (t, s) := s.takeAll 0
  let s := forEach
    (fun file s =>
      match s.streamToWrite (if r.has 'a' then .appending else .replacing) file with
      | .error e => fail s!"tee: {shown file}" e s
      | .ok (stream, s) =>
        let before := s.stream? 1
        ((s.connect 1 stream).write 1 t).reset 1 before) r.operands s
  s.write 1 t

/-! ## Counting -/

/-- The numbers of lines, words and bytes of a text, as far as they are asked for. -/
def counts (r : Request) (t : Text) : List Nat :=
  let words := (t.splitBy fun a b => Shell.Arithmetic.isSpace a = Shell.Arithmetic.isSpace b).filter
    fun w => !w.all Shell.Arithmetic.isSpace
  let all := !(r.has 'l' || r.has 'w' || r.has 'c' || r.has 'm' || r.has 'L')
  (if all || r.has 'l' then [t.count '\n'] else []) ++
    (if all || r.has 'w' then [words.length] else []) ++
    (if r.has 'm' then [t.length] else []) ++
    (if all || r.has 'c' then [t.length] else []) ++
    if r.has 'L' then [((linesOf t).map fun l => (bare l).length).foldl max 0] else []

def wc (r : Request) (s : Session) : Session :=
  let isSingle := (counts r []).length = 1 ∧ (inputs r).length = 1
  let size (file : Text) : Nat :=
    match contentOf file s with
    | .ok (t, _) => t.length
    | .error _ => 0
  let total := ((inputs r).map size).foldl (· + ·) 0
  let usual := if (inputs r).contains ['-'] then 7 else 1
  let width := if isSingle then 1 else max usual (decimal total).length
  let line (numbers : List Nat) (name : Text) : Text :=
    ((numbers.map fun n => padded width (decimal n)).intersperse [' ']).flatten ++
      (if name = [] then [] else ' ' :: name) ++ ['\n']
  let add (a b : List Nat) : List Nat := if a = [] then b else a.zipWith (· + ·) b
  let step (state : List Nat × Session) (file : Text) : List Nat × Session :=
    let (totals, s) := state
    let status := s.process.status
    match contentOf file s with
    | .error e => (totals, fail s!"wc: {shown file}" e s)
    | .ok (t, s) =>
      let name := if r.operands = [] then [] else file
      (add totals (counts r t), put (line (counts r t) name) s |>.status status)
  let (totals, s) := (inputs r).foldl step ([], s.status 0)
  if 1 < r.operands.length then
    let totals := if totals = [] then counts r [] else totals
    put (line totals "total".toList) s |>.status s.process.status
  else s

/-! ## Ordering -/

/-- The number at the start of a line, as sorting by numbers sees it. -/
def leadingNumber (line : Text) : Int × Text :=
  let t := line.dropWhile Shell.isBlank
  let (negative, t) := match t with | '-' :: t => (true, t) | t => (false, t)
  let (whole, t) := Shell.Arithmetic.digits 10 t
  let fraction := match t with | '.' :: t => (Shell.Arithmetic.digits 10 t).1 | _ => []
  let n : Int := Shell.Arithmetic.numberOf 10 whole
  (if negative then -n else n, (fraction.reverse.dropWhile (· = '0')).reverse)

/-- Compares lines by the numbers at their starts. -/
def compareNumbers (a b : Text) : Ordering :=
  let (m, f) := leadingNumber a
  let (n, g) := leadingNumber b
  (compare m n).then (if f = g then .eq else if f < g then .lt else .gt)

def compareTexts (a b : Text) : Ordering := if a = b then .eq else if a < b then .lt else .gt

/-- The part of a line that a key names by the numbers of its first and last fields. -/
def keyPart (separator : Option Char) (key line : Text) : Text :=
  let (first, rest) := Shell.Arithmetic.digits 10 key
  let last := match rest.dropWhile (· ≠ ',') with | ',' :: t => (Shell.Arithmetic.digits 10 t).1 | _ => []
  let fields :=
    match separator with
    | some c => line.splitBy fun a _ => a ≠ c
    | none => line.splitBy fun a b => Shell.isBlank a || !Shell.isBlank b
  let from_ := Shell.Arithmetic.numberOf 10 first
  let chosen := fields.drop (from_ - 1)
  let chosen := if last = [] then chosen else chosen.take (Shell.Arithmetic.numberOf 10 last + 1 - from_)
  let part := chosen.flatten
  match separator with
  | some c => if last ≠ [] ∧ part.getLast? = some c then part.dropLast else part
  | none => part

def sort (r : Request) (s : Session) : Session :=
  let (t, s) := allInputs r (fun file => s!"sort: cannot read: {shown file}") s
  if s.process.status ≠ 0 then s.status 2
  else
    let keys := (r.options.filter (·.1 = 'k')).map (·.2)
    let separator := (r.value? 't').bind (·.head?)
    let compareBy (letters a b : Text) : Ordering :=
      let has (c : Char) : Bool := if letters = [] then r.has c else c ∈ letters
      let fold (t : Text) : Text := if has 'f' then t.map Char.toUpper else t
      let trim (t : Text) : Text := if has 'b' then t.dropWhile Shell.isBlank else t
      let o := if has 'n' then compareNumbers a b else compareTexts (fold (trim a)) (fold (trim b))
      if has 'r' then o.swap else o
    let byKeys (a b : Text) : Ordering :=
      if keys = [] then compareBy [] a b
      else
        (keys.map fun key =>
          let letters := key.filter fun c => !Shell.isDigit c && c ≠ ',' && c ≠ '.'
          compareBy letters (keyPart separator key a) (keyPart separator key b)).foldl Ordering.then .eq
    let lastly (a b : Text) : Ordering :=
      let o := if r.has 's' ∨ r.has 'u' then .eq else compareTexts a b
      if r.has 'r' then o.swap else o
    let lines := ((linesOf t).map bare).mergeSort fun a b => (byKeys a b).then (lastly a b) ≠ .gt
    let lines :=
      if r.has 'u' then
        (lines.foldl
          (fun kept line =>
            match kept with
            | last :: _ => if byKeys last line = .eq then kept else line :: kept
            | [] => [line]) []).reverse
      else lines
    let t : Text := lines.flatMap (· ++ ['\n'])
    match r.value? 'o' with
    | none => put t s
    | some file =>
      match s.files.create (pathOf file) with
      | .ok (l, f) => (s.setFiles (f.append l (Text.toBytes t))).status 0
      | .error e => (fail s!"sort: open failed: {shown file}" e s).status 2

/-- Runs of lines that are the same, each with its length. -/
def runs (same : Text → Text → Bool) (lines : List Text) : List (Text × Nat) :=
  (lines.splitBy same).filterMap fun run => run.head?.map (·, run.length)

def uniq (r : Request) (s : Session) : Session :=
  match contentOf (r.operands.headD ['-']) s with
  | .error e => fail s!"uniq: {shown (r.operands.headD [])}" e s
  | .ok (t, s) =>
    let fold (t : Text) : Text := if r.has 'i' then t.map Char.toLower else t
    let found := runs (fun a b => fold a = fold b) ((linesOf t).map bare)
    let found := if r.has 'd' then found.filter (1 < ·.2) else found
    let found := if r.has 'u' then found.filter (·.2 = 1) else found
    put (found.flatMap fun (line, n) =>
      (if r.has 'c' then padded 7 (decimal n) ++ [' '] else []) ++ line ++ ['\n']) s

/-! ## Cutting and changing characters -/

/-- The positions that a list of numbers and ranges names. -/
def isListed (list : Text) (n : Nat) : Bool :=
  ((list.splitBy fun a b => a ≠ ',' && b ≠ ',').filter (· ≠ [','])).any fun part =>
    let (low, rest) := Shell.Arithmetic.digits 10 part
    let low := if low = [] then 1 else Shell.Arithmetic.numberOf 10 low
    match rest with
    | [] => n = low
    | _ :: high =>
      low ≤ n && (high = [] || n ≤ Shell.Arithmetic.numberOf 10 (Shell.Arithmetic.digits 10 high).1)

/-- The parts of a list at the positions that are named. -/
def chosen (isChosen : Nat → Bool) (parts : List Text) : List Text :=
  (parts.zipIdx 1).filterMap fun (part, n) => if isChosen n then some part else none

def cut (r : Request) (s : Session) : Session :=
  let list? := ((r.value? 'f').or (r.value? 'c')).or (r.value? 'b')
  match list? with
  | none => misused "cut" "you must specify a list of bytes, characters, or fields" 1 s
  | some list =>
    let separator := ((r.value? 'd').bind (·.head?)).getD '\t'
    let isChosen (n : Nat) : Bool := isListed list n != r.has 'C'
    let cutLine (line : Text) : Option Text :=
      if !r.has 'f' then some (chosen isChosen (line.map ([·]))).flatten
      else if separator ∉ line then (if r.has 's' then none else some line)
      else
        let between := (r.value? 'O').getD [separator]
        some ((chosen isChosen (Shell.sections separator line)).intersperse between).flatten
    eachInput r (fun file => s!"cut: {shown file}")
      (fun _ t => put (((linesOf t).filterMap fun l => cutLine (bare l)).flatMap (· ++ ['\n']))) s

/-- The characters that a set of `tr` names. -/
def setOf : (fuel : Nat) → Text → Text
  | 0, _ => []
  | fuel + 1, t =>
    let classes := Shell.Pattern.classes.find? fun (name, _) =>
      ("[:" ++ name ++ ":]").toList.isPrefixOf t
    match classes, t with
    | some (name, holds), _ =>
      ((List.range 256).map Char.ofNat).filter holds ++ setOf fuel (t.drop (name.length + 4))
    | none, [] => []
    | none, a :: rest =>
      let (a, rest) :=
        match a, rest with
        | '\\', c :: _ => (Shell.Format.escape? rest).getD (c, rest.tail)
        | _, _ => (a, rest)
      match rest with
      | '-' :: b :: rest =>
        ((List.range (b.toNat + 1 - a.toNat)).map fun n => Char.ofNat (a.toNat + n)) ++ setOf fuel rest
      | rest => a :: setOf fuel rest

/-- A text with repetitions of some characters squeezed into one. -/
def squeezed (set : Text) : Text → Text
  | [] => []
  | c :: rest =>
    match squeezed set rest with
    | d :: more => if c = d ∧ c ∈ set then d :: more else c :: d :: more
    | [] => [c]

def tr (r : Request) (s : Session) : Session :=
  let sets := r.operands.map fun t => setOf (t.length + 1) t
  let complemented := r.has 'c' ∨ r.has 'C'
  let first := sets.headD []
  let first := if complemented then ((List.range 256).map Char.ofNat).filter (· ∉ first) else first
  let second := (sets.drop 1).headD []
  let (t, s) := s.takeAll 0
  let translate (c : Char) : Char :=
    if c ∈ first then second.getD (first.idxOf c) (second.getLast?.getD c) else c
  match r.operands with
  | [] => misused "tr" "missing operand" 1 s
  | [set] =>
    if !r.has 'd' ∧ !r.has 's' then
      (say "Two strings must be given when translating."
        (say s!"tr: missing operand after '{shown set}'" s)).write 2
          "Try 'tr --help' for more information.\n".toList |>.status 1
    else
      let t := if r.has 'd' then t.filter (· ∉ first) else t
      put (if r.has 's' ∧ !r.has 'd' then squeezed first t else t) s
  | _ =>
    if r.has 'd' then put (squeezed second (t.filter (· ∉ first))) s
    else
      let t := t.map translate
      put (if r.has 's' then squeezed second t else t) s

/-! ## The collection -/

/-- The tools for lines. -/
def forLines : List Tool :=
  let lines : List (String × Char) := [("lines", 'n'), ("bytes", 'c'), ("quiet", 'q')]
  [withOptions "cat" "nbsETu" ""
      [("number", 'n'), ("show-ends", 'E'), ("show-tabs", 'T')] cat,
    withOptions "head" "qv" "nc" lines head, withOptions "tail" "qvfF" "nc" lines tail,
    withOptions "tac" "" "" [] tac, withOptions "rev" "" "" [] rev,
    withOptions "nl" "" "b" [] nl, withOptions "tee" "ai" "" [("append", 'a')] tee,
    withOptions "wc" "lwcmL" ""
      [("lines", 'l'), ("words", 'w'), ("bytes", 'c'), ("chars", 'm')] wc,
    withMisuse 2 (withOptions "sort" "nrufbs" "kto"
      [("numeric-sort", 'n'), ("reverse", 'r'), ("unique", 'u'), ("key", 'k')] sort),
    withOptions "uniq" "cdui" "" [("count", 'c'), ("repeated", 'd'), ("unique", 'u')] uniq,
    withOptions "cut" "sC" "fdcbO"
      [("fields", 'f'), ("delimiter", 'd'), ("characters", 'c'), ("bytes", 'b'),
        ("complement", 'C'), ("only-delimited", 's'), ("output-delimiter", 'O')] cut,
    withOptions "tr" "dscC" ""
      [("delete", 'd'), ("squeeze-repeats", 's'), ("complement", 'c')] tr]

end DefectGate.Workspace.Tool
