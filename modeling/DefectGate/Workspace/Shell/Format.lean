import DefectGate.Workspace.Shell.Decimals

/-!
# Formatted output of scripts

What `echo` and `printf` write: escapes that start with a backslash, and formats that are used again
as long as there are arguments left.
-/
namespace DefectGate.Workspace.Shell.Format

def isOctal (c : Char) : Bool := '0' ≤ c ∧ c ≤ '7'

/-- The byte that up to `most` octal digits name, and what follows them. -/
def octal (most : Nat) (t : Text) : Char × Text :=
  let digits := (t.take most).takeWhile isOctal
  (Char.ofNat (Arithmetic.numberOf 8 digits % 256), t.drop digits.length)

/-- The character that is meant after a backslash, and what follows it. -/
def escape? : Text → Option (Char × Text)
  | 'a' :: rest => some ('\x07', rest)
  | 'b' :: rest => some ('\x08', rest)
  | 'e' :: rest => some ('\x1b', rest)
  | 'f' :: rest => some ('\x0c', rest)
  | 'n' :: rest => some ('\n', rest)
  | 'r' :: rest => some ('\r', rest)
  | 't' :: rest => some ('\t', rest)
  | 'v' :: rest => some ('\x0b', rest)
  | '\\' :: rest => some ('\\', rest)
  | c :: rest => if isOctal c then some (octal 3 (c :: rest)) else none
  | [] => none

/-- A text with its escapes replaced, and whether one of them ends all output. -/
def unescaped : (fuel : Nat) → Text → Text × Bool
  | 0, _ => ([], false)
  | fuel + 1, t =>
    let before (c : Char) (rest : Text) : Text × Bool :=
      let (more, ends) := unescaped fuel rest
      (c :: more, ends)
    match t with
    | [] => ([], false)
    | '\\' :: 'c' :: _ => ([], true)
    | '\\' :: '0' :: rest => let (c, rest) := octal 3 rest; before c rest
    | '\\' :: rest =>
      match escape? rest with
      | some (c, rest) => before c rest
      | none => before '\\' rest
    | c :: rest => before c rest

def spaced (words : List Text) : Text := (words.intersperse [' ']).flatten

/-- What `echo` writes. -/
def echo (arguments : List Text) : Text :=
  let (newline, words) :=
    match arguments with
    | ['-', 'n'] :: rest => ([], rest)
    | words => (['\n'], words)
  let t := spaced words
  let (out, ends) := unescaped (t.length + 1) t
  if ends then out else out ++ newline

/-! ## Fields -/

/-- How a value is laid out in a field. -/
structure Field where
  flags : Text
  width : Nat
  precision : Option Nat
  deriving DecidableEq, Repr

namespace Field

/-- Fills a field up to its width. -/
def fill (f : Field) (t : Text) : Text :=
  let missing := List.replicate (f.width - t.length) ' '
  if '-' ∈ f.flags then t ++ missing else missing ++ t

/-- A sign and digits in a field, which zeros may fill. -/
def fillNumber (f : Field) (mayPad : Bool) (sign digits : Text) : Text :=
  if '0' ∈ f.flags ∧ '-' ∉ f.flags ∧ mayPad then
    sign ++ List.replicate (f.width - sign.length - digits.length) '0' ++ digits
  else f.fill (sign ++ digits)

/-- Digits of a whole number in a field. -/
def whole (f : Field) (sign digits : Text) : Text :=
  let digits := if f.precision = some 0 ∧ digits = ['0'] then [] else digits
  let digits := List.replicate (f.precision.getD 1 - digits.length) '0' ++ digits
  f.fillNumber (f.precision = none) sign digits

def sign (f : Field) (negative : Bool) : Text :=
  if negative then ['-'] else if '+' ∈ f.flags then ['+'] else if ' ' ∈ f.flags then [' '] else []

def integer (f : Field) (n : Int) : Text := f.whole (f.sign (n < 0)) (Nat.toDigits 10 n.natAbs)

/-- A value without a sign. -/
def natural (f : Field) (conversion : Char) (n : Nat) : Text :=
  let alternative := '#' ∈ f.flags ∧ n ≠ 0
  match conversion with
  | 'o' => f.whole [] ((if alternative then ['0'] else []) ++ Nat.toDigits 8 n)
  | 'x' => f.whole (if alternative then ['0', 'x'] else []) (Nat.toDigits 16 n)
  | 'X' =>
    f.whole (if alternative then ['0', 'X'] else []) ((Nat.toDigits 16 n).map Char.toUpper)
  | _ => f.whole [] (Nat.toDigits 10 n)

def real (f : Field) (conversion : Char) (x : Decimals.Real) : Text :=
  let always := decide ('#' ∈ f.flags)
  let places := f.precision.getD 6
  let letters (t : Text) : Text := if conversion.isUpper then t.map Char.toUpper else t
  match x with
  | .notANumber => f.fill (letters ['n', 'a', 'n'])
  | .infinite negative => f.fill (letters (f.sign negative ++ ['i', 'n', 'f']))
  | .finite negative m =>
    let digits :=
      match conversion.toLower with
      | 'f' => m.fixed places always
      | 'e' => m.scientific places always
      | _ => m.general places always
    f.fillNumber true (f.sign negative) (letters digits)

/-- A text in a field. -/
def text (f : Field) (t : Text) : Text :=
  f.fill (match f.precision with | some n => t.take n | none => t)

end Field

/-! ## Formats -/

/-- A format at work: what is written so far, the arguments that are left, and what there was to
complain about, newest first. -/
structure Printer where
  out : Text
  arguments : List Text
  complaints : List String
  deriving Repr

inductive Stop where
  /-- An escape ended all output. -/
  | ended
  | failed (message : String)
  deriving DecidableEq, Repr

abbrev Printing := ExceptT Stop (StateM Printer)

namespace Printing

def put (t : Text) : Printing Unit := modify fun p => { p with out := p.out ++ t }

def complain (message : String) : Printing Unit :=
  modify fun p => { p with complaints := message :: p.complaints }

def argument? : Printing (Option Text) := do
  let p ← get
  set { p with arguments := p.arguments.tail }
  return p.arguments.head?

/-- Complains about an argument of which a part is no number. -/
def checkRest (t : Text) (wasRead : Bool) (rest : Text) (inRange : Bool) : Printing Unit := do
  let shown := String.ofList t
  if rest ≠ [] then
    complain (shown ++ (if wasRead then ": not completely converted"
      else ": expected numeric value"))
  else if !inRange then complain (shown ++ ": Numerical result out of range")

/-- The next argument as a whole number. A quote means the character after it, and a number out of
range counts as the limit on its side. -/
def integer (least greatest : Int) : Printing Int := do
  match ← argument? with
  | none => return 0
  | some t =>
    match t with
    | '"' :: rest | '\'' :: rest => return ((rest.head?.map Char.toNat).getD 0 : Nat)
    | _ =>
      match Arithmetic.signed? Arithmetic.natural? t with
      | none =>
        checkRest t false t true
        return 0
      | some (negative, n, rest) =>
        let value : Int := if negative then -n else n
        checkRest t true rest (decide (least ≤ value ∧ value ≤ greatest))
        return if value < least then least else min value greatest

def signed : Printing Int := integer Int64.minValue.toInt Int64.maxValue.toInt

/-- A whole number without a sign: one below zero wraps around at 64 bits, and one that is too small
for that counts as the greatest. -/
def natural : Printing Nat := do
  let greatest : Int := UInt64.size - 1
  let n ← integer (-UInt64.size) greatest
  return (if n = -UInt64.size then greatest else n % UInt64.size).toNat

def real : Printing Decimals.Real := do
  match ← argument? with
  | none => return .finite false ⟨0, 1⟩
  | some t =>
    match Decimals.real? t with
    | none =>
      checkRest t false t true
      return .finite false ⟨0, 1⟩
    | some (x, rest) =>
      let given := t.any fun c => c = 'n' ∨ c = 'N'
      let finite := match x with | .infinite _ => given | _ => true
      checkRest t true rest finite
      return x

/-- A width or precision: digits, or a star that takes it from an argument. -/
def measure (t : Text) : Printing (Int × Text) := do
  match t with
  | '*' :: rest => return (← signed, rest)
  | _ =>
    let (ds, rest) := Arithmetic.digits 10 t
    return (Arithmetic.numberOf 10 ds, rest)

/-- The field that a format describes after its percent sign, and what follows. -/
def field (t : Text) : Printing (Field × Text) := do
  let flags := t.takeWhile (· ∈ ['-', '+', ' ', '0', '#'])
  let (width, rest) ← measure (t.drop flags.length)
  let flags := if width < 0 then '-' :: flags else flags
  match rest with
  | '.' :: rest =>
    let (precision, rest) ← measure rest
    return (⟨flags, width.natAbs, if precision < 0 then none else some precision.toNat⟩, rest)
  | _ => return (⟨flags, width.natAbs, none⟩, rest)

/-- Writes an argument as a conversion shows it; `directive` is how it was asked for. -/
def convert (f : Field) (conversion : Char) (directive : Text) : Printing Unit := do
  if conversion = 's' then put (f.text ((← argument?).getD []))
  else if conversion = 'b' then
    let t := (← argument?).getD []
    let (t, ends) := unescaped (t.length + 1) t
    put (f.text t)
    if ends then throw .ended
  else if conversion = 'c' then put (f.fill [((← argument?).bind (·.head?)).getD '\x00'])
  else if conversion = 'd' ∨ conversion = 'i' then put (f.integer (← signed))
  else if conversion ∈ ['o', 'u', 'x', 'X'] then put (f.natural conversion (← natural))
  else if conversion ∈ ['e', 'E', 'f', 'F', 'g', 'G'] then put (f.real conversion (← real))
  else throw (.failed (String.ofList directive ++ ": invalid directive"))

/-- One pass over a format. -/
def pass : (fuel : Nat) → Text → Printing Unit
  | 0, _ => return
  | fuel + 1, t => do
    match t with
    | [] => return
    | '%' :: '%' :: rest =>
      put ['%']
      pass fuel rest
    | '%' :: rest =>
      let (f, after) ← field rest
      match after with
      | [] => throw (.failed "missing format character")
      | c :: after =>
        convert f c (t.take (t.length - after.length))
        pass fuel after
    | '\\' :: rest =>
      match escape? rest with
      | some (c, rest) =>
        put [c]
        pass fuel rest
      | none =>
        put ['\\']
        pass fuel rest
    | c :: rest =>
      put [c]
      pass fuel rest

/-- Passes over a format until no argument is left or a pass uses none. -/
def passes (format : Text) : (fuel : Nat) → Printing Unit
  | 0 => return
  | fuel + 1 => do
    let before := (← get).arguments.length
    pass (format.length + 1) format
    let left := (← get).arguments.length
    if left ≠ 0 ∧ left ≠ before then passes format fuel

end Printing

/-- What a command writes, what it complains about on the way, and why it fails, if it does. -/
structure Printed where
  out : Text
  complaints : List String
  failure : Option String
  deriving Repr

def printf (arguments : List Text) : Printed :=
  match arguments with
  | [] => ⟨[], [], some "usage: printf format [arg ...]"⟩
  | ['-', '-'] :: [] => ⟨[], [], some "usage: printf format [arg ...]"⟩
  | first :: rest =>
    let (format, arguments) :=
      match first, rest with
      | ['-', '-'], format :: rest => (format, rest)
      | _, _ => (first, rest)
    let (result, p) := (Printing.passes format (arguments.length + 1)).run ⟨[], arguments, []⟩
    let failure := match result with | .error (.failed message) => some message | _ => none
    ⟨p.out, p.complaints.reverse, failure⟩

end DefectGate.Workspace.Shell.Format
