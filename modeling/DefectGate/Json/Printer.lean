import DefectGate.Json.Basic

/-!
# Writing JSON

Two layouts: on one line without spaces, and on many lines where each level of nesting is indented
by two more spaces. Only quotes, backslashes and control characters are escaped.
-/
namespace DefectGate.Json

/-- A control character by its number, in four hexadecimal digits. -/
def numberedEscape (c : Char) : List Char :=
  ['\\', 'u', '0', '0', Nat.digitChar (c.toNat / 16), Nat.digitChar (c.toNat % 16)]

def escape (c : Char) : List Char :=
  if c = '"' then ['\\', '"']
  else if c = '\\' then ['\\', '\\']
  else if c = '\n' then ['\\', 'n']
  else if c = '\r' then ['\\', 'r']
  else if c = '\t' then ['\\', 't']
  else if c = '\x08' then ['\\', 'b']
  else if c = '\x0c' then ['\\', 'f']
  else if c.toNat < 32 then numberedEscape c
  else [c]

def quoted (s : String) : List Char := '"' :: (s.toList.flatMap escape ++ ['"'])

/-- A new line at a level of nesting. -/
def newline (depth : Nat) : List Char := '\n' :: List.replicate (2 * depth) ' '

mutual

/-- The text of a value on many lines, at a level of nesting. -/
def pretty (depth : Nat) : Json → List Char
  | .null => ['n', 'u', 'l', 'l']
  | .bool true => ['t', 'r', 'u', 'e']
  | .bool false => ['f', 'a', 'l', 's', 'e']
  | .number n => n.text.toList
  | .string s => quoted s
  | .array [] => ['[', ']']
  | .array (v :: vs) =>
    '[' :: newline (depth + 1) ++ pretty (depth + 1) v ++ prettyElements depth vs
  | .object [] => ['\x7b', '\x7d']
  | .object ((name, v) :: fields) =>
    '\x7b' :: newline (depth + 1) ++ quoted name ++ ':' :: ' ' ::
      pretty (depth + 1) v ++ prettyFields depth fields

/-- The elements after the first one, and the end of the array. -/
def prettyElements (depth : Nat) : List Json → List Char
  | [] => newline depth ++ [']']
  | v :: vs => ',' :: newline (depth + 1) ++ pretty (depth + 1) v ++ prettyElements depth vs

/-- The fields after the first one, and the end of the object. -/
def prettyFields (depth : Nat) : List (String × Json) → List Char
  | [] => newline depth ++ ['\x7d']
  | (name, v) :: fields =>
    ',' :: newline (depth + 1) ++ quoted name ++ ':' :: ' ' ::
      pretty (depth + 1) v ++ prettyFields depth fields

end

mutual

/-- The text of a value on one line. -/
def compact : Json → List Char
  | .null => ['n', 'u', 'l', 'l']
  | .bool true => ['t', 'r', 'u', 'e']
  | .bool false => ['f', 'a', 'l', 's', 'e']
  | .number n => n.text.toList
  | .string s => quoted s
  | .array [] => ['[', ']']
  | .array (v :: vs) => '[' :: compact v ++ compactElements vs
  | .object [] => ['\x7b', '\x7d']
  | .object ((name, v) :: fields) =>
    '\x7b' :: quoted name ++ ':' :: compact v ++ compactFields fields

def compactElements : List Json → List Char
  | [] => [']']
  | v :: vs => ',' :: compact v ++ compactElements vs

def compactFields : List (String × Json) → List Char
  | [] => ['\x7d']
  | (name, v) :: fields => ',' :: quoted name ++ ':' :: compact v ++ compactFields fields

end

def toPrettyString (j : Json) : String := String.ofList (pretty 0 j)
def toCompactString (j : Json) : String := String.ofList (compact j)

end DefectGate.Json
