import DefectGate.Text.Printable
import DefectGate.Text.GraphemeExtend

/-!
# Quoted text

Text between double quotes on one line. A quote, a backslash, a newline, a carriage return, a tab
and a zero character have short escapes; any other character that is not printable, or that would
join the character before it, is written as its number in braces; all else stands for itself.
-/
namespace DefectGate.Text.Quoted

/-- The number of a character in lower-case hexadecimal between braces. -/
def numbered (c : Char) : List Char :=
  ['\\', 'u', '\x7b'] ++ Nat.toDigits 16 c.toNat ++ ['\x7d']

def escape (c : Char) : List Char :=
  if c = '"' then ['\\', '"']
  else if c = '\\' then ['\\', '\\']
  else if c = '\n' then ['\\', 'n']
  else if c = '\r' then ['\\', 'r']
  else if c = '\t' then ['\\', 't']
  else if c = '\x00' then ['\\', '0']
  else if isGraphemeExtend c || !isPrintable c then numbered c
  else [c]

def quoteChars (cs : List Char) : List Char := '"' :: (cs.flatMap escape ++ ['"'])

def quote (s : String) : String := String.ofList (quoteChars s.toList)

/-- Quoted texts in brackets, with a comma and a space between two of them. -/
def quoteList (ss : List String) : String :=
  "[" ++ String.intercalate ", " (ss.map quote) ++ "]"

end DefectGate.Text.Quoted
