/-!
# Lines

A newline ends a line and takes one carriage return before it along. Text after the last newline is
a line of its own, kept as it stands: only a newline removes a carriage return.
-/
namespace DefectGate.Text

/-- Drops one carriage return from the end of a line that is held newest character first. -/
def dropReturn : List Char → List Char
  | '\r' :: rest => rest
  | cs => cs

/-- The lines of `line.reverse` followed by the given characters. -/
def linesFrom (line : List Char) : List Char → List (List Char)
  | [] => if line.isEmpty then [] else [line.reverse]
  | c :: cs =>
    if c = '\n' then (dropReturn line).reverse :: linesFrom [] cs else linesFrom (c :: line) cs

def lines (cs : List Char) : List (List Char) := linesFrom [] cs

end DefectGate.Text
