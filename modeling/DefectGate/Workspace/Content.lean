import DefectGate.Bytes

/-!
# Growing content

Bytes that are written piece by piece at their end. Only the view as one list of bytes has a
meaning; the pieces keep an append cheap.
-/
namespace DefectGate.Workspace

/-- Pieces, the last one written first. -/
structure Content where
  pieces : List Bytes
  deriving Repr

namespace Content

def empty : Content := ⟨[]⟩

def ofBytes (bs : Bytes) : Content := ⟨[bs]⟩

def append (c : Content) (bs : Bytes) : Content := ⟨bs :: c.pieces⟩

def bytes (c : Content) : Bytes := c.pieces.reverse.flatten

def isEmpty (c : Content) : Bool := c.pieces.all List.isEmpty

@[simp] theorem bytes_empty : empty.bytes = [] := rfl

@[simp] theorem bytes_ofBytes (bs : Bytes) : (ofBytes bs).bytes = bs := by simp [ofBytes, bytes]

@[simp] theorem bytes_append (c : Content) (bs : Bytes) : (c.append bs).bytes = c.bytes ++ bs := by
  simp [append, bytes]

end Content
end DefectGate.Workspace
