import DefectGate.Workspace.Content

/-!
# The tree of files

Which node stands at which location. Setting or erasing a node changes what stands at its own
location and nothing else.
-/
namespace DefectGate.Workspace

/-- A place in the tree: the names from the innermost outwards. The root has none. -/
abbrev Location := List Bytes

inductive Node where
  | directory
  | file (content : Content) (executable : Bool)
  | link (target : Bytes)
  /-- Takes everything and gives nothing. -/
  | sink
  /-- A program of the system. -/
  | tool (name : Bytes)
  deriving Repr

def Node.isDirectory : Node → Bool
  | .directory => true
  | _ => false

def Node.isLink : Node → Bool
  | .link _ => true
  | _ => false

def Node.isSink : Node → Bool
  | .sink => true
  | _ => false

def Node.isRegular : Node → Bool
  | .file .. | .tool _ => true
  | _ => false

def Node.isExecutable : Node → Bool
  | .file _ executable => executable
  | .tool _ => true
  | _ => false

/-- Whether there is nothing in what a node holds; that is known of files alone. -/
def Node.isEmpty : Node → Bool
  | .file content _ => content.isEmpty
  | .sink => true
  | _ => false

structure Files where
  entries : List (Location × Node)
  /-- The working directory. -/
  here : Location
  deriving Repr

namespace Files

/-- What stands at a location; the root is always there. -/
def node? (f : Files) (l : Location) : Option Node :=
  if l = [] then some .directory else (f.entries.find? (·.1 = l)).map (·.2)

def erase (f : Files) (l : Location) : Files :=
  { f with entries := f.entries.filter (·.1 ≠ l) }

/-- Puts a node at a location, in place of what stands there. -/
def set (f : Files) (l : Location) (n : Node) : Files :=
  { f with entries := (l, n) :: (f.erase l).entries }

@[simp] theorem node?_root (f : Files) : f.node? [] = some .directory := rfl

@[simp] theorem node?_set_self (f : Files) {l : Location} (n : Node) (h : l ≠ []) :
    (f.set l n).node? l = some n := by
  simp [node?, set, h]

theorem find?_filter_ne {l m : Location} (h : m ≠ l) (es : List (Location × Node)) :
    (es.filter (·.1 ≠ l)).find? (·.1 = m) = es.find? (·.1 = m) := by
  induction es with
  | nil => rfl
  | cons e es ih =>
    by_cases hl : e.1 = l
    · have hm : ¬e.1 = m := fun hm => h (hm ▸ hl)
      simp only [List.find?_cons, hm, decide_false]
      rw [List.filter_cons_of_neg (by simp [hl]), ih]
    · rw [List.filter_cons_of_pos (by simpa using hl), List.find?_cons, List.find?_cons, ih]

theorem node?_erase_of_ne (f : Files) {l m : Location} (h : m ≠ l) :
    (f.erase l).node? m = f.node? m := by
  simp only [node?, erase]
  rw [find?_filter_ne h]

theorem node?_set_of_ne (f : Files) {l m : Location} (n : Node) (h : m ≠ l) :
    (f.set l n).node? m = f.node? m := by
  have hl : ¬l = m := fun e => h e.symm
  rw [← f.node?_erase_of_ne h]
  simp [node?, set, hl]

theorem node?_erase_self (f : Files) {l : Location} (h : l ≠ []) : (f.erase l).node? l = none := by
  simp [node?, erase, h, List.find?_eq_none]

def isDirectory (f : Files) (l : Location) : Bool := (f.node? l).any Node.isDirectory

end Files
end DefectGate.Workspace
