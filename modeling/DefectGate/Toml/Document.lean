import DefectGate.Toml.Basic

/-!
# TOML documents

A document is a list of statements: a pair of a key and a value, the header of a table, the header
of one more table of an array. Putting them together refuses what defines a table or a key twice.

A table that only a longer header or a dotted key has mentioned may still be defined by its own
header; it then moves to the end of its parent. A dotted key extends only tables that dotted keys
made, and a header extends only tables that headers made.
-/
namespace DefectGate.Toml

inductive Statement where
  | pair (path : List String) (key : String) (value : Toml)
  | table (path : List String) (key : String)
  | element (path : List String) (key : String)
  deriving Repr

/-- What a name stands for while a document is put together. Of a table, `implicit` tells that no
header has defined it yet, and `dotted` that a dotted key made it. -/
inductive Node where
  | value (v : Toml)
  | table (implicit dotted : Bool) (entries : List (String × Node))
  | elements (tables : List (List (String × Node)))
  deriving Repr

abbrev Nodes := List (String × Node)

/-- A table under construction. -/
structure Draft where
  implicit : Bool
  dotted : Bool
  entries : Nodes
  deriving Repr

namespace Draft

def empty : Draft := ⟨false, false, []⟩

def node (d : Draft) : Node := .table d.implicit d.dotted d.entries

end Draft

def lookup (name : String) (nodes : Nodes) : Option Node := (nodes.find? (·.1 = name)).map (·.2)

/-- Gives a name a new meaning, in its old place or at the end. -/
def assign (name : String) (node : Node) : Nodes → Nodes
  | [] => [(name, node)]
  | (other, n) :: rest =>
    if other = name then (name, node) :: rest else (other, n) :: assign name node rest

def remove (name : String) (nodes : Nodes) : Nodes := nodes.filter (·.1 ≠ name)

/-- Changes the table to which a path leads, making the tables on the way that do not exist, and
returns what the change answers. The last table of an array stands for the array. -/
def modifyAt (dotted : Bool) (change : Draft → Option (Draft × α)) :
    List String → Draft → Option (Draft × α)
  | [], d => change d
  | name :: path, d =>
    match (lookup name d.entries).getD (.table true dotted []) with
    | .value _ => none
    | .elements tables =>
      match tables.reverse with
      | [] => none
      | last :: before =>
        (modifyAt dotted change path ⟨false, false, last⟩).map fun (t, a) =>
          let node := Node.elements (before.reverse ++ [t.entries])
          (⟨d.implicit, d.dotted, assign name node d.entries⟩, a)
    | .table implicit isDotted entries =>
      if dotted ∧ !implicit then none
      else
        (modifyAt dotted change path ⟨implicit, isDotted, entries⟩).map fun (t, a) =>
          (⟨d.implicit, d.dotted, assign name t.node d.entries⟩, a)

/-- A change that only sets the entries of a table. -/
def modifyEntries (dotted : Bool) (change : Draft → Option Nodes) (path : List String) (d : Draft) :
    Option Draft :=
  (modifyAt dotted (fun t => (change t).map fun entries => (⟨t.implicit, t.dotted, entries⟩, ()))
    path d).map (·.1)

/-- Adds a key that must be new. A table made by dotted keys takes dotted keys only, any other
table none of them. -/
def addPair (path : List String) (key : String) (value : Toml) (d : Draft) : Option Draft :=
  modifyEntries true (fun t =>
    if t.dotted = path.isEmpty ∨ (lookup key t.entries).isSome then none
    else some (t.entries ++ [(key, .value value)])) path d

/-- Where the pairs that follow go: the root, or a table that is added when it is complete. -/
inductive Place where
  | root
  | table (path : List String) (key : String)
  | element (path : List String) (key : String)
  deriving Repr

/-- A document under construction: the finished part, and the table that is being filled. -/
structure Assembly where
  root : Draft
  current : Draft
  place : Place
  deriving Repr

namespace Assembly

def start : Assembly := ⟨.empty, .empty, .root⟩

/-- Puts the current table into its place. -/
def finish (a : Assembly) : Option Draft :=
  match a.place with
  | .root => some a.current
  | .table path key =>
    modifyEntries false (fun parent =>
      if (lookup key parent.entries).isSome then none
      else some (parent.entries ++ [(key, a.current.node)])) path a.root
  | .element path key =>
    modifyEntries false (fun parent =>
      match lookup key parent.entries with
      | some (.elements tables) =>
        some (assign key (.elements (tables ++ [a.current.entries])) parent.entries)
      | _ => none) path a.root

/-- Takes out what a table already holds when its header is met. -/
def beginTable (path : List String) (key : String) (root : Draft) : Option (Draft × Nodes) :=
  modifyAt false (fun parent =>
    match lookup key parent.entries with
    | none => some (parent, [])
    | some (.table true false entries) =>
      some (⟨parent.implicit, parent.dotted, remove key parent.entries⟩, entries)
    | some _ => none) path root

/-- Makes sure that a name stands for an array of tables. -/
def beginElement (path : List String) (key : String) (root : Draft) : Option Draft :=
  modifyEntries false (fun parent =>
    match lookup key parent.entries with
    | none => some (parent.entries ++ [(key, .elements [])])
    | some (.elements _) => some parent.entries
    | some _ => none) path root

def step (a : Assembly) : Statement → Option Assembly
  | .pair path key value => do
    return { a with current := ← addPair path key value a.current }
  | .table path key => do
    let (root, entries) ← beginTable path key (← a.finish)
    return ⟨root, ⟨false, false, entries⟩, .table path key⟩
  | .element path key => do
    return ⟨← beginElement path key (← a.finish), .empty, .element path key⟩

def run : List Statement → Assembly → Option Assembly
  | [], a => some a
  | s :: rest, a =>
    match a.step s with
    | none => none
    | some a' => run rest a'

end Assembly

mutual

def Node.toToml : Node → Toml
  | .value v => v
  | .table _ _ entries => .table (Node.toEntries entries)
  | .elements tables => .array (Node.toTables tables)

def Node.toEntries : List (String × Node) → Entries
  | [] => []
  | (name, node) :: rest => (name, node.toToml) :: Node.toEntries rest

def Node.toTables : List (List (String × Node)) → List Toml
  | [] => []
  | entries :: rest => .table (Node.toEntries entries) :: Node.toTables rest

end

/-- The entries of a document in order, or nothing if its statements do not go together. -/
def ofStatements? (statements : List Statement) : Option Entries := do
  let a ← Assembly.start.run statements
  return Node.toEntries (← a.finish).entries

/-- An inline table is put together like a document of pairs. -/
def inlineTable? (pairs : List (List String × String × Toml)) : Option Toml := do
  let d ← pairs.foldlM (fun d p => addPair p.1 p.2.1 p.2.2 d) Draft.empty
  return .table (Node.toEntries d.entries)

end DefectGate.Toml
