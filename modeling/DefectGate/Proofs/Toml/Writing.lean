import DefectGate.Proofs.Toml.Spelling
import DefectGate.Proofs.Toml.Tables

/-! # Texts for documents

A document of strings, lists of strings and integers that are not negative has a text: one line for
each of its entries, with the key in quotes. It is read back as the same entries in the same order.
-/
namespace DefectGate.Toml.Writing
open Spelling

/-! ### Values -/

/-- A value that is written out here. -/
inductive Plain where
  | text (s : String)
  | texts (ss : List String)
  | natural (n : Fin (2 ^ 63))

def Plain.toToml : Plain → Toml
  | text s => .string s
  | texts ss => .array (ss.map .string)
  | natural n => .integer n.val

/-- Strings, each with a comma after it, and the end of an array. -/
def elements : List String → List Char → List Char
  | [], rest => ']' :: rest
  | s :: ss, rest => quoted s (',' :: elements ss rest)

def value : Plain → List Char → List Char
  | .text s, rest => quoted s rest
  | .texts ss, rest => '[' :: elements ss rest
  | .natural n, rest => hexadecimal n rest

theorem skipBlank_cons {c : Char} (h : c ∉ [' ', '\t', '\n', '\r', '#']) (fuel : Nat)
    (rest : List Char) : Parser.skipBlank fuel (c :: rest) = c :: rest := by
  simp only [List.mem_cons, List.not_mem_nil, or_false, not_or] at h
  obtain ⟨hspace, htab, hnewline, hreturn, hmark⟩ := h
  cases fuel with
  | zero => rfl
  | succ fuel =>
    have hskip : Parser.skipSpaces (c :: rest) = c :: rest := by
      simp [Parser.skipSpaces, Parser.isSpace, hspace, htab]
    simp [Parser.skipBlank, hskip, hnewline, hreturn, hmark]

theorem parse_quoted (depth fuel : Nat) (s : String) {rest : List Char}
    (h : rest.head? ≠ some '"') :
    Parser.value depth (fuel + 1) (quoted s rest) = some (.string s, rest) := by
  rw [quoted, Parser.value, ← quoted, string_quoted s h]
  rfl

theorem parse_last (depth fuel : Nat) (s : String) (rest : List Char) :
    Parser.elements depth (fuel + 2) (quoted s (',' :: ']' :: rest)) =
      some ([.string s], rest) := by
  rw [Parser.elements, parse_quoted _ _ _ (by simp)]
  simp [skipBlank_cons]

theorem parse_more {depth fuel : Nat} (s : String) {cs rest : List Char} {vs : List Toml}
    (h : Parser.elements depth (fuel + 1) ('"' :: cs) = some (vs, rest)) :
    Parser.elements depth (fuel + 2) (quoted s (',' :: '"' :: cs)) =
      some (.string s :: vs, rest) := by
  rw [Parser.elements, parse_quoted _ _ _ (by simp)]
  simp [skipBlank_cons, h]

theorem elements_eq_cons (s : String) (ss : List String) (rest : List Char) :
    ∃ cs, elements (s :: ss) rest = '"' :: cs := ⟨_, rfl⟩

theorem parse_elements (depth fuel : Nat) (s : String) (ss : List String)
    (h : ss.length ≤ fuel) (rest : List Char) :
    Parser.elements depth (fuel + 2) (elements (s :: ss) rest) =
      some ((s :: ss).map .string, rest) := by
  induction ss generalizing s fuel with
  | nil => exact parse_last depth fuel s rest
  | cons s' ss ih =>
    obtain ⟨fuel, rfl⟩ : ∃ k, fuel = k + 1 := Nat.exists_eq_add_of_le' (Nat.one_le_of_lt h)
    have hnext := ih fuel s' (Nat.le_of_succ_le_succ h)
    obtain ⟨cs, hcs⟩ := elements_eq_cons s' ss rest
    rw [hcs] at hnext
    rw [elements, hcs]
    exact parse_more s hnext

theorem length_quoted (s : String) (rest : List Char) :
    rest.length < (quoted s rest).length := by
  simp only [quoted, List.length_cons, List.length_append]
  omega

theorem length_elements (ss : List String) (rest : List Char) :
    ss.length + rest.length < (elements ss rest).length := by
  induction ss with
  | nil => simp [elements]
  | cons s ss ih =>
    have hquoted := length_quoted s (',' :: elements ss rest)
    rw [List.length_cons] at hquoted
    rw [elements, List.length_cons]
    omega

theorem length_value (v : Plain) (rest : List Char) : rest.length < (value v rest).length := by
  cases v with
  | text s => exact length_quoted s rest
  | texts ss =>
    have helements := length_elements ss rest
    rw [value, List.length_cons]
    omega
  | natural n =>
    simp only [value, hexadecimal, List.length_cons, List.length_append]
    omega

theorem parse_array (fuel : Nat) (ss : List String) (rest : List Char)
    (h : (elements ss rest).length < fuel) :
    Parser.value 0 (fuel + 1) ('[' :: elements ss rest) =
      some (.array (ss.map .string), rest) := by
  rw [Parser.value, if_pos (by decide)]
  cases ss with
  | nil =>
    simp only [elements, skipBlank_cons (by decide : ']' ∉ [' ', '\t', '\n', '\r', '#'])]
    rfl
  | cons s ss =>
    have hlength := length_elements (s :: ss) rest
    rw [List.length_cons] at hlength
    obtain ⟨fuel, rfl⟩ : ∃ k, fuel = k + 2 := Nat.exists_eq_add_of_le' (by omega)
    have helements := parse_elements 1 fuel s ss (by omega) rest
    obtain ⟨cs, hcs⟩ := elements_eq_cons s ss rest
    rw [hcs] at helements ⊢
    rw [skipBlank_cons (by decide)]
    simp [helements]

theorem parse_hexadecimal (fuel : Nat) (n : Fin (2 ^ 63)) (rest : List Char) :
    Parser.value 0 (fuel + 1) (hexadecimal n ('\n' :: rest)) =
      some (.integer n.val, '\n' :: rest) := by
  rw [hexadecimal, Parser.value, ← hexadecimal, unquoted_hexadecimal n.isLt]
  all_goals simp

/-- A value is read back up to the end of its line. -/
theorem parse_value (v : Plain) {fuel : Nat} (rest : List Char)
    (h : (value v ('\n' :: rest)).length < fuel) :
    Parser.value 0 fuel (value v ('\n' :: rest)) = some (v.toToml, '\n' :: rest) := by
  obtain ⟨fuel, rfl⟩ : ∃ k, fuel = k + 1 := Nat.exists_eq_add_of_le' (Nat.one_le_of_lt h)
  cases v with
  | text s => exact parse_quoted 0 fuel s (by simp)
  | texts ss => exact parse_array fuel ss ('\n' :: rest) (Nat.lt_of_succ_lt_succ h)
  | natural n => exact parse_hexadecimal fuel n rest

/-! ### Lines -/

/-- An entry on a line of its own. -/
def line (e : String × Plain) (rest : List Char) : List Char :=
  quoted e.1 ('=' :: value e.2 ('\n' :: rest))

def lines : List (String × Plain) → List Char
  | [] => []
  | e :: es => line e (lines es)

theorem parse_key (name : String) (rest : List Char) :
    Parser.key Parser.mostParts (quoted name ('=' :: rest)) = some (([], name), '=' :: rest) := by
  have hpart : Parser.keyPart (quoted name ('=' :: rest)) = some (name, '=' :: rest) := by
    have hbare : (quoted name ('=' :: rest)).takeWhile Parser.isBareKey = [] := rfl
    rw [Parser.keyPart, hbare, ← oneLine_quoted name]
    rfl
  have hskip : Parser.skipSpaces (quoted name ('=' :: rest)) = quoted name ('=' :: rest) := rfl
  rw [Parser.mostParts, Parser.nestingLimit, Parser.key, hskip, hpart]
  rfl

theorem parse_line (e : String × Plain) (rest : List Char) :
    Parser.pair (line e rest) = some (.pair [] e.1 e.2.toToml, rest) := by
  have hskip : Parser.skipSpaces (value e.2 ('\n' :: rest)) = value e.2 ('\n' :: rest) := by
    cases e.2 <;> rfl
  have hvalue := parse_value e.2 rest (Nat.lt_succ_self _)
  have hend : Parser.lineEnd ('\n' :: rest) = some ((), rest) := rfl
  rw [Parser.pair, line, parse_key]
  simp [Scalar.expect, hskip, hvalue, hend]

theorem parse_lines (es : List (String × Plain)) {fuel : Nat} (h : es.length < fuel)
    (read : List Statement) :
    Parser.statements fuel read (lines es) =
      some (read.reverse ++ es.map fun e => .pair [] e.1 e.2.toToml) := by
  induction es generalizing fuel read with
  | nil =>
    obtain ⟨fuel, rfl⟩ : ∃ k, fuel = k + 1 := Nat.exists_eq_add_of_le' h
    simp [Parser.statements, lines, Parser.skipSpaces]
  | cons e es ih =>
    obtain ⟨fuel, rfl⟩ : ∃ k, fuel = k + 1 := Nat.exists_eq_add_of_le' (Nat.one_le_of_lt h)
    obtain ⟨cs, hcs⟩ : ∃ cs, line e (lines es) = '"' :: cs := ⟨_, rfl⟩
    have hskip : Parser.skipSpaces ('"' :: cs) = '"' :: cs := rfl
    have hline := parse_line e (lines es)
    rw [hcs] at hline
    have hnext := ih (Nat.lt_of_succ_lt_succ h) (.pair [] e.1 e.2.toToml :: read)
    rw [lines, hcs, Parser.statements, hskip]
    simp [hline, hnext]

theorem length_lines (es : List (String × Plain)) : es.length ≤ (lines es).length := by
  induction es with
  | nil => exact Nat.le_refl 0
  | cons e es ih =>
    have hvalue := length_value e.2 ('\n' :: lines es)
    have hline := length_quoted e.1 ('=' :: value e.2 ('\n' :: lines es))
    rw [List.length_cons] at hvalue hline
    rw [lines, line, List.length_cons]
    omega

/-! ### Documents -/

theorem addPair_nil {name : String} {v : Toml} {nodes : Nodes} (h : name ∉ nodes.map (·.1)) :
    addPair [] name v ⟨false, false, nodes⟩ =
      some ⟨false, false, nodes ++ [(name, .value v)]⟩ := by
  have hnew : (lookup name nodes).isSome = false := by
    rw [Nodes.Sound.lookup_eq_none_iff.mpr h]
    rfl
  simp [addPair, modifyEntries, modifyAt, hnew]

/-- Pairs with new and distinct keys are added in their order. -/
theorem run_pairs (es : Entries) (nodes : Nodes)
    (h : (nodes.map (·.1) ++ es.map (·.1)).Nodup) (root : Draft) :
    Assembly.run (es.map fun e => .pair [] e.1 e.2) ⟨root, ⟨false, false, nodes⟩, .root⟩ =
      some ⟨root, ⟨false, false, nodes ++ es.map fun e => (e.1, .value e.2)⟩, .root⟩ := by
  induction es generalizing nodes with
  | nil => simp [Assembly.run]
  | cons e es ih =>
    rw [List.map_cons] at h
    have hnew : e.1 ∉ nodes.map (·.1) := fun hmem =>
      (List.nodup_append.mp h).2.2 _ hmem _ List.mem_cons_self rfl
    have hrest := ih (nodes ++ [(e.1, .value e.2)]) (by simpa using h)
    rw [List.map_cons, Assembly.run, Assembly.step]
    simp [addPair_nil hnew, hrest]

theorem ofStatements?_pairs {es : Entries} (h : (es.map (·.1)).Nodup) :
    ofStatements? (es.map fun e => .pair [] e.1 e.2) = some es := by
  rw [ofStatements?, Assembly.start, Draft.empty, run_pairs es [] (by simpa using h)]
  simp [Assembly.finish, toEntries_eq_map, Function.comp_def, Node.toToml]

theorem parse?_lines {es : List (String × Plain)} (h : (es.map (·.1)).Nodup) :
    parse? (String.ofList (lines es)) = some (es.map fun e => (e.1, e.2.toToml)) := by
  have hmark : Parser.dropByteOrderMark (lines es) = lines es := by cases es <;> rfl
  have hstatements := parse_lines es (Nat.lt_succ_of_le (length_lines es)) []
  have hkeys : ((es.map fun e => (e.1, e.2.toToml)).map (·.1)).Nodup := by
    rw [List.map_map]
    exact h
  have hpairs := ofStatements?_pairs hkeys
  rw [List.map_map] at hpairs
  rw [parse?, String.toList_ofList, hmark]
  simp only [hstatements]
  exact hpairs

/-- Every document of such values has a text. -/
theorem exists_text (d : Document) (h : ∀ e ∈ d.entries, ∃ v : Plain, v.toToml = e.2) :
    ∃ text, parse? text = some d.entries := by
  have hrange : d.entries ∈ Set.range (List.map fun e : String × Plain => (e.1, e.2.toToml)) := by
    rw [Set.range_list_map]
    intro e he
    obtain ⟨v, hv⟩ := h e he
    exact ⟨(e.1, v), Prod.ext rfl hv⟩
  obtain ⟨es, hes⟩ := hrange
  have hd := d.distinct
  rw [← hes, List.map_map] at hd
  exact ⟨String.ofList (lines es), hes ▸ parse?_lines hd⟩

end DefectGate.Toml.Writing
