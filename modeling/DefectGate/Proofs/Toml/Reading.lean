import DefectGate.Proofs.Toml.Tables
import DefectGate.Toml.Parser

/-! # Texts that are documents

Of all readers of values only one gives integers, and it refuses those that need more than 64 bits.
So whatever text is read, its entries are those of a document.
-/
namespace DefectGate.Toml

namespace Scalar
variable {cs rest : List Char} {v : Toml}

theorem ranged_of_integerOf? {n : Int} (h : integerOf? n = some v) : Ranged v := by
  rw [integerOf?] at h
  split_ifs at h with hn
  obtain rfl := Option.some.inj h
  intro m hm
  obtain rfl := Toml.integer.inj hm
  have hlow : Int64.minValue.toInt = -2 ^ 63 := by decide
  have hhigh : Int64.maxValue.toInt = 2 ^ 63 - 1 := by decide
  omega

theorem ranged_of_integer (h : integer cs = some (v, rest)) : Ranged v := by
  unfold integer at h
  split at h
  all_goals
    obtain ⟨⟨ds, rest'⟩, -, h⟩ := Option.bind_eq_some_iff.mp h
    obtain ⟨v', hv, h⟩ := Option.bind_eq_some_iff.mp h
    obtain ⟨rfl, -⟩ := Prod.mk.inj (Option.some.inj h)
    exact ranged_of_integerOf? hv

theorem ranged_of_truth (h : truth cs = some (v, rest)) : Ranged v := by
  unfold truth at h
  split at h
  case h_3 => cases h
  all_goals
    obtain ⟨rfl, -⟩ := Prod.mk.inj (Option.some.inj h)
    exact .of_ne (by simp)

theorem ranged_of_datetime (h : datetime cs = some (v, rest)) : Ranged v := by
  obtain ⟨⟨_, rest'⟩, -, h⟩ := Option.bind_eq_some_iff.mp h
  obtain ⟨rfl, -⟩ := Prod.mk.inj (Option.some.inj h)
  exact .of_ne (by simp)

theorem ranged_of_decimalReal (h : decimalReal cs = some (v, rest)) : Ranged v := by
  unfold decimalReal at h
  obtain ⟨⟨whole, rest'⟩, -, h⟩ := Option.bind_eq_some_iff.mp h
  obtain ⟨⟨fraction, rest'⟩, -, h⟩ := Option.bind_eq_some_iff.mp h
  obtain ⟨⟨exponent, rest'⟩, -, h⟩ := Option.bind_eq_some_iff.mp h
  simp only at h
  split_ifs at h
  obtain ⟨rfl, -⟩ := Prod.mk.inj (Option.some.inj h)
  exact .of_ne (by simp)

theorem ranged_of_specialReal (h : specialReal cs = some (v, rest)) : Ranged v := by
  unfold specialReal at h
  simp only at h
  split at h
  case h_3 => cases h
  all_goals
    obtain ⟨rfl, -⟩ := Prod.mk.inj (Option.some.inj h)
    exact .of_ne (by simp)

theorem ranged_of_unquoted (h : unquoted cs = some (v, rest)) : Ranged v := by
  unfold unquoted at h
  simp only [Option.orElse_eq_some] at h
  rcases h with h | ⟨-, h | ⟨-, h | ⟨-, h | ⟨-, h⟩⟩⟩⟩
  · exact ranged_of_truth h
  · exact ranged_of_datetime h
  · exact ranged_of_decimalReal h
  · exact ranged_of_specialReal h
  · exact ranged_of_integer h

end Scalar

namespace Parser

theorem ranged_of_value {depth fuel : Nat} {cs rest : List Char} {v : Toml}
    (h : value depth fuel cs = some (v, rest)) : Ranged v := by
  cases fuel with
  | zero =>
    unfold value at h
    cases h
  | succ fuel =>
    unfold value at h
    split at h
    case h_1 | h_2 =>
      obtain ⟨⟨s, rest'⟩, -, heq⟩ := Option.map_eq_some_iff.mp h
      obtain ⟨rfl, -⟩ := Prod.mk.inj heq
      exact .of_ne (by simp)
    case h_3 =>
      split_ifs at h
      split at h
      · obtain ⟨rfl, -⟩ := Prod.mk.inj (Option.some.inj h)
        exact .of_ne (by simp)
      · obtain ⟨⟨vs, rest'⟩, -, heq⟩ := Option.map_eq_some_iff.mp h
        obtain ⟨rfl, -⟩ := Prod.mk.inj heq
        exact .of_ne (by simp)
    case h_4 =>
      split_ifs at h
      split at h
      · obtain ⟨rfl, -⟩ := Prod.mk.inj (Option.some.inj h)
        exact .of_ne (by simp)
      · split at h
        · cases h
        · obtain ⟨t, htable, heq⟩ := Option.map_eq_some_iff.mp h
          obtain ⟨rfl, -⟩ := Prod.mk.inj heq
          obtain ⟨d, -, heq⟩ := Option.bind_eq_some_iff.mp htable
          obtain rfl := Option.some.inj heq
          exact .of_ne (by simp)
    case h_5 => exact Scalar.ranged_of_unquoted h

theorem pair_ranged {cs rest : List Char} {path : List String} {name : String} {v : Toml}
    (h : pair cs = some (.pair path name v, rest)) : Ranged v := by
  obtain ⟨⟨⟨path', name'⟩, rest'⟩, -, h⟩ := Option.bind_eq_some_iff.mp h
  obtain ⟨⟨_, rest'⟩, -, h⟩ := Option.bind_eq_some_iff.mp h
  obtain ⟨⟨v', rest'⟩, hvalue, h⟩ := Option.bind_eq_some_iff.mp h
  obtain ⟨⟨_, rest'⟩, -, h⟩ := Option.bind_eq_some_iff.mp h
  obtain ⟨heq, -⟩ := Prod.mk.inj (Option.some.inj h)
  obtain ⟨-, -, rfl⟩ := Statement.pair.inj heq
  exact ranged_of_value hvalue

theorem header_ne_pair {cs rest : List Char} {s : Statement} (h : header cs = some (s, rest))
    (path : List String) (name : String) (v : Toml) : s ≠ .pair path name v := by
  unfold header at h
  split at h
  · obtain ⟨⟨⟨path', name'⟩, rest'⟩, -, h⟩ := Option.bind_eq_some_iff.mp h
    obtain ⟨⟨_, rest'⟩, -, h⟩ := Option.bind_eq_some_iff.mp h
    obtain ⟨⟨_, rest'⟩, -, h⟩ := Option.bind_eq_some_iff.mp h
    obtain ⟨⟨_, rest'⟩, -, h⟩ := Option.bind_eq_some_iff.mp h
    obtain ⟨rfl, -⟩ := Prod.mk.inj (Option.some.inj h)
    exact Statement.noConfusion
  · obtain ⟨⟨⟨path', name'⟩, rest'⟩, -, h⟩ := Option.bind_eq_some_iff.mp h
    obtain ⟨⟨_, rest'⟩, -, h⟩ := Option.bind_eq_some_iff.mp h
    obtain ⟨⟨_, rest'⟩, -, h⟩ := Option.bind_eq_some_iff.mp h
    obtain ⟨rfl, -⟩ := Prod.mk.inj (Option.some.inj h)
    exact Statement.noConfusion
  · cases h

theorem statements_ranged {fuel : Nat} {read found : List Statement} {cs : List Char}
    (hread : ∀ path name v, .pair path name v ∈ read → Ranged v)
    (h : statements fuel read cs = some found) :
    ∀ path name v, .pair path name v ∈ found → Ranged v := by
  induction fuel generalizing read cs with
  | zero => cases h
  | succ fuel ih =>
    unfold statements at h
    split at h
    case h_1 =>
      obtain rfl := Option.some.inj h
      simpa using hread
    case h_2 | h_3 => exact ih hread h
    case h_4 =>
      split at h
      · cases h
      · exact ih hread h
    case h_5 =>
      split at h
      · cases h
      case h_2 s rest' hheader =>
        refine ih (fun path name v hmem => ?_) h
        rcases List.mem_cons.mp hmem with hpair | hm
        · exact absurd hpair.symm (header_ne_pair hheader path name v)
        · exact hread path name v hm
    case h_6 =>
      split at h
      · cases h
      case h_2 s rest' hpair =>
        refine ih (fun path name v hmem => ?_) h
        rcases List.mem_cons.mp hmem with rfl | hm
        · exact pair_ranged hpair
        · exact hread path name v hm

end Parser

/-- Every text that is read is a document. -/
theorem exists_document_of_parse? {text : String} {entries : Entries}
    (h : parse? text = some entries) : ∃ d : Document, d.entries = entries := by
  obtain ⟨statements, hstatements, hentries⟩ := Option.bind_eq_some_iff.mp h
  exact exists_document_of_statements
    (Parser.statements_ranged (fun _ _ _ hmem => by cases hmem) hstatements) hentries

end DefectGate.Toml
