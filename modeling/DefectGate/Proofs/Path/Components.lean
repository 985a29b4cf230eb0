import DefectGate.Host.Path
import DefectGate.Proofs.Text.Lines

/-! # Components of joined paths

The components of a path are read off its parts between slashes. A name that is one component is
added to a path as exactly one more component, whatever the path ends with.
-/
namespace DefectGate.Host.Path

theorem parts_of_not_mem {name : Bytes} (h : slash ∉ name) : parts ⟨name⟩ = [name] :=
  List.splitOn_eq_singleton h

theorem parts_append_slash (front rest : Bytes) :
    parts ⟨front ++ slash :: rest⟩ = parts ⟨front⟩ ++ parts ⟨rest⟩ :=
  List.splitOn_append_cons_self front rest

theorem parts_ne_nil (p : Path) : p.parts ≠ [] := List.splitOn_ne_nil slash p.bytes

/-- No part has a slash in it. -/
theorem slash_not_mem_of_mem_parts {p : Path} {part : Bytes} (h : part ∈ p.parts) :
    slash ∉ part := by
  obtain ⟨bs⟩ := p
  induction bs using Text.separator_induction slash with
  | last name hname =>
    rw [parts_of_not_mem hname, List.mem_singleton] at h
    rwa [h]
  | next name rest hname ih =>
    rw [parts_append_slash, parts_of_not_mem hname] at h
    rcases List.mem_append.mp h with hm | hm
    · rwa [List.mem_singleton.mp hm]
    · exact ih hm

/-- What the start of a path adds to its steps. -/
def lead (p : Path) : List Component :=
  if p.isAbsolute then [.root] else if p.parts.head? = some [dot] then [.current] else []

/-- The steps that the parts of a path mean. -/
def steps (p : Path) : List Component := p.parts.filterMap stepOf

theorem components_eq (p : Path) : p.components = p.lead ++ p.steps := by
  rw [components, lead, steps]
  split_ifs <;> rfl

theorem lead_append_slash {front : Bytes} (hne : front ≠ []) (rest : Bytes) :
    lead ⟨front ++ slash :: rest⟩ = lead ⟨front⟩ := by
  have habsolute : isAbsolute ⟨front ++ slash :: rest⟩ = isAbsolute ⟨front⟩ := by
    simp [isAbsolute, List.head?_append_of_ne_nil _ hne]
  rw [lead, lead, habsolute, parts_append_slash, List.head?_append_of_ne_nil _ (parts_ne_nil _)]

theorem stepOf_eq_normal {part : Bytes} {name : Bytes} (h : stepOf part = some (.normal name)) :
    name = part := by
  unfold stepOf at h
  split_ifs at h
  · cases h
  · exact (Component.normal.inj (Option.some.inj h)).symm

/-- The name of a component is a part of the path. -/
theorem mem_parts_of_normal {p : Path} {name : Bytes} (h : .normal name ∈ p.components) :
    name ∈ p.parts := by
  rw [components_eq] at h
  rcases List.mem_append.mp h with hlead | hsteps
  · unfold lead at hlead
    split_ifs at hlead <;> simp at hlead
  · obtain ⟨part, hpart, hstep⟩ := List.mem_filterMap.mp hsteps
    rwa [stepOf_eq_normal hstep]

/-- A name that is one component of a path. -/
def IsName (name : Bytes) : Prop := slash ∉ name ∧ name ≠ [] ∧ name ≠ [dot] ∧ name ≠ [dot, dot]

namespace IsName
variable {name : Bytes}

theorem stepOf_eq (h : IsName name) : stepOf name = some (.normal name) := by
  obtain ⟨-, hne, hdot, hdots⟩ := h
  simp [stepOf, hne, hdot, hdots]

theorem isAbsolute_eq (h : IsName name) : isAbsolute ⟨name⟩ = false := by
  have hhead : name.head? ≠ some slash := fun he => h.1 (List.mem_of_mem_head? he)
  simpa [isAbsolute] using hhead

theorem components_eq_singleton (h : IsName name) :
    components ⟨name⟩ = [.normal name] := by
  simp [components, h.isAbsolute_eq, parts_of_not_mem h.1, h.stepOf_eq, h.2.2.1]

/-- A name after a slash is one more component of what stands before the slash. -/
theorem components_append (h : IsName name) {front : Bytes} (hne : front ≠ []) :
    components ⟨front ++ slash :: name⟩ = components ⟨front⟩ ++ [.normal name] := by
  rw [components_eq, components_eq, lead_append_slash hne, steps, parts_append_slash,
    parts_of_not_mem h.1, List.filterMap_append, List.append_assoc]
  simp [steps, h.stepOf_eq]

end IsName

/-- A closing slash adds no component. -/
theorem components_append_slash {front : Bytes} (hne : front ≠ []) :
    components ⟨front ++ [slash]⟩ = components ⟨front⟩ := by
  rw [components_eq, components_eq, lead_append_slash hne, steps, steps, parts_append_slash]
  simp [parts, stepOf]

theorem components_root_append {name : Bytes} (h : IsName name) :
    components ⟨slash :: name⟩ = [.root, .normal name] := by
  have hparts : parts ⟨slash :: name⟩ = [[]] ++ [name] := by
    rw [← parts_of_not_mem h.1]
    exact parts_append_slash [] name
  have hnil : stepOf [] = none := rfl
  rw [components_eq, steps, hparts, List.filterMap_append]
  simp [lead, isAbsolute, hnil, h.stepOf_eq]

/-- Joined to any path, a name is exactly one more component. -/
theorem components_join {name : Bytes} (h : IsName name) (p : Path) :
    (p.join ⟨name⟩).components = p.components ++ [.normal name] := by
  obtain ⟨bs⟩ := p
  rw [join, if_neg (by simp [h.isAbsolute_eq])]
  by_cases hnil : bs = []
  · subst hnil
    rw [if_pos (.inl rfl)]
    exact h.components_eq_singleton
  by_cases hlast : bs.getLast? = some slash
  · rw [if_pos (.inr hlast)]
    obtain ⟨front, rfl⟩ := List.getLast?_eq_some_iff.mp hlast
    rw [List.append_assoc, List.singleton_append]
    by_cases hfront : front = []
    · subst hfront
      exact components_root_append h
    · rw [h.components_append hfront, components_append_slash hfront]
  · rw [if_neg (by simp [hnil, hlast])]
    exact h.components_append hnil

end DefectGate.Host.Path
