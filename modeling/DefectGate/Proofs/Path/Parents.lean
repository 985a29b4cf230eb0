import DefectGate.Proofs.Path.Components
import DefectGate.Workspace.Files.Walk
import Mathlib.Data.List.TakeWhile

/-! # What is above a path

The parent of a path is a beginning of it, and so is the parent of that one. The names on the way to
a path above are the first names on the way to the path itself, and there is at least one more.
-/
namespace DefectGate.Host.Path
open Workspace.Files (names)

/-- The parent of a path, the parent of that one, and so on. -/
inductive Above : Path → Path → Prop where
  | parent {p q : Path} (h : p.parent? = some q) : Above q p
  | next {p q r : Path} (h : Above q p) (hr : q.parent? = some r) : Above r p

theorem names_append_slash (front rest : Bytes) :
    names (front ++ slash :: rest) = names front ++ names rest := by
  rw [names, parts_append_slash, List.filter_append]
  rfl

theorem names_of_not_mem {name : Bytes} (h : slash ∉ name) (hne : name ≠ []) :
    names name = [name] := by
  rw [names, parts_of_not_mem h]
  simp [hne]

theorem names_append_closing (front : Bytes) : names (front ++ [slash]) = names front := by
  rw [names_append_slash]
  exact List.append_nil _

/-- What adds no step to a path adds at most dots to its names. -/
theorem names_dropIdleEnd (bs : Bytes) :
    ∃ dots, names bs.reverse = names (dropIdleEnd bs).reverse ++ dots := by
  fun_induction dropIdleEnd bs with
  | case1 => exact ⟨[], rfl⟩
  | case2 rest ih =>
    rw [List.reverse_cons, names_append_closing]
    exact ih
  | case3 b rest _ hdot ih =>
    obtain ⟨rfl, hhead⟩ := hdot
    obtain ⟨rest, rfl⟩ := List.head?_eq_some_iff.mp hhead
    obtain ⟨dots, hdots⟩ := ih
    rw [List.reverse_cons, names_append_closing] at hdots
    refine ⟨dots ++ [[dot]], ?_⟩
    rw [List.reverse_cons, List.reverse_cons, List.append_assoc, List.singleton_append,
      names_append_slash, hdots, List.append_assoc]
    rfl
  | case4 => exact ⟨[], (List.append_nil _).symm⟩

theorem dropIdleEnd_suffix (bs : Bytes) : dropIdleEnd bs <:+ bs := by
  fun_induction dropIdleEnd bs with
  | case1 => exact List.suffix_rfl
  | case2 rest ih => exact ih.trans (List.suffix_cons _ _)
  | case3 b rest _ _ ih => exact ih.trans (List.suffix_cons _ _)
  | case4 => exact List.suffix_rfl

theorem dropIdleEnd_head?_ne (bs : Bytes) : (dropIdleEnd bs).head? ≠ some slash := by
  fun_induction dropIdleEnd bs with
  | case1 => simp
  | case2 rest ih => exact ih
  | case3 b rest _ _ ih => exact ih
  | case4 b rest hslash => simpa using hslash

/-- Up to its last slash a path that does not end in one is without its last name. -/
theorem names_dropWhile {bs : Bytes} (hhead : bs.head? ≠ some slash)
    (hne : bs.dropWhile (· ≠ slash) ≠ []) :
    ∃ name, names bs.reverse = names (bs.dropWhile (· ≠ slash)).reverse ++ [name] := by
  have hsplit := List.takeWhile_append_dropWhile (p := (· ≠ slash)) (l := bs)
  have hfirst := List.head_dropWhile_not (· ≠ slash) hne
  generalize hname : bs.takeWhile (· ≠ slash) = name at hsplit
  generalize bs.dropWhile (· ≠ slash) = after at *
  cases after with
  | nil => exact absurd rfl hne
  | cons b rest =>
    obtain rfl : b = slash := not_not.mp (of_decide_eq_false hfirst)
    have hslash : slash ∉ name.reverse := by
      intro hmem
      rw [List.mem_reverse, ← hname] at hmem
      simpa using List.mem_takeWhile_imp hmem
    have hname : name.reverse ≠ [] := by
      intro hnil
      rw [List.reverse_eq_nil_iff.mp hnil] at hsplit
      exact hhead (by rw [← hsplit]; rfl)
    refine ⟨name.reverse, ?_⟩
    rw [← hsplit, List.reverse_append, List.reverse_cons, List.append_assoc,
      List.singleton_append, names_append_slash, names_append_closing, names_of_not_mem hslash hname]

theorem stepOf_nil : stepOf [] = none := rfl

/-- An absolute path with a last step that is not the root has a name. -/
theorem names_ne_nil_of_parent {p q : Path} (h : p.parent? = some q) (habs : p.isAbsolute) :
    names p.bytes ≠ [] := by
  intro hnames
  have hparts : ∀ part ∈ p.parts, part = [] := by simpa [names] using hnames
  have hsteps : p.steps = [] := by
    refine List.filterMap_eq_nil_iff.mpr fun part hpart => ?_
    rw [hparts part hpart, stepOf_nil]
  have hcomponents : p.components = [.root] := by
    rw [components_eq, hsteps, lead, if_pos habs]
    rfl
  rw [parent?, hcomponents] at h
  cases h

/-- The names of the parent come first, and the last name is not among them. -/
theorem parent?_begins {p q : Path} (h : p.parent? = some q) (hq : q.bytes ≠ []) :
    q.bytes <+: p.bytes ∧ ∃ more, more ≠ [] ∧ names p.bytes = names q.bytes ++ more := by
  have hq' := h
  unfold parent? at hq'
  split at hq'
  · cases hq'
  · cases hq'
  rename_i last hroot hlast
  let front := dropIdleEnd p.bytes.reverse
  let kept := dropIdleEnd (front.dropWhile (· ≠ slash))
  have hq' : q = ⟨if kept = [] ∧ p.isAbsolute then [slash] else kept.reverse⟩ :=
    (Option.some.inj hq').symm
  by_cases hkept : kept = []
  · by_cases habs : p.isAbsolute
    · rw [if_pos ⟨hkept, habs⟩] at hq'
      subst hq'
      refine ⟨?_, names p.bytes, names_ne_nil_of_parent h habs, rfl⟩
      obtain ⟨rest, hrest⟩ := List.head?_eq_some_iff.mp (by simpa [isAbsolute] using habs)
      rw [hrest]
      exact List.prefix_append [slash] rest
    · rw [if_neg (by simp [habs]), hkept] at hq'
      subst hq'
      exact absurd rfl hq
  · rw [if_neg (by simp [hkept])] at hq'
    subst hq'
    have hshorter : front.dropWhile (· ≠ slash) ≠ [] := by
      intro hnil
      exact hkept (by simp only [kept, hnil, dropIdleEnd])
    obtain ⟨dots, hdots⟩ := names_dropIdleEnd p.bytes.reverse
    obtain ⟨name, hname⟩ := names_dropWhile (dropIdleEnd_head?_ne _) hshorter
    obtain ⟨dots', hdots'⟩ := names_dropIdleEnd (front.dropWhile (· ≠ slash))
    refine ⟨?_, dots' ++ [name] ++ dots, by simp, ?_⟩
    · have hsuffix : kept <:+ p.bytes.reverse :=
        ((dropIdleEnd_suffix _).trans (List.dropWhile_suffix _)).trans (dropIdleEnd_suffix _)
      exact List.reverse_suffix.mp (by simpa using hsuffix)
    · rw [List.reverse_reverse] at hdots
      rw [hdots, hname, hdots']
      simp [kept, front]

theorem Above.begins {p q : Path} (h : q.Above p) (hq : q.bytes ≠ []) :
    q.bytes <+: p.bytes ∧ ∃ more, more ≠ [] ∧ names p.bytes = names q.bytes ++ more := by
  induction h with
  | parent h => exact parent?_begins h hq
  | @next p q r h hr ih =>
    have hne : q.bytes ≠ [] := by
      intro hnil
      obtain ⟨bs⟩ := q
      obtain rfl : bs = [] := hnil
      cases hr
    obtain ⟨hbegins, more, hmore, hnames⟩ := ih hne
    obtain ⟨hbegins', more', -, hnames'⟩ := parent?_begins hr hq
    refine ⟨hbegins'.trans hbegins, more' ++ more, by simp [hmore], ?_⟩
    rw [hnames, hnames', List.append_assoc]

end DefectGate.Host.Path
