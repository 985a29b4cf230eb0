import DefectGate.Text.Lines
import Mathlib.Tactic

/-! # Lines of a text

What cutting a text at its newlines yields, said one line at a time, and the carriage return that a
newline takes along.
-/
namespace DefectGate.Text

/-- A list falls into a part without separators, or into such a part, a separator and a rest. -/
theorem separator_induction {α : Type*} (sep : α) {P : List α → Prop}
    (last : ∀ part, sep ∉ part → P part)
    (next : ∀ part rest, sep ∉ part → P rest → P (part ++ sep :: rest)) (text : List α) :
    P text := by
  induction h : text.length using Nat.strong_induction_on generalizing text with
  | _ n ih =>
    by_cases hm : sep ∈ text
    · obtain ⟨part, rest, rfl, hp⟩ := List.eq_append_cons_of_mem hm
      exact next part rest hp (ih rest.length (by simp at h; omega) rest rfl)
    · exact last text hm

/-- The line without one carriage return at its end. -/
def chomp (line : List Char) : List Char := (dropReturn line.reverse).reverse

@[simp] theorem chomp_append_return (line : List Char) : chomp (line ++ ['\r']) = line := by
  simp [chomp, dropReturn]

theorem chomp_of_getLast?_ne {line : List Char} (h : line.getLast? ≠ some '\r') :
    chomp line = line := by
  rcases List.eq_nil_or_concat line with rfl | ⟨line, c, rfl⟩
  · rfl
  · have hc : c ≠ '\r' := by simpa using h
    simp [chomp, dropReturn, hc]

/-- Chomping takes nothing away or one carriage return. -/
theorem chomp_cases (line : List Char) : line = chomp line ∨ line = chomp line ++ ['\r'] := by
  by_cases h : line.getLast? = some '\r'
  · obtain ⟨front, rfl⟩ := List.getLast?_eq_some_iff.mp h
    simp
  · exact .inl (chomp_of_getLast?_ne h).symm

theorem chomp_eq_self_iff {line : List Char} : chomp line = line ↔ line.getLast? ≠ some '\r' := by
  refine ⟨fun h hr => ?_, chomp_of_getLast?_ne⟩
  obtain ⟨front, rfl⟩ := List.getLast?_eq_some_iff.mp hr
  simp at h

/-- The line without one carriage return at its end, if there is one. -/
def withoutReturn (line : List Char) : List Char :=
  if line.getLast? = some '\r' then line.dropLast else line

theorem chomp_eq_withoutReturn (line : List Char) : chomp line = withoutReturn line := by
  rw [withoutReturn]
  split_ifs with h
  · obtain ⟨front, rfl⟩ := List.getLast?_eq_some_iff.mp h
    simp
  · exact chomp_of_getLast?_ne h

section Parts
variable {α : Type*} [BEq α] {sep : α}

/-- The parts of a text that a separator ends. -/
def ended (sep : α) (text : List α) : List (List α) := (text.splitOn sep).dropLast

/-- What follows the last separator. -/
def remainder (sep : α) (text : List α) : List α := (text.splitOn sep).getLastD []

variable [LawfulBEq α]

theorem ended_of_not_mem {part : List α} (h : sep ∉ part) : ended sep part = [] := by
  simp [ended, List.splitOn_eq_singleton h]

theorem remainder_of_not_mem {part : List α} (h : sep ∉ part) : remainder sep part = part := by
  simp [remainder, List.splitOn_eq_singleton h]

theorem ended_append_cons {part : List α} (h : sep ∉ part) (rest : List α) :
    ended sep (part ++ sep :: rest) = part :: ended sep rest := by
  rw [ended, List.splitOn_append_cons_self_of_not_mem h,
    List.dropLast_cons_of_ne_nil (List.splitOn_ne_nil sep rest), ended]

theorem remainder_append_cons {part : List α} (h : sep ∉ part) (rest : List α) :
    remainder sep (part ++ sep :: rest) = remainder sep rest := by
  rw [remainder, List.splitOn_append_cons_self_of_not_mem h, remainder,
    List.getLastD_eq_getLast?, List.getLastD_eq_getLast?,
    List.getLast?_cons_of_ne_nil (List.splitOn_ne_nil sep rest)]

/-- Every separator ends a part. -/
theorem length_ended (text : List α) : (ended sep text).length = text.count sep := by
  induction text using separator_induction sep with
  | last part h => rw [ended_of_not_mem h, List.count_eq_zero_of_not_mem h, List.length_nil]
  | next part rest h ih =>
    rw [ended_append_cons h, List.length_cons, ih, List.count_append,
      List.count_eq_zero_of_not_mem h, List.count_cons_self, Nat.zero_add]

/-- What follows the last separator ends as the text does. -/
theorem getLast?_remainder {a : α} (ha : a ≠ sep) (text : List α) :
    (remainder sep text).getLast? = some a ↔ text.getLast? = some a := by
  induction text using separator_induction sep with
  | last part h => rw [remainder_of_not_mem h]
  | next part rest h ih =>
    rw [remainder_append_cons h, ih, List.getLast?_append_of_ne_nil _ (List.cons_ne_nil _ _)]
    cases rest with
    | nil => simpa using ha.symm
    | cons b rest => rw [List.getLast?_cons_of_ne_nil (List.cons_ne_nil b rest)]

theorem remainder_eq_nil_iff {text : List α} :
    remainder sep text = [] ↔ text = [] ∨ text.getLast? = some sep := by
  induction text using separator_induction sep with
  | last part h =>
    rw [remainder_of_not_mem h]
    exact ⟨.inl, fun hlast => hlast.resolve_right fun hl => h (List.mem_of_getLast? hl)⟩
  | next part rest h ih =>
    rw [remainder_append_cons h, ih, List.getLast?_append_of_ne_nil _ (List.cons_ne_nil _ _)]
    cases rest with
    | nil => simp
    | cons b rest => simp [List.getLast?_cons_of_ne_nil (List.cons_ne_nil b rest)]

end Parts

theorem linesFrom_append_newline {part : List Char} (h : '\n' ∉ part) (line rest : List Char) :
    linesFrom line (part ++ '\n' :: rest) =
      (dropReturn (part.reverse ++ line)).reverse :: linesFrom [] rest := by
  induction part generalizing line with
  | nil => simp [linesFrom]
  | cons c part ih =>
    have hc : c ≠ '\n' := fun e => h (e ▸ List.mem_cons_self)
    have hp : '\n' ∉ part := fun hm => h (List.mem_cons_of_mem _ hm)
    rw [List.cons_append, linesFrom, if_neg hc, ih hp]
    simp

theorem linesFrom_of_not_mem {part : List Char} (h : '\n' ∉ part) (line : List Char) :
    linesFrom line part = if line = [] ∧ part = [] then [] else [line.reverse ++ part] := by
  induction part generalizing line with
  | nil => cases line <;> simp [linesFrom]
  | cons c part ih =>
    have hc : c ≠ '\n' := fun e => h (e ▸ List.mem_cons_self)
    have hp : '\n' ∉ part := fun hm => h (List.mem_cons_of_mem _ hm)
    rw [linesFrom, if_neg hc, ih hp]
    simp

@[simp] theorem lines_nil : lines [] = [] := rfl

theorem lines_append_newline {part : List Char} (h : '\n' ∉ part) (rest : List Char) :
    lines (part ++ '\n' :: rest) = chomp part :: lines rest := by
  simp [lines, linesFrom_append_newline h, chomp]

theorem lines_of_not_mem {part : List Char} (h : '\n' ∉ part) :
    lines part = if part = [] then [] else [part] := by
  simp [lines, linesFrom_of_not_mem h]

/-- A part that a newline ends is a line without one carriage return at its end. What follows the
last newline is a line as it stands, unless it is empty. -/
theorem lines_eq (text : List Char) :
    lines text = (ended '\n' text).map withoutReturn ++
      if remainder '\n' text = [] then [] else [remainder '\n' text] := by
  induction text using separator_induction '\n' with
  | last part h => rw [lines_of_not_mem h, ended_of_not_mem h, remainder_of_not_mem h]; rfl
  | next part rest h ih =>
    rw [lines_append_newline h, ended_append_cons h, remainder_append_cons h, ih,
      chomp_eq_withoutReturn]
    rfl

theorem lines_append_newline_append (text rest : List Char) :
    lines (text ++ '\n' :: rest) = lines (text ++ ['\n']) ++ lines rest := by
  induction text using separator_induction '\n' with
  | last part h => simp [lines_append_newline h]
  | next part text h ih => simp [lines_append_newline h, ih]

theorem newline_not_mem_of_mem_lines {text line : List Char} (h : line ∈ lines text) :
    '\n' ∉ line := by
  induction text using separator_induction '\n' with
  | last part hp =>
    rw [lines_of_not_mem hp] at h
    split_ifs at h
    · cases h
    · rwa [List.mem_singleton.mp h]
  | next part rest hp ih =>
    rw [lines_append_newline hp] at h
    rcases List.mem_cons.mp h with rfl | h
    · rcases chomp_cases part with hc | hc
      · rwa [← hc]
      · exact fun hm => hp (hc ▸ List.mem_append_left _ hm)
    · exact ih h

end DefectGate.Text
