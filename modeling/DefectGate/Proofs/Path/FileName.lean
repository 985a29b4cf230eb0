import DefectGate.Proofs.Path.Components

/-! # File names

The file name of a path is the last of its steps. The slashes and single dots that stand after it
add no step, and what stands before the slash in front of it only adds steps before it.
-/
namespace DefectGate.Host.Path

theorem steps_append_slash (front rest : Bytes) :
    steps ⟨front ++ slash :: rest⟩ = steps ⟨front⟩ ++ steps ⟨rest⟩ := by
  rw [steps, parts_append_slash, List.filterMap_append]
  rfl

/-- What may stand after a path without adding a step to it. -/
def IsIdle (piece : Bytes) : Prop := piece = [slash] ∨ piece = [slash, dot]

theorem steps_append_idle {piece : Bytes} (h : IsIdle piece) (front : Bytes) :
    steps ⟨front ++ piece⟩ = steps ⟨front⟩ := by
  have hnothing : steps ⟨[]⟩ = [] := by decide
  have hdot : steps ⟨[dot]⟩ = [] := by decide
  rcases h with rfl | rfl
  · rw [steps_append_slash, hnothing, List.append_nil]
  · rw [steps_append_slash, hdot, List.append_nil]

theorem steps_append_idles {pieces : List Bytes} (h : ∀ piece ∈ pieces, IsIdle piece)
    (front : Bytes) : steps ⟨front ++ pieces.flatten⟩ = steps ⟨front⟩ := by
  induction pieces generalizing front with
  | nil => simp
  | cons piece pieces ih =>
    rw [List.flatten_cons, ← List.append_assoc, ih fun p hp => h p (List.mem_cons_of_mem _ hp),
      steps_append_idle (h piece List.mem_cons_self)]

theorem fileName?_of_steps {p : Path} {name : Bytes}
    (h : p.steps.getLast? = some (.normal name)) : p.fileName? = some name := by
  have hlast : p.components.getLast? = some (.normal name) := by
    rw [components_eq, List.getLast?_append, h]
    rfl
  rw [fileName?, hlast]

namespace IsName
variable {name : Bytes}

theorem steps_eq (h : IsName name) : steps ⟨name⟩ = [.normal name] := by
  rw [steps, parts_of_not_mem h.1]
  simp [h.stepOf_eq]

theorem fileName?_eq (h : IsName name) : fileName? ⟨name⟩ = some name :=
  fileName?_of_steps (by rw [h.steps_eq]; rfl)

/-- A name in any directory, with anything idle after it, is the file name. -/
theorem fileName?_placed (h : IsName name) (front : Bytes) {pieces : List Bytes}
    (hpieces : ∀ piece ∈ pieces, IsIdle piece) :
    fileName? ⟨front ++ slash :: name ++ pieces.flatten⟩ = some name := by
  apply fileName?_of_steps
  rw [steps_append_idles hpieces, steps_append_slash, h.steps_eq]
  exact List.getLast?_concat

end IsName

end DefectGate.Host.Path
