import DefectGate.Text.Blank
import Mathlib.Tactic

/-! # Trimming

A text is its trimmed form with blanks on both sides. A part of a text that neither begins nor ends
with a blank, and has only blanks around it, is what trimming leaves.
-/
namespace DefectGate.Text

def AllBlank (cs : List Char) : Prop := ∀ c ∈ cs, isBlank c = true

theorem isBlank_eq_false_of_isDigit {c : Char} (h : c.isDigit = true) : isBlank c = false := by
  have hlow : 48 ≤ c.toNat := (Char.isDigit_iff_toNat.mp h).1
  have hhigh : c.toNat ≤ 57 := (Char.isDigit_iff_toNat.mp h).2
  simp only [isBlank, blankRanges, List.any_cons, List.any_nil, Bool.or_false,
    Bool.or_eq_false_iff, Bool.and_eq_false_imp, decide_eq_true_eq, decide_eq_false_iff_not, not_le]
  omega

theorem allBlank_takeWhile (cs : List Char) : AllBlank (cs.takeWhile isBlank) :=
  List.all_eq_true.mp List.all_takeWhile

theorem exists_blanks_around_trim (cs : List Char) :
    ∃ lead trail, cs = lead ++ trim cs ++ trail ∧ AllBlank lead ∧ AllBlank trail := by
  let rest := cs.dropWhile isBlank
  refine ⟨cs.takeWhile isBlank, (rest.reverse.takeWhile isBlank).reverse, ?_,
    allBlank_takeWhile cs, ?_⟩
  · have hrest : trim cs ++ (rest.reverse.takeWhile isBlank).reverse = rest := by
      rw [trim, ← List.reverse_append, List.takeWhile_append_dropWhile, List.reverse_reverse]
    rw [List.append_assoc, hrest, List.takeWhile_append_dropWhile]
  · exact fun c hc => allBlank_takeWhile _ c (List.mem_reverse.mp hc)

theorem dropWhile_isBlank_append {lead cs : List Char} (hlead : AllBlank lead)
    (hhead : ∀ c ∈ cs.head?, isBlank c = false) : (lead ++ cs).dropWhile isBlank = cs := by
  rw [List.dropWhile_append_of_pos hlead]
  cases cs with
  | nil => rfl
  | cons c cs => exact List.dropWhile_cons_of_neg (by simp [hhead c rfl])

/-- Trimming removes the blanks around a text that has none at its ends. -/
theorem trim_eq {lead cs trail : List Char} (hne : cs ≠ []) (hlead : AllBlank lead)
    (htrail : AllBlank trail) (hhead : ∀ c ∈ cs.head?, isBlank c = false)
    (hlast : ∀ c ∈ cs.getLast?, isBlank c = false) : trim (lead ++ cs ++ trail) = cs := by
  have hfront : (lead ++ (cs ++ trail)).dropWhile isBlank = cs ++ trail :=
    dropWhile_isBlank_append hlead (by rwa [List.head?_append_of_ne_nil _ hne])
  have hback : (trail.reverse ++ cs.reverse).dropWhile isBlank = cs.reverse :=
    dropWhile_isBlank_append (fun c hc => htrail c (List.mem_reverse.mp hc))
      (by rwa [List.head?_reverse])
  rw [trim, List.append_assoc, hfront, List.reverse_append, hback, List.reverse_reverse]

end DefectGate.Text
