import DefectGate.Proofs.Program.Yields

/-! # Steps and the states between them

The calls of a run take its host from state to state. Together with what a program can do, this says
what a run does to its host, part by part.
-/
namespace DefectGate.Host
variable {σ : Type} {h : Host σ} {s s' : σ}

/-- The host answers these calls in this order from one state, and is left in another. -/
inductive Answers (h : Host σ) : σ → List Step → σ → Prop where
  | nil (s : σ) : Answers h s [] s
  | cons {c : Call} {s s' : σ} {rest : List Step} (hrest : Answers h (h.answer c s).2 rest s') :
      Answers h s (⟨c, (h.answer c s).1⟩ :: rest) s'

theorem answers_trace (h : Host σ) (p : Program α) (s : σ) :
    h.Answers s (p.trace h s) (p.run h s).2 := by
  induction p generalizing s with
  | done a => exact .nil s
  | call c next ih => exact .cons (ih _ _)

theorem answers_nil_iff : h.Answers s [] s' ↔ s' = s := by
  constructor
  · rintro ⟨⟩
    rfl
  · rintro rfl
    exact .nil _

theorem answers_cons_iff {c : Call} {answer : c.Answer} {rest : List Step} :
    h.Answers s (⟨c, answer⟩ :: rest) s' ↔
      ∃ mid, h.answer c s = (answer, mid) ∧ h.Answers mid rest s' := by
  constructor
  · rintro (_ | hrest)
    exact ⟨_, rfl, hrest⟩
  · rintro ⟨mid, hanswer, hrest⟩
    have hcons : h.Answers (h.answer c s).2 rest s' →
        h.Answers s (⟨c, (h.answer c s).1⟩ :: rest) s' := .cons
    rw [hanswer] at hcons
    exact hcons hrest

theorem answers_append_iff {first rest : List Step} :
    h.Answers s (first ++ rest) s' ↔ ∃ mid, h.Answers s first mid ∧ h.Answers mid rest s' := by
  induction first generalizing s with
  | nil => simp [answers_nil_iff]
  | cons step first ih =>
    obtain ⟨c, answer⟩ := step
    simp only [List.cons_append, answers_cons_iff, ih]
    constructor
    · rintro ⟨next, hanswer, mid, hfirst, hrest⟩
      exact ⟨mid, ⟨next, hanswer, hfirst⟩, hrest⟩
    · rintro ⟨mid, ⟨next, hanswer, hfirst⟩, hrest⟩
      exact ⟨next, hanswer, mid, hfirst, hrest⟩

end DefectGate.Host
