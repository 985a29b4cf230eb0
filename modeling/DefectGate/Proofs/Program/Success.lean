import DefectGate.Proofs.Program.Yields

/-! # Runs that end well

A sequence of attempts ends well on a host exactly if each of them does, from the state in which the
one before left the host.
-/
namespace DefectGate.Program
variable {α β ε ε' σ : Type} {h : Host σ} {s s' : σ}

theorem run_ask (h : Host σ) (c : Call) (s : σ) : c.ask.run.run h s = h.answer c s := rfl

section Failing
variable {x : ExceptT ε Program α}

theorem run_seq_ok_iff {f : α → ExceptT ε Program β} {b : β} :
    (x >>= f).run.run h s = (.ok b, s') ↔
      ∃ a mid, x.run.run h s = (.ok a, mid) ∧ (f a).run.run h mid = (.ok b, s') := by
  change (Program.bind x.run _).run h s = _ ↔ _
  rw [run_bind]
  obtain ⟨r, mid⟩ := x.run.run h s
  cases r with
  | error e =>
    constructor
    · rintro ⟨⟩
    · rintro ⟨a, mid', ⟨⟩, -⟩
  | ok a =>
    constructor
    · exact fun hf => ⟨a, mid, rfl, hf⟩
    · rintro ⟨_, _, ⟨⟩, hf⟩
      exact hf

theorem run_catch_ok_iff {handle : ε → ExceptT ε Program α} {a : α} :
    (tryCatch x handle).run.run h s = (.ok a, s') ↔
      x.run.run h s = (.ok a, s') ∨
        ∃ e mid, x.run.run h s = (.error e, mid) ∧ (handle e).run.run h mid = (.ok a, s') := by
  change (Program.bind x.run _).run h s = _ ↔ _
  rw [run_bind]
  obtain ⟨r, mid⟩ := x.run.run h s
  cases r with
  | error e =>
    constructor
    · exact fun hf => .inr ⟨e, mid, rfl, hf⟩
    · rintro (⟨⟨⟩⟩ | ⟨_, _, ⟨⟩, hf⟩)
      exact hf
  | ok a' =>
    constructor
    · exact .inl
    · rintro (hx | ⟨_, _, ⟨⟩, -⟩)
      exact hx

theorem run_adapt_ok_iff {f : ε → ε'} {a : α} :
    (ExceptT.adapt f x).run.run h s = (.ok a, s') ↔ x.run.run h s = (.ok a, s') := by
  change (Program.bind x.run _).run h s = _ ↔ _
  rw [run_bind]
  obtain ⟨r, mid⟩ := x.run.run h s
  cases r with
  | error e =>
    constructor <;> rintro ⟨⟩
  | ok a' =>
    constructor
    · rintro ⟨⟩
      rfl
    · rintro ⟨⟩
      rfl

theorem run_lift_ok_iff {p : Program α} {a : α} :
    (liftM p : ExceptT ε Program α).run.run h s = (.ok a, s') ↔ p.run h s = (a, s') := by
  change (Program.bind p _).run h s = _ ↔ _
  rw [run_bind]
  obtain ⟨a', mid⟩ := p.run h s
  constructor
  · rintro ⟨⟩
    rfl
  · rintro ⟨⟩
    rfl

end Failing
end DefectGate.Program
