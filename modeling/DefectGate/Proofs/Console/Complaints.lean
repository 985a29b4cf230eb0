import DefectGate.Proofs.Program.Yields

/-! # What the stream for diagnostics hears

Texts are offered to the stream for diagnostics one at a time. A stream that listens takes every
one of them; any other hears those that it did not refuse.
-/
namespace DefectGate
open Program

/-- The stream for diagnostics, if it was asked, did not refuse. -/
def Step.Heard : Step → Prop
  | ⟨.complain _, answer⟩ => answer = .ok ()
  | _ => True

/-- The stream for diagnostics of a host takes every text. -/
structure Host.Listens {σ : Type} (h : Host σ) : Prop where
  complain (text : String) (s : σ) : (h.answer (.complain text) s).1 = .ok ()

theorem Host.willing_listens (content : Bytes) (events : List Capture.Event) :
    (Host.willing content events).Listens := ⟨fun _ _ => rfl⟩

theorem Host.Listens.heard {σ α : Type} {h : Host σ} (hl : h.Listens) {p : Program α} {s : σ}
    {step : Step} (hstep : step ∈ p.trace h s) : step.Heard := by
  obtain ⟨c, answer⟩ := step
  obtain ⟨s', rfl : (h.answer c s').1 = answer⟩ := exists_answer_of_mem_trace hstep
  cases c with
  | complain text => exact hl.complain text s'
  | _ => trivial

namespace Console

/-- The texts that were offered to the stream for diagnostics. -/
def complaints (steps : List Step) : List String :=
  steps.filterMap fun step =>
    match step.call with
    | .complain text => some text
    | _ => none

/-- The texts that the stream for diagnostics took. -/
def heard (steps : List Step) : List String :=
  steps.filterMap fun
    | ⟨.complain text, .ok ()⟩ => some text
    | _ => none

theorem complaints_append (first rest : List Step) :
    complaints (first ++ rest) = complaints first ++ complaints rest := List.filterMap_append

theorem complaints_eq_nil {steps : List Step}
    (h : ∀ step ∈ steps, ∀ text, step.call ≠ .complain text) : complaints steps = [] := by
  refine List.filterMap_eq_nil_iff.mpr fun step hstep => ?_
  cases hcall : step.call with
  | complain text => exact absurd hcall (h step hstep text)
  | _ => rfl

theorem heard_append (first rest : List Step) : heard (first ++ rest) = heard first ++ heard rest :=
  List.filterMap_append

theorem heard_eq_complaints {steps : List Step} (h : ∀ step ∈ steps, step.Heard) :
    heard steps = complaints steps := by
  refine List.filterMap_congr fun step hstep => ?_
  obtain ⟨c, answer⟩ := step
  cases c with
  | complain text =>
    obtain rfl : answer = .ok () := h _ hstep
    rfl
  | _ => rfl

theorem heard_eq_nil {steps : List Step}
    (h : ∀ step ∈ steps, ∀ text, step.call ≠ .complain text) : heard steps = [] := by
  rw [heard_eq_complaints, complaints_eq_nil h]
  rintro ⟨c, answer⟩ hstep
  cases c with
  | complain text => exact absurd rfl (h _ hstep text)
  | _ => trivial

end Console
end DefectGate
