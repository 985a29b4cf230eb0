import DefectGate.Program
import Mathlib.Tactic

/-! # What a program can do

The runs of a program on every host at once: a list of answered calls together with the value that
the program ends with after these answers. A run of a composition is a run of its first part
followed by one of its second part, so that what a program does is found part by part.
-/
namespace DefectGate
namespace Program
variable {α β ε ε' σ : Type}

/-- A program can make these calls, be given these answers and end with this value. -/
inductive Yields : Program α → List Step → α → Prop where
  | done (a : α) : Yields (.done a) [] a
  | call {c : Call} {next : c.Answer → Program α} {answer : c.Answer} {steps : List Step} {a : α}
      (h : Yields (next answer) steps a) : Yields (.call c next) (⟨c, answer⟩ :: steps) a

theorem yields_run (p : Program α) (h : Host σ) (s : σ) :
    p.Yields (p.trace h s) (p.run h s).1 := by
  induction p generalizing s with
  | done a => exact .done a
  | call c next ih => exact .call (ih _ _)

theorem yields_done_iff {a b : α} {steps : List Step} :
    (Program.done a).Yields steps b ↔ steps = [] ∧ b = a := by
  constructor
  · rintro ⟨⟩
    exact ⟨rfl, rfl⟩
  · rintro ⟨rfl, rfl⟩
    exact .done _

theorem yields_call_iff {c : Call} {next : c.Answer → Program α} {steps : List Step} {a : α} :
    (Program.call c next).Yields steps a ↔
      ∃ answer rest, steps = ⟨c, answer⟩ :: rest ∧ (next answer).Yields rest a := by
  constructor
  · rintro (_ | h)
    exact ⟨_, _, rfl, h⟩
  · rintro ⟨answer, rest, rfl, h⟩
    exact .call h

theorem yields_bind_iff {p : Program α} {k : α → Program β} {steps : List Step} {b : β} :
    (p.bind k).Yields steps b ↔
      ∃ first a rest, steps = first ++ rest ∧ p.Yields first a ∧ (k a).Yields rest b := by
  induction p generalizing steps with
  | done a =>
    simp only [done_bind, yields_done_iff]
    constructor
    · exact fun h => ⟨[], a, steps, rfl, ⟨rfl, rfl⟩, h⟩
    · rintro ⟨first, _, rest, rfl, ⟨rfl, rfl⟩, h⟩
      exact h
  | call c next ih =>
    simp only [call_bind, yields_call_iff, ih]
    constructor
    · rintro ⟨answer, _, rfl, first, a, rest, rfl, hfirst, hrest⟩
      exact ⟨⟨c, answer⟩ :: first, a, rest, rfl, ⟨answer, first, rfl, hfirst⟩, hrest⟩
    · rintro ⟨_, a, rest, rfl, ⟨answer, first, rfl, hfirst⟩, hrest⟩
      exact ⟨answer, first ++ rest, rfl, first, a, rest, rfl, hfirst, hrest⟩

theorem run_bind_of_eq {p : Program α} {k : α → Program β} {h : Host σ} {s s' : σ} {a : α}
    (hp : p.run h s = (a, s')) : (p.bind k).run h s = (k a).run h s' := by
  rw [run_bind, hp]

theorem trace_bind_of_eq {p : Program α} {k : α → Program β} {h : Host σ} {s s' : σ} {a : α}
    (hp : p.run h s = (a, s')) :
    (p.bind k).trace h s = p.trace h s ++ (k a).trace h s' := by
  rw [trace_bind, hp]

/-- Every step of a run carries the answer that the host gave in some state. -/
theorem exists_answer_of_mem_trace {p : Program α} {h : Host σ} {s : σ} {step : Step}
    (hstep : step ∈ p.trace h s) : ∃ s', (h.answer step.call s').1 = step.answer := by
  induction p generalizing s with
  | done a => simp [trace] at hstep
  | call c next ih =>
    rcases List.mem_cons.mp hstep with rfl | hstep
    · exact ⟨s, rfl⟩
    · exact ih _ hstep

theorem yields_ask_iff {c : Call} {steps : List Step} {answer : c.Answer} :
    c.ask.run.Yields steps answer ↔ steps = [⟨c, answer⟩] := by
  change (Program.call c .done).Yields steps answer ↔ _
  simp only [yields_call_iff, yields_done_iff]
  constructor
  · rintro ⟨_, _, rfl, rfl, rfl⟩
    rfl
  · rintro rfl
    exact ⟨answer, [], rfl, rfl, rfl⟩

section Failing
variable {x : ExceptT ε Program α} {steps : List Step}

theorem yields_pure_iff {a : α} {r : Except ε α} :
    (pure a : ExceptT ε Program α).run.Yields steps r ↔ steps = [] ∧ r = .ok a :=
  yields_done_iff

theorem yields_throw_iff {e : ε} {r : Except ε α} :
    (throw e : ExceptT ε Program α).run.Yields steps r ↔ steps = [] ∧ r = .error e :=
  yields_done_iff

/-- Either the first part fails and nothing follows, or it succeeds and the second part follows. -/
theorem yields_seq_iff {f : α → ExceptT ε Program β} {r : Except ε β} :
    (x >>= f).run.Yields steps r ↔
      (∃ e, r = .error e ∧ x.run.Yields steps (.error e)) ∨
        ∃ first a rest, steps = first ++ rest ∧ x.run.Yields first (.ok a) ∧
          (f a).run.Yields rest r := by
  change (Program.bind x.run _).Yields steps r ↔ _
  rw [yields_bind_iff]
  constructor
  · rintro ⟨first, e | a, rest, rfl, hx, hf⟩
    · obtain ⟨rfl, rfl⟩ := yields_done_iff.mp hf
      exact .inl ⟨e, rfl, by simpa using hx⟩
    · exact .inr ⟨first, a, rest, rfl, hx, hf⟩
  · rintro (⟨e, rfl, hx⟩ | ⟨first, a, rest, rfl, hx, hf⟩)
    · exact ⟨steps, .error e, [], by simp, hx, .done _⟩
    · exact ⟨first, .ok a, rest, rfl, hx, hf⟩

theorem yields_catch_iff {handle : ε → ExceptT ε Program α} {r : Except ε α} :
    (tryCatch x handle).run.Yields steps r ↔
      (∃ a, r = .ok a ∧ x.run.Yields steps (.ok a)) ∨
        ∃ first e rest, steps = first ++ rest ∧ x.run.Yields first (.error e) ∧
          (handle e).run.Yields rest r := by
  change (Program.bind x.run _).Yields steps r ↔ _
  rw [yields_bind_iff]
  constructor
  · rintro ⟨first, e | a, rest, rfl, hx, hf⟩
    · exact .inr ⟨first, e, rest, rfl, hx, hf⟩
    · obtain ⟨rfl, rfl⟩ := yields_done_iff.mp hf
      exact .inl ⟨a, rfl, by simpa using hx⟩
  · rintro (⟨a, rfl, hx⟩ | ⟨first, e, rest, rfl, hx, hf⟩)
    · exact ⟨steps, .ok a, [], by simp, hx, .done _⟩
    · exact ⟨first, .error e, rest, rfl, hx, hf⟩

theorem yields_adapt_iff {f : ε → ε'} {r : Except ε' α} :
    (ExceptT.adapt f x).run.Yields steps r ↔ ∃ r', r = r'.mapError f ∧ x.run.Yields steps r' := by
  change (Program.bind x.run _).Yields steps r ↔ _
  rw [yields_bind_iff]
  constructor
  · rintro ⟨first, r', rest, rfl, hx, hf⟩
    obtain ⟨rfl, rfl⟩ := yields_done_iff.mp hf
    exact ⟨r', rfl, by simpa using hx⟩
  · rintro ⟨r', rfl, hx⟩
    exact ⟨steps, r', [], by simp, hx, .done _⟩

theorem yields_lift_iff {p : Program α} {r : Except ε α} :
    (liftM p : ExceptT ε Program α).run.Yields steps r ↔ ∃ a, r = .ok a ∧ p.Yields steps a := by
  change (Program.bind p _).Yields steps r ↔ _
  rw [yields_bind_iff]
  constructor
  · rintro ⟨first, a, rest, rfl, hp, hf⟩
    obtain ⟨rfl, rfl⟩ := yields_done_iff.mp hf
    exact ⟨a, rfl, by simpa using hp⟩
  · rintro ⟨a, rfl, hp⟩
    exact ⟨steps, a, [], by simp, hp, .done _⟩

end Failing
end Program

/-- A host on which every call succeeds. -/
def Host.willing (content : Bytes) (events : List Capture.Event) : Host Unit where
  answer
    | .stat _, s => (.ok .regular, s)
    | .readFile _, s => (.ok content, s)
    | .launch _ _, s => (.ok events, s)
    | .create _, s => (.ok ⟨0⟩, s)
    | .print bytes, s => (.ok bytes.length, s)
    | .probe _, s | .makeDirectory _, s | .unlink _, s | .write _ _, s | .flush _, s
    | .flushConsole, s | .complain _, s => (.ok (), s)

end DefectGate
