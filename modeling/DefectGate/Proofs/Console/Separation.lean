import DefectGate.Proofs.Console.Shown
import DefectGate.Proofs.Program.Answers

/-! # Programs that do not heed the console

The console of a system can be exchanged for any other. Most programs notice: what they do next
depends on what the console accepted. A program does not heed the console if it ends in the same way
and leaves the rest of the system in the same state on every one. A program that never calls the
console is of this kind, and so is one that calls nothing else and has nothing to say at its end.
-/
namespace DefectGate
open Program

/-- A console by itself: how it takes offered bytes, and how it is flushed. -/
structure Console.Device (κ : Type) where
  offer : Bytes → κ → Except Host.Error Nat × κ
  flush : κ → Except Host.Error Unit × κ

/-- A system with another console in place of its own. -/
def Host.withConsole {σ κ : Type} (h : Host σ) (d : Console.Device κ) : Host (σ × κ) where
  answer c state :=
    match c with
    | .print bytes => ((d.offer bytes state.2).1, state.1, (d.offer bytes state.2).2)
    | .flushConsole => ((d.flush state.2).1, state.1, (d.flush state.2).2)
    | c => ((h.answer c state.1).1, (h.answer c state.1).2, state.2)

namespace Host
variable {σ κ : Type} (h : Host σ) (d : Console.Device κ) (state : σ × κ)

theorem withConsole_of_not_shown {c : Call} (hc : c.isShown = false) :
    (h.withConsole d).answer c state =
      ((h.answer c state.1).1, (h.answer c state.1).2, state.2) := by
  cases c <;> first | rfl | cases hc

theorem withConsole_of_shown {c : Call} (hc : c.isShown = true) :
    ((h.withConsole d).answer c state).2.1 = state.1 := by
  cases c <;> first | rfl | cases hc

/-- Calls that do not go to the console leave it as it is. -/
theorem console_of_silent {h : Host σ} {d : Console.Device κ} {s s' : σ} {k k' : κ}
    {steps : List Step} (hsteps : (h.withConsole d).Answers (s, k) steps (s', k'))
    (hsilent : ∀ step ∈ steps, step.call.isShown = false) : k' = k := by
  induction steps generalizing s k with
  | nil => exact congrArg Prod.snd (answers_nil_iff.mp hsteps)
  | cons step steps ih =>
    obtain ⟨c, answer⟩ := step
    obtain ⟨hc, hsilent⟩ := List.forall_mem_cons.mp hsilent
    obtain ⟨⟨s₁, k₁⟩, hanswer, hrest⟩ := answers_cons_iff.mp hsteps
    rw [h.withConsole_of_not_shown d (s, k) hc] at hanswer
    obtain rfl : k = k₁ := congrArg (·.2.2) hanswer
    exact ih hrest hsilent

end Host

namespace Program
variable {α β ε ε' σ κ κ' : Type}

/-- A program that ends in the same way on every console and leaves the same behind. -/
def Unheeding (p : Program α) : Prop :=
  ∀ {σ κ κ' : Type} (h : Host σ) (d : Console.Device κ) (d' : Console.Device κ') (s : σ) (k : κ)
    (k' : κ'),
    (p.run (h.withConsole d) (s, k)).1 = (p.run (h.withConsole d') (s, k')).1 ∧
      (p.run (h.withConsole d) (s, k)).2.1 = (p.run (h.withConsole d') (s, k')).2.1

theorem unheeding_done (a : α) : (Program.done a).Unheeding := fun _ _ _ _ _ _ => ⟨rfl, rfl⟩

theorem exists_yields (p : Program α) : ∃ steps a, p.Yields steps a :=
  ⟨_, _, yields_run p (.willing [] []) ()⟩

theorem run_call (h : Host σ) (c : Call) (next : c.Answer → Program α) (s : σ) :
    (Program.call c next).run h s = (next (h.answer c s).1).run h (h.answer c s).2 := rfl

/-- A program that never calls the console runs as it does without one. -/
theorem run_withConsole_of_silent {p : Program α}
    (hp : ∀ steps a, p.Yields steps a → ∀ step ∈ steps, step.call.isShown = false) (h : Host σ)
    (d : Console.Device κ) (s : σ) (k : κ) :
    p.run (h.withConsole d) (s, k) = ((p.run h s).1, (p.run h s).2, k) := by
  induction p generalizing s with
  | done a => rfl
  | call c next ih =>
    have hc : c.isShown = false := by
      obtain ⟨steps, a, hyields⟩ := exists_yields (next (h.answer c s).1)
      exact hp _ a (.call hyields) _ (List.mem_cons_self ..)
    rw [run_call, run_call, Host.withConsole_of_not_shown h d _ hc]
    apply ih
    intro steps a hyields step hstep
    exact hp _ a (.call hyields) step (List.mem_cons_of_mem _ hstep)

/-- A program that calls nothing but the console leaves everything else as it is. -/
theorem run_withConsole_of_showing {p : Program α}
    (hp : ∀ steps a, p.Yields steps a → ∀ step ∈ steps, step.call.isShown = true) (h : Host σ)
    (d : Console.Device κ) (s : σ) (k : κ) : (p.run (h.withConsole d) (s, k)).2.1 = s := by
  induction p generalizing k with
  | done a => rfl
  | call c next ih =>
    have hc : c.isShown = true := by
      obtain ⟨steps, a, hyields⟩ := exists_yields (next ((h.withConsole d).answer c (s, k)).1)
      exact hp _ a (.call hyields) _ (List.mem_cons_self ..)
    have hkept : ((h.withConsole d).answer c (s, k)).2 =
        (s, ((h.withConsole d).answer c (s, k)).2.2) :=
      Prod.ext (h.withConsole_of_shown d (s, k) hc) rfl
    rw [run_call, hkept]
    apply ih
    intro steps a hyields step hstep
    exact hp _ a (.call hyields) step (List.mem_cons_of_mem _ hstep)

theorem unheeding_of_silent {p : Program α}
    (hp : ∀ steps a, p.Yields steps a → ∀ step ∈ steps, step.call.isShown = false) :
    p.Unheeding := by
  intro σ κ κ' h d d' s k k'
  rw [run_withConsole_of_silent hp, run_withConsole_of_silent hp]
  exact ⟨rfl, rfl⟩

theorem unheeding_of_showing {p : Program Unit}
    (hp : ∀ steps a, p.Yields steps a → ∀ step ∈ steps, step.call.isShown = true) :
    p.Unheeding := by
  intro σ κ κ' h d d' s k k'
  refine ⟨rfl, ?_⟩
  rw [run_withConsole_of_showing hp h d, run_withConsole_of_showing hp h d']

theorem Unheeding.bind {p : Program α} {next : α → Program β} (hp : p.Unheeding)
    (hnext : ∀ a, (next a).Unheeding) : (p.bind next).Unheeding := by
  intro σ κ κ' h d d' s k k'
  obtain ⟨hvalue, hstate⟩ := hp h d d' s k k'
  generalize hleft : p.run (h.withConsole d) (s, k) = left at hvalue hstate
  generalize hright : p.run (h.withConsole d') (s, k') = right at hvalue hstate
  obtain ⟨a, s₁, k₁⟩ := left
  obtain ⟨b, s₂, k₂⟩ := right
  obtain rfl : a = b := hvalue
  obtain rfl : s₁ = s₂ := hstate
  rw [run_bind_of_eq hleft, run_bind_of_eq hright]
  exact hnext a h d d' s₁ k₁ k₂

theorem Unheeding.seq {x : ExceptT ε Program α} {f : α → ExceptT ε Program β}
    (hx : x.run.Unheeding) (hf : ∀ a, (f a).run.Unheeding) : (x >>= f).run.Unheeding := by
  change (Program.bind x.run _).Unheeding
  apply hx.bind
  rintro (e | a)
  · exact unheeding_done _
  · exact hf a

theorem Unheeding.adapt {x : ExceptT ε Program α} (hx : x.run.Unheeding) (f : ε → ε') :
    (ExceptT.adapt f x).run.Unheeding :=
  hx.bind fun _ => unheeding_done _

theorem Unheeding.lift {p : Program α} (hp : p.Unheeding) :
    (liftM p : ExceptT ε Program α).run.Unheeding :=
  hp.bind fun _ => unheeding_done _

end Program
end DefectGate
