import DefectGate.Console
import DefectGate.Proofs.Program.Yields

/-! # What a console has shown

A console shows the bytes it accepted, in order. Whatever is put on it, the console has shown a
beginning of that, and all of it if it never refuses.
-/
namespace DefectGate
open Program

/-- Whether a call goes to the console. -/
def Call.isShown : Call → Bool
  | .print _ | .flushConsole => true
  | _ => false

namespace Step

/-- The bytes that the console accepted in a step. -/
def shown : Step → Bytes
  | ⟨.print bytes, .ok accepted⟩ => bytes.take accepted
  | _ => []

/-- The console, if it was asked, did not refuse. -/
def Accepted : Step → Prop
  | ⟨.print bytes, answer⟩ => bytes ≠ [] → ∃ accepted : Nat, answer = .ok accepted ∧ 0 < accepted
  | ⟨.flushConsole, answer⟩ => answer = .ok ()
  | _ => True

end Step

/-- The console of a host takes at least one byte of whatever it is offered, and can be flushed. -/
structure Host.AcceptsOutput {σ : Type} (h : Host σ) : Prop where
  print (bytes : Bytes) (s : σ) (hne : bytes ≠ []) :
    ∃ accepted : Nat, (h.answer (.print bytes) s).1 = .ok accepted ∧ 0 < accepted
  flush (s : σ) : (h.answer .flushConsole s).1 = .ok ()

theorem Host.willing_acceptsOutput (content : Bytes) (events : List Capture.Event) :
    (Host.willing content events).AcceptsOutput where
  print bytes _ hne := ⟨bytes.length, rfl, List.length_pos_of_ne_nil hne⟩
  flush _ := rfl

theorem Host.AcceptsOutput.accepted {σ : Type} {h : Host σ} (ha : h.AcceptsOutput)
    {p : Program α} {s : σ} {step : Step} (hstep : step ∈ p.trace h s) : step.Accepted := by
  obtain ⟨c, answer⟩ := step
  obtain ⟨s', rfl : (h.answer c s').1 = answer⟩ := exists_answer_of_mem_trace hstep
  cases c with
  | print bytes => exact ha.print bytes s'
  | flushConsole => exact ha.flush s'
  | _ => trivial

namespace Console

/-- Everything that a console has shown in a run. -/
def shown (steps : List Step) : Bytes := steps.flatMap Step.shown

@[simp] theorem shown_nil : shown [] = [] := rfl

@[simp] theorem shown_cons (step : Step) (steps : List Step) :
    shown (step :: steps) = step.shown ++ shown steps := List.flatMap_cons

@[simp] theorem shown_append (first rest : List Step) :
    shown (first ++ rest) = shown first ++ shown rest := List.flatMap_append

theorem shown_eq_nil {steps : List Step} (h : ∀ step ∈ steps, step.call.isShown = false) :
    shown steps = [] := by
  refine List.flatMap_eq_nil_iff.mpr fun step hstep => ?_
  obtain ⟨c, answer⟩ := step
  cases c <;> first | rfl | exact absurd (h _ hstep) (by simp [Call.isShown])

/-- The steps of a run that shows bytes: there are no others, and what has been shown is a
beginning of the bytes, which is all of them unless the console refused. -/
structure Shows (bs : Bytes) (steps : List Step) : Prop where
  printing : ∀ step ∈ steps, ∃ bytes, step.call = .print bytes
  beginning : shown steps <+: bs
  whole : (∀ step ∈ steps, step.Accepted) → shown steps = bs

/-- Bytes that were shown one after the other, up to where the console refused. -/
theorem Shows.append {bs bs' : Bytes} {first rest : List Step} (hfirst : Shows bs first)
    (hrest : Shows bs' rest) (hall : shown first = bs) : Shows (bs ++ bs') (first ++ rest) where
  printing step hstep :=
    (List.mem_append.mp hstep).elim (hfirst.printing step) (hrest.printing step)
  beginning := by
    rw [shown_append, hall]
    exact (List.prefix_append_right_inj bs).mpr hrest.beginning
  whole h := by
    rw [shown_append, hall, hrest.whole fun step hstep => h step (List.mem_append_right _ hstep)]

theorem Shows.of_refused {bs : Bytes} {steps : List Step} (h : Shows bs steps) (bs' : Bytes)
    (hrefused : ¬ ∀ step ∈ steps, step.Accepted) : Shows (bs ++ bs') steps where
  printing := h.printing
  beginning := h.beginning.trans (List.prefix_append _ _)
  whole hall := absurd hall hrefused

/-- A run that puts bytes on the console ends well exactly if all of them were shown, and it does
end well if the console never refuses. -/
structure Puts (bs : Bytes) (steps : List Step) (r : Except Host.Error Unit) : Prop
    extends Shows bs steps where
  all : r = .ok () → shown steps = bs
  ends : (∀ step ∈ steps, step.Accepted) → r = .ok ()

theorem puts_nil : Puts [] [] (.ok ()) where
  printing := by simp
  beginning := List.nil_prefix
  whole _ := rfl
  all _ := rfl
  ends _ := rfl

theorem puts_accepted (bs : Bytes) (accepted : Nat) :
    Puts (bs.take accepted) [⟨.print bs, .ok accepted⟩] (.ok ()) := by
  have hshown : shown [⟨.print bs, .ok accepted⟩] = bs.take accepted := List.append_nil _
  exact
    { printing := by simp
      beginning := hshown ▸ List.prefix_rfl
      whole := fun _ => hshown
      all := fun _ => hshown
      ends := fun _ => rfl }

/-- A console that refuses an offer shows nothing of it. -/
theorem puts_refused {step : Step} (bs : Bytes) (e : Host.Error)
    (hprint : ∃ bytes, step.call = .print bytes) (hshown : step.shown = [])
    (hrefused : ¬ step.Accepted) : Puts bs [step] (.error e) where
  printing := by simpa using hprint
  beginning := by simp [hshown]
  whole h := absurd (h step (List.mem_singleton_self _)) hrefused
  all h := nomatch h
  ends h := absurd (h step (List.mem_singleton_self _)) hrefused

theorem Puts.append {bs bs' : Bytes} {first rest : List Step} {r : Except Host.Error Unit}
    (hfirst : Puts bs first (.ok ())) (hrest : Puts bs' rest r) :
    Puts (bs ++ bs') (first ++ rest) r where
  toShows := hfirst.toShows.append hrest.toShows (hfirst.all rfl)
  all h := by rw [shown_append, hfirst.all rfl, hrest.all h]
  ends h := hrest.ends fun step hstep => h step (List.mem_append_right _ hstep)

theorem Puts.of_error {bs : Bytes} {steps : List Step} {e : Host.Error}
    (h : Puts bs steps (.error e)) (bs' : Bytes) : Puts (bs ++ bs') steps (.error e) where
  toShows := h.toShows.of_refused bs' fun hall => nomatch h.ends hall
  all h := nomatch h
  ends hall := nomatch h.ends hall

theorem offer_puts {offers : Nat} {bs : Bytes} {steps : List Step} {r : Except Host.Error Unit}
    (hle : bs.length ≤ offers) (h : (offer offers bs).run.Yields steps r) : Puts bs steps r := by
  induction offers generalizing bs steps with
  | zero =>
    obtain rfl := List.length_eq_zero_iff.mp (Nat.le_zero.mp hle)
    obtain ⟨rfl, rfl⟩ := yields_pure_iff.mp h
    exact puts_nil
  | succ offers ih =>
    cases bs with
    | nil =>
      obtain ⟨rfl, rfl⟩ := yields_pure_iff.mp h
      exact puts_nil
    | cons b bs =>
      rcases yields_seq_iff.mp h with ⟨e, rfl, hask⟩ | ⟨first, accepted, rest, rfl, hask, hrest⟩
      · rw [yields_ask_iff.mp hask]
        refine puts_refused _ e ⟨_, rfl⟩ rfl fun hall => ?_
        obtain ⟨_, ⟨⟩, -⟩ := hall (List.cons_ne_nil _ _)
      · obtain rfl := yields_ask_iff.mp hask
        change Nat at accepted
        by_cases hzero : accepted = 0
        · subst hzero
          obtain ⟨rfl, rfl⟩ := yields_throw_iff.mp hrest
          refine puts_refused _ _ ⟨_, rfl⟩ rfl fun hall => ?_
          obtain ⟨_, ⟨⟩, hpos⟩ := hall (List.cons_ne_nil _ _)
          exact Nat.lt_irrefl 0 hpos
        · -- what was accepted is at least one byte, so one offer less is enough for the rest
          simp only [if_neg hzero] at hrest
          have hlen : ((b :: bs).drop accepted).length ≤ offers := by
            simp only [List.length_drop, List.length_cons] at hle ⊢
            omega
          have hputs := (puts_accepted (b :: bs) accepted).append (ih hlen hrest)
          rwa [List.take_append_drop] at hputs

theorem put_puts {bs : Bytes} {steps : List Step} {r : Except Host.Error Unit}
    (h : (put bs).run.Yields steps r) : Puts bs steps r := offer_puts le_rfl h

theorem putLine_puts {line : String} {steps : List Step} {r : Except Host.Error Unit}
    (h : (putLine line).run.Yields steps r) : Puts (Transcript.lineBytes line) steps r := by
  rcases yields_seq_iff.mp h with ⟨e, rfl, hput⟩ | ⟨first, _, rest, rfl, hput, hrest⟩
  · exact (put_puts hput).of_error _
  · exact (put_puts hput).append (put_puts hrest)

/-- The lines of a transcript are shown in order, each with its newline. -/
theorem echo_shows {lines : List String} {steps : List Step}
    (h : (echo lines).Yields steps ()) : Shows (lines.flatMap Transcript.lineBytes) steps := by
  induction lines generalizing steps with
  | nil =>
    obtain ⟨rfl, -⟩ := yields_done_iff.mp h
    exact puts_nil.toShows
  | cons line lines ih =>
    obtain ⟨first, r, rest, rfl, hline, hrest⟩ := yields_bind_iff.mp h
    rw [List.flatMap_cons]
    cases r with
    | error e =>
      obtain ⟨rfl, -⟩ := yields_done_iff.mp hrest
      rw [List.append_nil]
      exact ((putLine_puts hline).of_error _).toShows
    | ok u => exact (putLine_puts hline).toShows.append (ih hrest) ((putLine_puts hline).all rfl)

end Console
end DefectGate
