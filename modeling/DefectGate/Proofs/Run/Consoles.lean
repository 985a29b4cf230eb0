import DefectGate.Proofs.Console.Cutoff
import DefectGate.Proofs.Run.Course

/-! # Runs and their consoles

The console is written to and never listened to. A log is stored, and a run ends, in the same way
whatever console there is, and a console that gives up has shown the beginning of the log and
nothing else.
-/
namespace DefectGate
open Host (Path)
open Program

namespace Log

theorem replace_unheeding (path : Path) (lines : List String) :
    (replace path lines).run.Unheeding := by
  apply unheeding_of_silent
  intro steps r h step hstep
  exact ((replace_replaces h).files step hstep).isShown_eq

theorem echo_unheeding (lines : List String) : (Console.echo lines).Unheeding := by
  apply unheeding_of_showing
  intro steps u h step hstep
  obtain ⟨bytes, hcall⟩ := (Console.echo_shows h).printing step hstep
  rw [hcall]
  rfl

theorem store_unheeding (t : Transcript) (path : Path) : (store t path).run.Unheeding := by
  apply Unheeding.seq
  · exact Unheeding.adapt (replace_unheeding path t.lines) _
  intro _
  apply Unheeding.seq
  · exact Unheeding.lift (echo_unheeding t.lines)
  intro _
  exact unheeding_done _

end Log

namespace Analysis

theorem check_unheeding (a : Analysis) : a.check.run.Unheeding := by
  apply unheeding_of_silent
  intro steps r h step hstep
  rcases check_yields h with ⟨f, -, hrefuses⟩ | ⟨-, rfl⟩
  · exact (hrefuses.looks step hstep).2.2
  · simp only [List.mem_cons, List.not_mem_nil, or_false] at hstep
    rcases hstep with rfl | rfl <;> rfl

theorem identifyTarget_unheeding (a : Analysis) : a.identifyTarget.run.Unheeding := by
  apply unheeding_of_silent
  intro steps r h step hstep
  obtain ⟨content, rfl, -⟩ := identifyTarget_yields h
  rw [List.mem_singleton.mp hstep]
  rfl

theorem capture_unheeding (a : Analysis) : a.capture.run.Unheeding := by
  apply unheeding_of_silent
  intro steps r h step hstep
  obtain ⟨answer, rfl, -⟩ := capture_yields h
  rw [List.mem_singleton.mp hstep]
  rfl

theorem run_unheeding (a : Analysis) (c : Catalogue) : (a.run c).run.Unheeding := by
  apply Unheeding.seq
  · exact a.check_unheeding
  intro _
  apply Unheeding.seq
  · exact a.identifyTarget_unheeding
  intro target
  apply Unheeding.seq
  · exact a.capture_unheeding
  intro t
  apply Unheeding.seq
  · exact Log.store_unheeding t a.logPath
  intro log
  apply Unheeding.seq
  · exact unheeding_done _
  intro count
  exact unheeding_done _

end Analysis

namespace Log

/-- A log that was stored is what the console was asked to show, as far as it had room; without a
log the console is not asked for anything. -/
theorem shown_on_limited {σ κ : Type} {h : Host σ} {d : Console.Limited κ} {s : σ} {k : κ}
    {t : Transcript} {path : Path} {steps : List Step} {r : Except Failure LogFile}
    {state : σ × κ} (hyields : (store t path).run.Yields steps r)
    (hsteps : (h.withConsole d.toDevice).Answers (s, k) steps state) :
    ((∀ log, r = .ok log → stored path steps = some t.logBytes ∧
        Console.shown steps = t.logBytes.take (d.room k)) ∧
      (∀ f, r = .error f → ∀ step ∈ steps, step.call.isShown = false)) ∧
      Console.StopsAtRefusal steps := by
  rcases store_yields hyields with ⟨e, rfl, hreplaces⟩ | ⟨first, rest, rfl, rfl, hreplaces, hecho⟩
  · have hsilent : ∀ step ∈ steps, step.call.isShown = false :=
      fun step hstep => (hreplaces.files step hstep).isShown_eq
    exact ⟨⟨nofun, fun _ _ => hsilent⟩, Console.stopsAtRefusal_of_silent hsilent⟩
  · have hsilent : ∀ step ∈ first, step.call.isShown = false :=
      fun step hstep => (hreplaces.files step hstep).isShown_eq
    have hshows : Console.Shows t.logBytes rest := Console.echo_shows hecho
    have hstored : stored path (first ++ rest) = some t.logBytes :=
      (Keeps.kept hreplaces hshows).stored_of_ok.1
    -- The console is still as it was when the showing begins.
    obtain ⟨⟨s', k'⟩, hfirst, hrest⟩ := Host.answers_append_iff.mp hsteps
    obtain rfl : k' = k := Host.console_of_silent hfirst hsilent
    refine ⟨⟨fun _ _ => ⟨hstored, ?_⟩, nofun⟩, ?_⟩
    · rw [Console.shown_append, Console.shown_eq_nil hsilent, List.nil_append]
      exact d.shown_eq_take hshows hrest
    · exact Console.stopsAtRefusal_append (Console.accepted_of_silent hsilent)
        (Console.echo_stops hecho)

/-- A console that accepts a number of bytes changes neither the result of storing a log nor what is
left on disk; it shows the beginning of the log that fits, is not asked again once it has refused,
and is not asked at all if the log could not be stored. A whole run does not heed it either. -/
theorem store_on_limited {σ κ κ' : Type} (h : Host σ) (s : σ) (d : Console.Limited κ) (k : κ)
    (d' : Console.Device κ') (k' : κ') (t : Transcript) (path : Path) (a : Analysis)
    (c : Catalogue) :
    let host := h.withConsole d.toDevice
    let other := h.withConsole d'
    let result := ((store t path).run.run host (s, k)).1
    let steps := (store t path).run.trace host (s, k)
    (result = ((store t path).run.run other (s, k')).1 ∧
        ((store t path).run.run host (s, k)).2.1 = ((store t path).run.run other (s, k')).2.1) ∧
      (∀ log, result = .ok log → stored path steps = some t.logBytes ∧
        Console.shown steps = t.logBytes.take (d.room k)) ∧
      (∀ f, result = .error f → ∀ step ∈ steps, step.call.isShown = false) ∧
      Console.StopsAtRefusal steps ∧
      ((a.run c).run.run host (s, k)).1 = ((a.run c).run.run other (s, k')).1 ∧
        ((a.run c).run.run host (s, k)).2.1 = ((a.run c).run.run other (s, k')).2.1 := by
  intro host other result steps
  have hyields : (store t path).run.Yields steps result := yields_run _ host (s, k)
  have hsteps := host.answers_trace (store t path).run (s, k)
  obtain ⟨⟨hok, herror⟩, hstops⟩ := shown_on_limited hyields hsteps
  exact ⟨store_unheeding t path h d.toDevice d' s k k', hok, herror, hstops,
    a.run_unheeding c h d.toDevice d' s k k'⟩

/-- A console with room for four bytes shows the first line and one byte of the second. -/
example :
    Console.shown ((store ⟨["ab", "cd"]⟩ (.ofString "log")).run.trace
      ((Host.willing [] []).withConsole Console.greedy.toDevice) ((), 4)) = [97, 98, 10, 99] := by
  decide

end Log
end DefectGate
