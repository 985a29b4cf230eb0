import DefectGate.Proofs.Capture.History
import DefectGate.Proofs.Run.Course

/-! # Whole captures

A capture gives a transcript only of a whole stream: the analyzer has been waited for, nobody holds
the pipe any more and the reader has taken everything that was written. A limit can turn a
transcript into a failure, and only once it has been reached, but it can not shorten one. Between
two checks of one look anything may happen; that is a run in which it happens right before or right
after the look.
-/
namespace DefectGate
open Program

namespace Capture
variable {limit : Option Duration} {events : List Event} {r : Result}

/-- Whether an event is a deed of the analyzer or of a descendant. -/
def Event.ofProcesses : Event → Bool
  | .wrote _ | .exited | .closed => true
  | _ => false

/-- What the processes did, whenever the reader, the clock and the waiting side had their turns. -/
def behaviour (events : List Event) : List Event := events.filter Event.ofProcesses

theorem written_behaviour (events : List Event) : written (behaviour events) = written events := by
  induction events with
  | nil => rfl
  | cons e events ih =>
    unfold behaviour at ih ⊢
    cases e <;> simp [List.filter_cons, Event.ofProcesses, written, ih]

theorem phase_append_of_done (h : (run limit events).phase = .done r) (more : List Event) :
    (run limit (events ++ more)).phase = .done r := by
  induction more using List.reverseRecOn with
  | nil => simpa using h
  | append_singleton more e ih =>
    rw [← List.append_assoc]
    exact (run_turn limit (events ++ more) e).done ih

theorem result_of_done (h : (run limit events).phase = .done r) : result limit events = r := by
  rw [result, h]

/-- A result that is no failure has been returned. -/
theorem done_of_result (h : result limit events = r) (hr : ∀ cause, r ≠ .failed cause) :
    (run limit events).phase = .done r := by
  rw [result] at h
  cases hphase : (run limit events).phase with
  | done r' =>
    rw [hphase] at h
    rw [show r' = r from h]
  | _ =>
    rw [hphase] at h
    exact absurd h.symm (hr lostReader)

/-- After these events the waiting side looks and returns, and not before; what comes later has no
say in the result. -/
structure Returns (limit : Option Duration) (before : List Event) (r : Result) : Prop where
  waits : (run limit before).Waits
  returns (after : List Event) : result limit (before ++ .polled :: after) = r

theorem returns_of_done {before : List Event} (hwaits : (run limit before).Waits)
    (hdone : (run limit (before ++ [.polled])).phase = .done r) : Returns limit before r where
  waits := hwaits
  returns after := by
    rw [List.append_cons]
    exact result_of_done (phase_append_of_done hdone after)

/-- The capture is complete when the waiting side looks: the analyzer has ended and is reaped, the
pipe has been closed by its last holder and is empty. -/
structure Whole (limit : Option Duration) (before : List Event) (bytes : Bytes) : Prop
    extends Returns limit before (.complete bytes) where
  exited : .exited ∈ before
  reaped : (run limit (before ++ [.polled])).reaped = true
  closed : .closed ∈ before
  drained : (run limit before).pipe = []

/-- The limit has been reached when the waiting side looks, and the analyzer is reaped. -/
structure Late (limit : Duration) (before : List Event) : Prop
    extends Returns (some limit) before .timedOut where
  reached : limit.nanoseconds ≤ elapsed before
  reaped : (run (some limit) (before ++ [.polled])).reaped = true

theorem exists_whole {bytes : Bytes} (h : result limit events = .complete bytes) :
    bytes = written events ∧
      ∃ before after, events = before ++ .polled :: after ∧ Whole limit before bytes := by
  obtain ⟨before, e, after, rfl, hwaits, hdone⟩ :=
    exists_return limit (done_of_result h (by simp))
  have hsound := sound_run limit before
  obtain ⟨rfl, hexited, hreader, rfl, hreaped⟩ :=
    (run_turn limit before e).complete hsound hwaits hdone
  obtain ⟨hclosed, hpipe⟩ := hsound.drained hreader
  have hclosed : .closed ∈ before := (closed_run_iff limit before).mp hclosed
  refine ⟨?_, before, after, rfl, returns_of_done hwaits hdone,
    (exited_run_iff limit hwaits).mp hexited, hreaped, hclosed, hpipe⟩
  have hstream := stream_run limit before
  rwa [hpipe, List.append_nil, ← written_append_of_closed hclosed (.polled :: after)] at hstream

theorem exists_late (h : result limit events = .timedOut) :
    ∃ d before after, limit = some d ∧ events = before ++ .polled :: after ∧ Late d before := by
  obtain ⟨before, e, after, rfl, hwaits, hdone⟩ :=
    exists_return limit (done_of_result h (by simp))
  obtain ⟨rfl, hlate, hreaped⟩ :=
    (run_turn limit before e).timedOut (sound_run limit before) hwaits hdone
  cases limit with
  | none => simp [State.late] at hlate
  | some d =>
    have hreached : d.nanoseconds ≤ (run (some d) before).now := by simpa [State.late] using hlate
    rw [now_run] at hreached
    exact ⟨d, before, after, rfl, rfl, returns_of_done hwaits hdone, hreached, hreaped⟩

end Capture

namespace Analysis
open Capture
variable {a : Analysis}

theorem outcomeOf_ok {answer : Except Host.Error (List Event)} {t : Transcript}
    (h : a.outcomeOf answer = .ok t) :
    ∃ events bytes, answer = .ok events ∧ result a.limit events = .complete bytes ∧
      t = .ofBytes bytes := by
  cases answer with
  | error e => cases h
  | ok events =>
    rw [outcomeOf] at h
    cases hresult : result a.limit events with
    | complete bytes =>
      rw [hresult] at h
      exact ⟨events, bytes, rfl, hresult, (Except.ok.inj h).symm⟩
    | timedOut | failed e =>
      rw [hresult] at h
      cases h

theorem outcomeOf_timedOut {answer : Except Host.Error (List Event)} {analyzer : String}
    {d : Duration} (h : a.outcomeOf answer = .error (.timedOut analyzer d)) :
    analyzer = a.analyzer ∧ d = a.limit.getD ⟨0⟩ ∧
      ∃ events, answer = .ok events ∧ result a.limit events = .timedOut := by
  cases answer with
  | error e => cases h
  | ok events =>
    rw [outcomeOf] at h
    cases hresult : result a.limit events with
    | timedOut =>
      rw [hresult] at h
      cases h
      exact ⟨rfl, rfl, events, rfl, hresult⟩
    | complete bytes | failed e =>
      rw [hresult] at h
      cases h

/-- What the outcome of a capture says about what happened around the analyzer. -/
structure Faithful (a : Analysis) (answer : Except Host.Error (List Event))
    (outcome : Except Failure Transcript) : Prop where
  /-- A transcript is that of everything that was written, and comes after the end of it all. -/
  whole (t : Transcript) (h : outcome = .ok t) :
    ∃ events before after, answer = .ok events ∧ events = before ++ .polled :: after ∧
      Whole a.limit before (written events) ∧ t = .ofBytes (written events)
  /-- Only a limit that has been reached ends a capture without a transcript. -/
  late (analyzer : String) (d : Duration) (h : outcome = .error (.timedOut analyzer d)) :
    analyzer = a.analyzer ∧ a.limit = some d ∧
      ∃ events before after, answer = .ok events ∧ events = before ++ .polled :: after ∧
        Late d before
  /-- With another limit, or without one, the same deeds give the same transcript or none. -/
  alike (t : Transcript) (h : outcome = .ok t) (events : List Event) (hevents : answer = .ok events)
    (b : Analysis) (events' : List Event) (hsame : behaviour events' = behaviour events)
    (t' : Transcript) (h' : b.outcomeOf (.ok events') = .ok t') : t' = t

theorem outcomeOf_faithful (a : Analysis) (answer : Except Host.Error (List Event)) :
    Faithful a answer (a.outcomeOf answer) where
  whole t h := by
    obtain ⟨events, bytes, rfl, hresult, rfl⟩ := outcomeOf_ok h
    obtain ⟨rfl, before, after, hevents, hwhole⟩ := exists_whole hresult
    exact ⟨events, before, after, rfl, hevents, hwhole, rfl⟩
  late analyzer d h := by
    obtain ⟨rfl, hd, events, rfl, hresult⟩ := outcomeOf_timedOut h
    obtain ⟨d', before, after, hlimit, hevents, hlate⟩ := exists_late hresult
    have hdd : d = d' := by simpa [hlimit] using hd
    exact ⟨rfl, hdd ▸ hlimit, events, before, after, rfl, hevents, hdd ▸ hlate⟩
  alike t h events hevents b events' hsame t' h' := by
    obtain ⟨_, bytes, hanswer, hresult, rfl⟩ := outcomeOf_ok h
    obtain ⟨_, bytes', hanswer', hresult', rfl⟩ := outcomeOf_ok h'
    obtain rfl := Except.ok.inj (hanswer.symm.trans hevents)
    obtain rfl := Except.ok.inj hanswer'
    rw [(exists_whole hresult).1, (exists_whole hresult').1, ← written_behaviour, hsame,
      written_behaviour]

/-- Whatever happens around the analyzer, and in whatever order, its capture is faithful. -/
theorem capture_faithful {σ : Type} (h : Host σ) (s : σ) (a : Analysis) :
    ∃ answer, a.capture.run.trace h s = [⟨.launch a.commandLine a.limit, answer⟩] ∧
      Faithful a answer (a.capture.run.run h s).1 := by
  obtain ⟨answer, htrace, houtcome⟩ := capture_yields (yields_run a.capture.run h s)
  refine ⟨answer, htrace, ?_⟩
  rw [houtcome]
  exact outcomeOf_faithful a answer

/-- A descendant writes after the analyzer has ended. Only an early limit hides that, by failing. -/
example :
    let said : List Event := [.wrote [48], .exited, .read 1, .polled]
    let more : List Event := [.wrote [10], .closed, .read 1, .read 1, .polled, .polled]
    result none (said ++ more) = .complete [48, 10] ∧
      result (some ⟨5⟩) (said ++ .elapsed ⟨4⟩ :: .polled :: more) = .complete [48, 10] ∧
      result (some ⟨5⟩) (said ++ .elapsed ⟨5⟩ :: .polled :: more) = .timedOut := by
  decide

end Analysis
end DefectGate
