import DefectGate.Capture
import Mathlib.Tactic

/-! # Captures and their histories

What a capture's state says about the events that led to it, in whatever order they came. The bytes
taken and the bytes still in the pipe are what was written; the reader finishes only at the end of
the stream; the analyzer is reaped only after it has ended; and the waiting side returns at one of
its looks or when something fails, once and for all.
-/
namespace DefectGate.Capture

/-- The time that passes in an event, in nanoseconds. -/
def Event.time : Event → Nat
  | .elapsed time => time.nanoseconds
  | _ => 0

def elapsed (events : List Event) : Nat := (events.map Event.time).sum

/-- The bytes that are offered to the pipe in an event. -/
def Event.bytes : Event → Bytes
  | .wrote bytes => bytes
  | _ => []

namespace State
variable {s s' : State} {limit : Option Duration} {e : Event} {r : Result}

/-- The waiting side has not returned. -/
def Waits (s : State) : Prop := ∀ r, s.phase ≠ .done r

/-- What a look of the waiting side can do. -/
inductive Look (limit : Option Duration) (s : State) : State → Prop where
  | nothing : Look limit s s
  | noticed (hphase : s.phase = .running) (hexited : s.exited = true) :
      Look limit s { s with reaped := true, phase := .draining }
  | killed (hphase : s.phase = .running) (hlate : s.late limit = true) :
      Look limit s { s with exited := true, reaped := true, phase := .done .timedOut }
  | drained (hphase : s.phase = .draining) (hreader : s.reader = .finished) :
      Look limit s { s with phase := .reaping }
  | whole (hphase : s.phase = .draining) (hreader : s.reader = .finished)
      (hreaped : s.reaped = true) : Look limit s { s with phase := .done (.complete s.taken) }
  | broken {cause : Host.Error} (hphase : s.phase = .draining) :
      Look limit s { s with phase := .done (.failed cause) }
  | abandoned (hphase : s.phase = .draining) (hlate : s.late limit = true) :
      Look limit s { s with phase := .done .timedOut }
  | reaped (hphase : s.phase = .reaping) (hexited : s.exited = true) :
      Look limit s { s with reaped := true, phase := .done (.complete s.taken) }

theorem poll_look (s : State) (limit : Option Duration) : Look limit s (s.poll limit) := by
  unfold poll
  split
  · exact .nothing
  · next hphase =>
    split_ifs with hexited hlate
    · exact .noticed hphase hexited
    · exact .killed hphase hlate
    · exact .nothing
  · next hphase =>
    split
    · next hreader =>
      split_ifs with hreaped
      · exact .whole hphase hreader hreaped
      · exact .drained hphase hreader
    · exact .broken hphase
    · split_ifs with hlate
      · exact .abandoned hphase hlate
      · exact .nothing
  · next hphase =>
    split_ifs with hexited
    · exact .reaped hphase hexited
    · exact .nothing

/-- What an event can do. -/
inductive Turn (limit : Option Duration) (s : State) : Event → State → Prop where
  | wrote {bytes : Bytes} (hopen : s.closed = false) :
      Turn limit s (.wrote bytes) { s with pipe := s.pipe ++ bytes }
  | unheard {bytes : Bytes} (hclosed : s.closed = true) : Turn limit s (.wrote bytes) s
  | exited : Turn limit s .exited { s with exited := true }
  | closed : Turn limit s .closed { s with closed := true }
  | took {most : Nat} (hreader : s.reader = .running) :
      Turn limit s (.read most)
        { s with taken := s.taken ++ s.pipe.take most, pipe := s.pipe.drop most }
  | finished {most : Nat} (hpipe : s.pipe = []) (hclosed : s.closed = true) :
      Turn limit s (.read most) { s with reader := .finished }
  | idle {most : Nat} : Turn limit s (.read most) s
  | lost {cause : Host.Error} (hreader : s.reader = .running) :
      Turn limit s (.readFailed cause) { s with reader := .failed cause }
  | unaffected {cause : Host.Error} : Turn limit s (.readFailed cause) s
  | elapsed (time : Duration) :
      Turn limit s (.elapsed time) { s with now := s.now + time.nanoseconds }
  | looked {s' : State} (h : Look limit s s') : Turn limit s .polled s'
  | gaveUp {cause : Host.Error} (hwaits : s.Waits) :
      Turn limit s (.waitFailed cause) { s with phase := .done (.failed cause) }
  | unmoved {cause : Host.Error} : Turn limit s (.waitFailed cause) s

theorem step_turn (s : State) (limit : Option Duration) (e : Event) :
    Turn limit s e (s.step limit e) := by
  cases e with
  | wrote bytes =>
    change Turn limit s (.wrote bytes) (if s.closed then s else _)
    split_ifs with hclosed
    · exact .unheard hclosed
    · exact .wrote (by simpa using hclosed)
  | exited => exact .exited
  | closed => exact .closed
  | read most =>
    change Turn limit s (.read most) (s.read most)
    unfold read
    split_ifs with hreader hpipe hclosed
    · exact .idle
    · exact .finished hpipe hclosed
    · exact .idle
    · exact .took (not_not.mp hreader)
  | readFailed cause =>
    change Turn limit s (.readFailed cause) (if s.reader = .running then _ else s)
    split_ifs with hreader
    · exact .lost hreader
    · exact .unaffected
  | elapsed time => exact .elapsed time
  | polled => exact .looked (s.poll_look limit)
  | waitFailed cause =>
    cases hphase : s.phase with
    | running | reaping =>
      have hwaits : s.Waits := by simp [Waits, hphase]
      simpa only [step, hphase] using Turn.gaveUp hwaits
    | draining | done r => simpa only [step, hphase] using Turn.unmoved

/-! ### The clock and the stream -/

theorem Look.frame (h : Look limit s s') : s'.now = s.now ∧ s'.closed = s.closed ∧
    s'.pipe = s.pipe ∧ s'.taken = s.taken ∧ s'.reader = s.reader := by
  cases h <;> simp

theorem Turn.now_eq (h : Turn limit s e s') : s'.now = s.now + e.time := by
  cases h with
  | looked h => exact h.frame.1
  | _ => rfl

theorem Turn.closed_iff (h : Turn limit s e s') :
    s'.closed = true ↔ s.closed = true ∨ e = .closed := by
  cases h with
  | looked h => simp [h.frame.2.1]
  | _ => simp

theorem Turn.stream_eq (h : Turn limit s e s') :
    s'.taken ++ s'.pipe = s.taken ++ s.pipe ++ if s.closed then [] else e.bytes := by
  cases h with
  | looked h =>
    obtain ⟨-, -, hpipe, htaken, -⟩ := h.frame
    simp [hpipe, htaken, Event.bytes]
  | wrote hopen => simp [hopen, Event.bytes]
  | unheard hclosed => simp [hclosed]
  | _ => simp [Event.bytes]

/-! ### The waiting side -/

/-- What the waiting side has returned it does not take back. -/
theorem Turn.done (h : Turn limit s e s') (hdone : s.phase = .done r) : s'.phase = .done r := by
  cases h with
  | looked h =>
    cases h with
    | nothing => exact hdone
    | noticed hphase | killed hphase | drained hphase | whole hphase | broken hphase
    | abandoned hphase | reaped hphase => exact absurd (hphase.symm.trans hdone) (by simp)
  | gaveUp hwaits => exact absurd hdone (hwaits r)
  | _ => exact hdone

/-- Whoever still waits has not ended the analyzer. -/
theorem Turn.exited_iff (h : Turn limit s e s') (hwaits : s'.Waits) :
    s'.exited = true ↔ s.exited = true ∨ e = .exited := by
  cases h with
  | looked h =>
    cases h with
    | killed hphase hlate => exact absurd rfl (hwaits _)
    | _ => simp
  | _ => simp

/-- What every order of events keeps to. -/
structure Sound (limit : Option Duration) (s : State) : Prop where
  drained : s.reader = .finished → s.closed = true ∧ s.pipe = []
  noticed : s.reaped = true → s.exited = true
  draining : s.phase = .draining → limit.isSome = true → s.reaped = true
  reaping : s.phase = .reaping → s.reader = .finished

theorem sound_start (limit : Option Duration) : (start limit).Sound limit where
  drained h := nomatch h
  noticed h := nomatch h
  draining hphase hlimit := by simp [start, hlimit] at hphase
  reaping hphase := by
    unfold start at hphase
    dsimp only at hphase
    split_ifs at hphase

theorem Look.sound (hlook : Look limit s s') (h : s.Sound limit) : s'.Sound limit := by
  cases hlook with
  | nothing => exact h
  | noticed hphase hexited =>
    exact ⟨h.drained, fun _ => hexited, fun _ _ => rfl, by simp⟩
  | killed hphase hlate =>
    exact ⟨h.drained, fun _ => rfl, by simp, by simp⟩
  | drained hphase hreader =>
    exact ⟨h.drained, h.noticed, by simp, fun _ => hreader⟩
  | reaped hphase hexited =>
    exact ⟨h.drained, fun _ => hexited, by simp, by simp⟩
  | whole | broken | abandoned =>
    exact ⟨h.drained, h.noticed, by simp, by simp⟩

theorem Turn.sound (hturn : Turn limit s e s') (h : s.Sound limit) : s'.Sound limit := by
  cases hturn with
  | looked hlook => exact hlook.sound h
  | unheard | idle | unaffected | unmoved => exact h
  | wrote hopen =>
    refine ⟨fun hreader => ?_, h.noticed, h.draining, h.reaping⟩
    simp [(h.drained hreader).1] at hopen
  | took hreader =>
    refine ⟨fun hfinished => ?_, h.noticed, h.draining, h.reaping⟩
    exact absurd (hreader.symm.trans hfinished) (by decide)
  | finished hpipe hclosed => exact ⟨fun _ => ⟨hclosed, hpipe⟩, h.noticed, h.draining, fun _ => rfl⟩
  | exited => exact ⟨h.drained, fun _ => rfl, h.draining, h.reaping⟩
  | closed => exact ⟨fun hreader => ⟨rfl, (h.drained hreader).2⟩, h.noticed, h.draining, h.reaping⟩
  | elapsed time => exact ⟨h.drained, h.noticed, h.draining, h.reaping⟩
  | lost hreader =>
    refine ⟨by simp, h.noticed, h.draining, fun hphase => ?_⟩
    exact absurd (hreader.symm.trans (h.reaping hphase)) (by decide)
  | gaveUp hwaits => exact ⟨h.drained, h.noticed, by simp, by simp⟩

/-! ### Returning -/

/-- A capture is complete once the analyzer has ended and the reader has reached the end of the
stream, and is noticed to be at a look. -/
theorem Turn.complete {bytes : Bytes} (h : Turn limit s e s') (hsound : s.Sound limit)
    (hwaits : s.Waits) (hdone : s'.phase = .done (.complete bytes)) :
    e = .polled ∧ s.exited = true ∧ s.reader = .finished ∧ bytes = s.taken ∧ s'.reaped = true := by
  cases h with
  | looked h =>
    cases h with
    | whole hphase hreader hreaped =>
      exact ⟨rfl, hsound.noticed hreaped, hreader, by simpa using hdone.symm, hreaped⟩
    | reaped hphase hexited =>
      exact ⟨rfl, hexited, hsound.reaping hphase, by simpa using hdone.symm, rfl⟩
    | nothing => exact absurd hdone (hwaits _)
    | _ => simp at hdone
  | gaveUp => simp at hdone
  | _ => exact absurd hdone (hwaits _)

/-- A capture times out at a look that finds the limit reached, and leaves no analyzer behind. -/
theorem Turn.timedOut (h : Turn limit s e s') (hsound : s.Sound limit) (hwaits : s.Waits)
    (hdone : s'.phase = .done .timedOut) :
    e = .polled ∧ s.late limit = true ∧ s'.reaped = true := by
  cases h with
  | looked h =>
    cases h with
    | killed hphase hlate => exact ⟨rfl, hlate, rfl⟩
    | abandoned hphase hlate =>
      refine ⟨rfl, hlate, hsound.draining hphase ?_⟩
      cases limit with
      | none => simp [late] at hlate
      | some d => rfl
    | nothing => exact absurd hdone (hwaits _)
    | _ => simp at hdone
  | gaveUp => simp at hdone
  | _ => exact absurd hdone (hwaits _)

end State

/-! ### Runs -/

section Runs
variable (limit : Option Duration) (events : List Event)

theorem run_append_singleton (e : Event) :
    run limit (events ++ [e]) = (run limit events).step limit e := by
  simp [run]

theorem run_turn (e : Event) :
    State.Turn limit (run limit events) e (run limit (events ++ [e])) := by
  rw [run_append_singleton]
  exact (run limit events).step_turn limit e

theorem now_run : (run limit events).now = elapsed events := by
  induction events using List.reverseRecOn with
  | nil => rfl
  | append_singleton events e ih =>
    rw [(run_turn limit events e).now_eq, ih]
    simp [elapsed]

theorem closed_run_iff : (run limit events).closed = true ↔ .closed ∈ events := by
  induction events using List.reverseRecOn with
  | nil => simp [run, State.start]
  | append_singleton events e ih =>
    rw [(run_turn limit events e).closed_iff, ih]
    simp [eq_comm]

/-- Nothing is written after the pipe has been closed. -/
theorem written_append_of_closed {events : List Event} (h : .closed ∈ events)
    (more : List Event) : written (events ++ more) = written events := by
  induction events with
  | nil => simp at h
  | cons e events ih =>
    cases e with
    | closed => rfl
    | _ => simpa [written] using ih (by simpa using h)

theorem written_append_of_open {events : List Event} (h : .closed ∉ events) (e : Event) :
    written (events ++ [e]) = written events ++ e.bytes := by
  induction events with
  | nil => cases e <;> simp [written, Event.bytes]
  | cons first events ih =>
    simp only [List.mem_cons, not_or] at h
    cases first with
    | closed => exact absurd rfl h.1
    | _ => simp [written, ih h.2]

theorem stream_run : (run limit events).taken ++ (run limit events).pipe = written events := by
  induction events using List.reverseRecOn with
  | nil => rfl
  | append_singleton events e ih =>
    rw [(run_turn limit events e).stream_eq, ih]
    by_cases hclosed : .closed ∈ events
    · rw [(closed_run_iff limit events).mpr hclosed, written_append_of_closed hclosed]
      simp
    · have hopen : (run limit events).closed = false := by
        simpa using (closed_run_iff limit events).not.mpr hclosed
      rw [hopen, written_append_of_open hclosed]
      simp

theorem sound_run : (run limit events).Sound limit := by
  induction events using List.reverseRecOn with
  | nil => exact State.sound_start limit
  | append_singleton events e ih => exact (run_turn limit events e).sound ih

theorem waits_of_waits_append {events : List Event} {e : Event}
    (h : (run limit (events ++ [e])).Waits) : (run limit events).Waits :=
  fun r hdone => h r ((run_turn limit events e).done hdone)

theorem exited_run_iff {events : List Event} (h : (run limit events).Waits) :
    (run limit events).exited = true ↔ .exited ∈ events := by
  induction events using List.reverseRecOn with
  | nil => simp [run, State.start]
  | append_singleton events e ih =>
    rw [(run_turn limit events e).exited_iff h, ih (waits_of_waits_append limit h)]
    simp [eq_comm]

/-- The waiting side returned at one of the events, before which it still waited. -/
theorem exists_return {events : List Event} {r : Result} (h : (run limit events).phase = .done r) :
    ∃ before e after, events = before ++ e :: after ∧ (run limit before).Waits ∧
      (run limit (before ++ [e])).phase = .done r := by
  induction events using List.reverseRecOn with
  | nil =>
    exfalso
    cases limit <;> simp [run, State.start] at h
  | append_singleton events e ih =>
    by_cases hwaits : (run limit events).Waits
    · exact ⟨events, e, [], rfl, hwaits, h⟩
    · obtain ⟨r', hdone⟩ := not_forall_not.mp hwaits
      have hr : r' = r := by simpa [(run_turn limit events e).done hdone] using h
      obtain ⟨before, first, after, rfl, hbefore⟩ := ih (hr ▸ hdone)
      exact ⟨before, first, after ++ [e], by simp, hbefore⟩

end Runs
end DefectGate.Capture
