import DefectGate.Run
import DefectGate.Proofs.Log.Storing

/-! # The courses of a run

A run goes through its stages in one order and stops at the first that fails. Each way in which it
can end is one course: the calls that were made, their answers and the result that follows.
-/
namespace DefectGate
open Host (Path)
open Program

/-- Whether a call starts the analysis of a target. -/
def Call.isLaunch : Call → Bool
  | .launch _ _ => true
  | _ => false

/-- Whether a call starts a program at all. -/
def Call.startsProgram : Call → Bool
  | .probe _ | .launch _ _ => true
  | _ => false

theorem canStart_yields {program : String} {steps : List Step} {b : Bool}
    (h : (canStart program).Yields steps b) :
    (b = true ∧ steps = [⟨.probe (Text.Utf8.encode program), .ok ()⟩]) ∨
      ∃ e, b = false ∧ steps = [⟨.probe (Text.Utf8.encode program), .error e⟩] := by
  obtain ⟨first, answer, rest, rfl, hask, hrest⟩ := yields_bind_iff.mp h
  obtain rfl := yields_ask_iff.mp hask
  cases answer with
  | error e =>
    obtain ⟨rfl, rfl⟩ := yields_done_iff.mp hrest
    exact .inr ⟨e, rfl, rfl⟩
  | ok _ =>
    obtain ⟨rfl, rfl⟩ := yields_done_iff.mp hrest
    exact .inl ⟨rfl, rfl⟩

theorem isRegularFile_yields {path : Path} {steps : List Step} {b : Bool}
    (h : (isRegularFile path).Yields steps b) :
    ∃ kind : Call.Answer (.stat path),
      steps = [⟨.stat path, kind⟩] ∧ (b = true ↔ kind = .ok .regular) := by
  obtain ⟨first, answer, rest, rfl, hask, hrest⟩ := yields_bind_iff.mp h
  obtain rfl := yields_ask_iff.mp hask
  refine ⟨answer, ?_⟩
  cases answer with
  | error e =>
    obtain ⟨rfl, rfl⟩ := yields_done_iff.mp hrest
    simp
  | ok kind =>
    obtain ⟨rfl, rfl⟩ := yields_done_iff.mp hrest
    simp

namespace Analysis
variable {a : Analysis} {c : Catalogue} {steps : List Step}

/-- The steps that must have succeeded before a launch. -/
def ready (a : Analysis) (content : Bytes) : List Step :=
  [⟨.probe (Text.Utf8.encode a.analyzer), .ok ()⟩, ⟨.stat a.target, .ok .regular⟩,
    ⟨.readFile a.target, .ok content⟩]

/-- What the answer to a launch means for the run. -/
def outcomeOf (a : Analysis) : Except Host.Error (List Capture.Event) → Except Failure Transcript
  | .error e => .error (.launchFailed a.analyzer e)
  | .ok events => a.transcriptOf (a.limit.getD ⟨0⟩) (Capture.result a.limit events)

/-- The steps up to the answer to a launch. -/
def launched (a : Analysis) (content : Bytes) (answer : Except Host.Error (List Capture.Event)) :
    List Step :=
  a.ready content ++ [⟨.launch a.commandLine a.limit, answer⟩]

/-- The steps of a run that ends before the launch. -/
inductive Refuses (a : Analysis) : List Step → Failure → Prop where
  | analyzer (e : Host.Error) :
      Refuses a [⟨.probe (Text.Utf8.encode a.analyzer), .error e⟩] (.analyzerMissing a.analyzer)
  | target {kind : Except Host.Error Host.FileKind} (hkind : kind ≠ .ok .regular) :
      Refuses a [⟨.probe (Text.Utf8.encode a.analyzer), .ok ()⟩, ⟨.stat a.target, kind⟩]
        (.targetMissing a.target)
  | content (e : Host.Error) :
      Refuses a
        [⟨.probe (Text.Utf8.encode a.analyzer), .ok ()⟩, ⟨.stat a.target, .ok .regular⟩,
          ⟨.readFile a.target, .error e⟩]
        (.ofTargetError a.target e)

/-- The steps of a run and its result: the first stage that fails gives it. -/
inductive Course (a : Analysis) (c : Catalogue) : List Step → Except Failure Report → Prop where
  | refused {steps : List Step} {f : Failure} (h : Refuses a steps f) : Course a c steps (.error f)
  | uncaptured {content : Bytes} {answer : Except Host.Error (List Capture.Event)} {f : Failure}
      (h : a.outcomeOf answer = .error f) : Course a c (a.launched content answer) (.error f)
  | unkept {content : Bytes} {answer : Except Host.Error (List Capture.Event)} {t : Transcript}
      {keeping : List Step} {f : Failure} (h : a.outcomeOf answer = .ok t)
      (hkeeps : Log.Keeps t a.logPath keeping (.error f)) :
      Course a c (a.launched content answer ++ keeping) (.error f)
  | uncounted {content : Bytes} {answer : Except Host.Error (List Capture.Event)} {t : Transcript}
      {keeping : List Step} {log : LogFile} {f : Failure} (h : a.outcomeOf answer = .ok t)
      (hkeeps : Log.Keeps t a.logPath keeping (.ok log)) (hread : c.read a t = .error f) :
      Course a c (a.launched content answer ++ keeping) (.error f)
  | counted {content : Bytes} {answer : Except Host.Error (List Capture.Event)} {t : Transcript}
      {keeping : List Step} {log : LogFile} {count : Count} (h : a.outcomeOf answer = .ok t)
      (hkeeps : Log.Keeps t a.logPath keeping (.ok log)) (hread : c.read a t = .ok count) :
      Course a c (a.launched content answer ++ keeping)
        (.ok ⟨a.shortName, .ofContent a.target content, log, count⟩)

theorem check_yields {r : Except Failure Unit} (h : a.check.run.Yields steps r) :
    (∃ f, r = .error f ∧ Refuses a steps f) ∨
      r = .ok () ∧ steps =
        [⟨.probe (Text.Utf8.encode a.analyzer), .ok ()⟩, ⟨.stat a.target, .ok .regular⟩] := by
  rcases yields_seq_iff.mp h with ⟨_, -, hlift⟩ | ⟨first, there, rest, rfl, hlift, hrest⟩
  · obtain ⟨_, ⟨⟩, -⟩ := yields_lift_iff.mp hlift
  obtain ⟨_, ⟨⟩, hprobe⟩ := yields_lift_iff.mp hlift
  -- the target is looked for only if the analyzer could be started
  rcases canStart_yields hprobe with ⟨rfl, rfl⟩ | ⟨e, rfl, rfl⟩
  · rcases yields_seq_iff.mp hrest with ⟨_, -, hlift'⟩ | ⟨second, regular, rest, rfl, hlift', hend⟩
    · obtain ⟨_, ⟨⟩, -⟩ := yields_lift_iff.mp hlift'
    obtain ⟨_, ⟨⟩, hstat⟩ := yields_lift_iff.mp hlift'
    obtain ⟨kind, rfl, hkind⟩ := isRegularFile_yields hstat
    cases regular with
    | false =>
      obtain ⟨rfl, rfl⟩ := yields_throw_iff.mp hend
      exact .inl ⟨_, rfl, .target fun he => by simpa using hkind.mpr he⟩
    | true =>
      obtain ⟨rfl, rfl⟩ := yields_pure_iff.mp hend
      rw [hkind.mp rfl]
      exact .inr ⟨rfl, rfl⟩
  · rcases yields_seq_iff.mp hrest with ⟨_, rfl, hthrow⟩ | ⟨_, _, _, rfl, hthrow, -⟩
    · obtain ⟨rfl, ⟨⟩⟩ := yields_throw_iff.mp hthrow
      exact .inl ⟨_, rfl, .analyzer e⟩
    · obtain ⟨-, ⟨⟩⟩ := yields_throw_iff.mp hthrow

theorem identifyTarget_yields {r : Except Failure Fingerprint}
    (h : a.identifyTarget.run.Yields steps r) :
    ∃ content : Except Host.Error Bytes, steps = [⟨.readFile a.target, content⟩] ∧
      r = (content.map (Fingerprint.ofContent a.target)).mapError (.ofTargetError a.target) := by
  obtain ⟨r, rfl, hfile⟩ := yields_adapt_iff.mp h
  rcases yields_seq_iff.mp hfile with ⟨e, rfl, hask⟩ | ⟨first, content, rest, rfl, hask, hdone⟩
  · exact ⟨.error e, yields_ask_iff.mp hask, rfl⟩
  · obtain ⟨rfl, rfl⟩ := yields_pure_iff.mp hdone
    exact ⟨.ok content, by rw [yields_ask_iff.mp hask, List.append_nil], rfl⟩

theorem capture_yields {r : Except Failure Transcript} (h : a.capture.run.Yields steps r) :
    ∃ answer, steps = [⟨.launch a.commandLine a.limit, answer⟩] ∧ r = a.outcomeOf answer := by
  rcases yields_seq_iff.mp h with ⟨f, rfl, hadapt⟩ | ⟨first, events, rest, rfl, hadapt, hdone⟩
  · rcases yields_adapt_iff.mp hadapt with ⟨e | _, ⟨⟩, hask⟩
    exact ⟨.error e, yields_ask_iff.mp hask, rfl⟩
  · rcases yields_adapt_iff.mp hadapt with ⟨_ | _, ⟨⟩, hask⟩
    obtain ⟨rfl, rfl⟩ := yields_done_iff.mp hdone
    exact ⟨.ok events, by rw [yields_ask_iff.mp hask, List.append_nil], rfl⟩

/-- Whatever the host answers, a run takes one of its courses. -/
theorem run_course {r : Except Failure Report} (h : (a.run c).run.Yields steps r) :
    a.Course c steps r := by
  rcases yields_seq_iff.mp h with ⟨f, rfl, hcheck⟩ | ⟨first, _, rest, rfl, hcheck, hidentify⟩
  · rcases check_yields hcheck with ⟨f, ⟨⟩, hrefuses⟩ | ⟨⟨⟩, -⟩
    exact .refused hrefuses
  rcases check_yields hcheck with ⟨f, ⟨⟩, -⟩ | ⟨-, rfl⟩
  rcases yields_seq_iff.mp hidentify with
    ⟨f, rfl, htarget⟩ | ⟨second, target, rest, rfl, htarget, hcapture⟩
  · rcases identifyTarget_yields htarget with ⟨e | content, rfl, ⟨⟩⟩
    exact .refused (.content e)
  rcases identifyTarget_yields htarget with ⟨e | content, rfl, ⟨⟩⟩
  rcases yields_seq_iff.mp hcapture with
    ⟨f, rfl, hlaunch⟩ | ⟨third, t, keeping, rfl, hlaunch, hstore⟩
  · obtain ⟨answer, rfl, houtcome⟩ := capture_yields hlaunch
    exact .uncaptured houtcome.symm
  obtain ⟨answer, rfl, houtcome⟩ := capture_yields hlaunch
  rcases yields_seq_iff.mp hstore with ⟨f, rfl, hkeep⟩ | ⟨keeping, log, rest, rfl, hkeep, hcount⟩
  · exact .unkept houtcome.symm (Log.store_keeps hkeep)
  rcases yields_seq_iff.mp hcount with ⟨f, rfl, hread⟩ | ⟨_, count, _, rfl, hread, hdone⟩
  · obtain ⟨rfl, hf⟩ := yields_done_iff.mp hread
    rw [List.append_nil]
    exact .uncounted houtcome.symm (Log.store_keeps hkeep) hf.symm
  obtain ⟨rfl, hn⟩ := yields_done_iff.mp hread
  obtain ⟨rfl, rfl⟩ := yields_pure_iff.mp hdone
  rw [List.append_nil, List.append_nil]
  exact .counted houtcome.symm (Log.store_keeps hkeep) hn.symm

/-- Steps that start nothing, change nothing and show nothing. -/
def Looks (step : Step) : Prop :=
  step.call.isLaunch = false ∧ step.call.changesFiles = false ∧ step.call.isShown = false

theorem Refuses.looks {f : Failure} (h : Refuses a steps f) : ∀ step ∈ steps, Looks step := by
  cases h <;> simp [Looks, Call.isLaunch, Call.changesFiles, Call.isShown]

theorem Refuses.failure_eq {f : Failure} (h : Refuses a steps f) :
    f = .analyzerMissing a.analyzer ∨ f = .targetMissing a.target ∨
      ∃ e, f = .targetUnreadable a.target e := by
  cases h with
  | analyzer e => exact .inl rfl
  | target hkind => exact .inr (.inl rfl)
  | content e =>
    rw [Failure.ofTargetError]
    split_ifs
    · exact .inr (.inl rfl)
    · exact .inr (.inr ⟨e, rfl⟩)

theorem outcomeOf_error {answer : Except Host.Error (List Capture.Event)} {f : Failure}
    (h : a.outcomeOf answer = .error f) :
    (∃ e, f = .launchFailed a.analyzer e) ∨ ∃ limit, f = .timedOut a.analyzer limit := by
  cases answer with
  | error e => exact .inl ⟨e, (Except.error.inj h).symm⟩
  | ok events =>
    rw [outcomeOf] at h
    cases hresult : Capture.result a.limit events with
    | complete bytes => rw [hresult] at h; cases h
    | timedOut => rw [hresult] at h; exact .inr ⟨_, (Except.error.inj h).symm⟩
    | failed e => rw [hresult] at h; exact .inl ⟨e, (Except.error.inj h).symm⟩

theorem ready_looks (content : Bytes) : ∀ step ∈ a.ready content, Looks step := by
  simp [ready, Looks, Call.isLaunch, Call.changesFiles, Call.isShown]

theorem stored_launched_append (content : Bytes)
    (answer : Except Host.Error (List Capture.Event)) (path : Path) (rest : List Step) :
    stored path (a.launched content answer ++ rest) = stored path rest := by
  have hlaunched : Slot.unknown.after path (a.launched content answer) = .unknown :=
    Slot.after_of_unchanged (by simp [launched, ready, Call.changesFiles])
  rw [stored, Slot.after_append, hlaunched, stored]

section Results
variable {r : Except Failure Report}

/-- A run never ends with reported defects as its failure. -/
theorem Course.ne_defectsFound (h : a.Course c steps r) (analyzer : String) (count : Count) :
    r ≠ .error (.defectsFound analyzer count) := by
  rintro rfl
  cases h with
  | refused h => obtain h | h | ⟨_, h⟩ := h.failure_eq <;> cases h
  | uncaptured h => obtain ⟨_, h⟩ | ⟨_, h⟩ := outcomeOf_error h <;> cases h
  | unkept h hkeeps => cases hkeeps
  | uncounted h hkeeps hread =>
    rw [Catalogue.read, Markers.read] at hread
    split at hread
    · cases hread
    · split at hread <;> cases hread

theorem Course.not_complains (h : a.Course c steps r) :
    ∀ step ∈ steps, ∀ text, step.call ≠ .complain text := by
  have hkeeping {t : Transcript} {keeping : List Step} {r : Except Failure LogFile}
      (hkeeps : Log.Keeps t a.logPath keeping r) :
      ∀ step ∈ keeping, ∀ text, step.call ≠ .complain text :=
    fun step hstep text => hkeeps.call_ne rfl (by simp) (by simp) step hstep
  cases h with
  | refused h => cases h <;> simp
  | uncaptured h => simp [launched, ready]
  | unkept h hkeeps => exact List.forall_mem_append.mpr ⟨by simp [launched, ready], hkeeping hkeeps⟩
  | uncounted h hkeeps hread =>
    exact List.forall_mem_append.mpr ⟨by simp [launched, ready], hkeeping hkeeps⟩
  | counted h hkeeps hread =>
    exact List.forall_mem_append.mpr ⟨by simp [launched, ready], hkeeping hkeeps⟩

/-- A run has written all of its log. -/
def KeepsLog (a : Analysis) (steps : List Step) : Prop :=
  ∃ content answer t keeping log, a.outcomeOf answer = .ok t ∧
    steps = a.launched content answer ++ keeping ∧ Log.Keeps t a.logPath keeping (.ok log)

theorem KeepsLog.isSome_stored (h : a.KeepsLog steps) : (stored a.logPath steps).isSome := by
  obtain ⟨content, answer, t, keeping, log, -, rfl, hkeeps⟩ := h
  rw [stored_launched_append, hkeeps.stored_of_ok.1]
  rfl

theorem shown_launched_append (content : Bytes)
    (answer : Except Host.Error (List Capture.Event)) (rest : List Step) :
    Console.shown (a.launched content answer ++ rest) = Console.shown rest := by
  rw [Console.shown_append, Console.shown_eq_nil, List.nil_append]
  simp [launched, ready, Call.isShown]

/-- A console that never refuses has shown the log exactly if all of it was written. -/
theorem Course.shown_eq (h : a.Course c steps r) (haccepted : ∀ step ∈ steps, step.Accepted) :
    Console.shown steps = (stored a.logPath steps).getD [] ∧
      ((stored a.logPath steps).isSome ↔ a.KeepsLog steps) := by
  refine ⟨?_, fun hsome => ?_, KeepsLog.isSome_stored⟩
  · cases h with
    | refused h =>
      rw [Console.shown_eq_nil fun step hstep => (h.looks step hstep).2.2, stored,
        Slot.after_of_unchanged fun step hstep => (h.looks step hstep).2.1]
      rfl
    | @uncaptured content answer f h =>
      rw [← List.append_nil (a.launched content answer), shown_launched_append,
        stored_launched_append]
      rfl
    | unkept h hkeeps | uncounted h hkeeps hread | counted h hkeeps hread =>
      rw [shown_launched_append, stored_launched_append]
      exact hkeeps.shown_eq fun step hstep => haccepted step (List.mem_append_right _ hstep)
  · cases h with
    | refused h =>
      rw [stored, Slot.after_of_unchanged fun step hstep => (h.looks step hstep).2.1] at hsome
      cases hsome
    | @uncaptured content answer f h =>
      rw [← List.append_nil (a.launched content answer), stored_launched_append] at hsome
      cases hsome
    | unkept h hkeeps =>
      rw [stored_launched_append, hkeeps.stored_of_error] at hsome
      cases hsome
    | uncounted h hkeeps hread | counted h hkeeps hread =>
      exact ⟨_, _, _, _, _, h, rfl, hkeeps⟩

end Results
end Analysis
end DefectGate
