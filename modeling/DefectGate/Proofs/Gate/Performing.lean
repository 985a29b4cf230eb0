import DefectGate.Gate
import DefectGate.Proofs.Console.Complaints
import DefectGate.Proofs.Run.Course

/-! # Performing an analysis

What a command does once it has its settings, on a host whose console takes what it is offered. The
console gets the banner, the log if it was kept, and the line on defects; every other failure is
reported as an error; and the summary is written last, whatever the verdict. If the report of a
failure is refused, the command ends there, with a status of its own and without a summary.
-/
namespace DefectGate.Gate
open Host (Path)
open Program

variable {σ : Type}

/-- The text of an error that is none of the run's failures. -/
def errorText (message : String) (cause : Option String) : String :=
  let explanation :=
    match cause with
    | none => ""
    | some c => s!"\n\nCaused by:\n    {c}"
  s!"Error: {message}{explanation}\n"

theorem complain_yields {text : String} {steps : List Step} {u : Unit}
    (h : (complain text).Yields steps u) : ∃ answer, steps = [⟨.complain text, answer⟩] := by
  obtain ⟨first, answer, rest, rfl, hask, hdone⟩ := yields_bind_iff.mp h
  obtain ⟨rfl, -⟩ := yields_done_iff.mp hdone
  exact ⟨answer, by rw [yields_ask_iff.mp hask, List.append_nil]⟩

theorem giveUp_yields {message : String} {cause : Option String} {steps : List Step} {code : Int32}
    (h : (giveUp message cause).Yields steps code) :
    code = 1 ∧ ∃ answer, steps = [⟨.complain (errorText message cause), answer⟩] := by
  obtain ⟨first, _, rest, rfl, hcomplain, hdone⟩ := yields_bind_iff.mp h
  obtain ⟨rfl, rfl⟩ := yields_done_iff.mp hdone
  obtain ⟨answer, rfl⟩ := complain_yields hcomplain
  refine ⟨rfl, answer, ?_⟩
  cases cause <;> rfl

/-- The error that reports a failure. -/
def failureLine (f : Failure) : String := s!"error: {f.message}\n"

/-- A host that is about to perform an analysis. -/
structure Scene (σ : Type) where
  host : Host σ
  invocation : Invocation
  analysis : Analysis
  state : σ

namespace Scene
variable (x : Scene σ)

/-- After the banner. -/
def announced : σ := ((Console.putLine x.analysis.banner).run.run x.host x.state).2

/-- The result of the run. -/
def result : Except Failure Report := ((x.analysis.run .standard).run.run x.host x.announced).1

/-- The steps of the run. -/
def steps : List Step := (x.analysis.run .standard).run.trace x.host x.announced

/-- After the run. -/
def finished : σ :=
  (x.host.answer .flushConsole ((x.analysis.run .standard).run.run x.host x.announced).2).2

/-- The verdict of the run. -/
def verdict : Verdict := .ofResult x.result

/-- After the verdict. -/
def told : σ := ((announce x.verdict).run.run x.host x.finished).2

/-- The summary of the run. -/
def summary : Summary :=
  .ofRun (tool x.invocation.commit) x.analysis.shortName x.result.toOption x.verdict

def summaryResult (path : Path) : Except Host.Error Unit :=
  ((writeText path x.summary.render).run.run x.host x.told).1

def summarySteps (path : Path) : List Step :=
  (writeText path x.summary.render).run.trace x.host x.told

/-- The run is clean, and the summary is in its file if one was asked for. -/
def Passes : Prop :=
  (∃ report, x.result = .ok report ∧ report.count = 0) ∧
    ∀ path, x.invocation.summaryOut = some path →
      stored path (x.summarySteps path) = some (Text.Utf8.encode x.summary.render)

/-- The run has failed, and the stream for diagnostics does not take the error. -/
def Unheard : Prop :=
  ∃ f e, x.result = .error f ∧ (x.host.answer (.complain (failureLine f)) x.finished).1 = .error e

end Scene

/-- What the console shows of a result. -/
def verdictLine : Except Failure Report → Bytes
  | .ok r =>
    if r.count = 0 then []
    else Transcript.lineBytes s!"{r.analyzer} found {r.count.text} errors!"
  | .error _ => []

/-- What the stream for diagnostics says of a result. -/
def failureText : Except Failure Report → List String
  | .ok _ => []
  | .error f => [failureLine f]

theorem complaints_of_puts {bs : Bytes} {steps : List Step} {r : Except Host.Error Unit}
    (h : Console.Puts bs steps r) : Console.complaints steps = [] := by
  refine Console.complaints_eq_nil fun step hstep text hcall => ?_
  obtain ⟨bytes, hprint⟩ := h.printing step hstep
  rw [hcall] at hprint
  cases hprint

theorem announce_failed {f : Failure} (hf : ∀ analyzer count, f ≠ .defectsFound analyzer count) :
    announce (.failed f) = (Call.complain (failureLine f)).ask := by
  cases f with
  | defectsFound analyzer count => exact absurd rfl (hf analyzer count)
  | _ => rfl

/-- The steps that tell how a run ended, and whether it could be told: reported defects are shown on
the console, and any other failure is offered to the stream for diagnostics. -/
inductive Announces : Except Failure Report → List Step → Except Host.Error Unit → Prop where
  | shown {r : Report} {steps : List Step} {told : Except Host.Error Unit}
      (h : Console.Puts (verdictLine (.ok r)) steps told) : Announces (.ok r) steps told
  | reported (f : Failure) (answer : Call.Answer (.complain (failureLine f))) :
      Announces (.error f) [⟨.complain (failureLine f), answer⟩] answer

theorem announce_announces {r : Except Failure Report} {steps : List Step}
    {told : Except Host.Error Unit}
    (hr : ∀ analyzer count, r ≠ .error (.defectsFound analyzer count))
    (h : (announce (.ofResult r)).run.Yields steps told) : Announces r steps told := by
  cases r with
  | error f =>
    have hf : ∀ analyzer count, f ≠ .defectsFound analyzer count :=
      fun analyzer count he => hr analyzer count (congrArg Except.error he)
    rw [Verdict.ofResult, announce_failed hf] at h
    rw [yields_ask_iff.mp h]
    exact .reported f told
  | ok report =>
    refine .shown ?_
    by_cases hcount : report.count = 0
    · rw [Verdict.ofResult, if_pos hcount] at h
      obtain ⟨rfl, rfl⟩ := yields_pure_iff.mp h
      rw [verdictLine, if_pos hcount]
      exact Console.puts_nil
    · rw [Verdict.ofResult, if_neg hcount] at h
      rw [verdictLine, if_neg hcount]
      exact Console.putLine_puts h

section Announced
variable {r : Except Failure Report} {steps : List Step} {told : Except Host.Error Unit}

theorem Announces.shown_eq (h : Announces r steps told) (haccepted : ∀ step ∈ steps, step.Accepted) :
    Console.shown steps = verdictLine r := by
  cases h with
  | shown h => exact h.whole haccepted
  | reported f answer => rfl

theorem Announces.complaints_eq (h : Announces r steps told) :
    Console.complaints steps = failureText r := by
  cases h with
  | shown h => exact complaints_of_puts h
  | reported f answer => rfl

end Announced

/-- The steps that write a file anew, and how they end. -/
inductive Writes (path : Path) (bytes : Bytes) : List Step → Except Host.Error Unit → Prop where
  | uncreated (e : Host.Error) : Writes path bytes [⟨.create path, .error e⟩] (.error e)
  | unwritten (file : Host.Handle) (e : Host.Error) :
      Writes path bytes [⟨.create path, .ok file⟩, ⟨.write file bytes, .error e⟩] (.error e)
  | ended (file : Host.Handle) (answer : Call.Answer (.flush file)) :
      Writes path bytes [⟨.create path, .ok file⟩, ⟨.write file bytes, .ok ()⟩,
        ⟨.flush file, answer⟩] answer

theorem writeText_writes {path : Path} {text : String} {steps : List Step}
    {r : Except Host.Error Unit} (h : (writeText path text).run.Yields steps r) :
    Writes path (Text.Utf8.encode text) steps r := by
  rcases yields_seq_iff.mp h with ⟨e, rfl, hcreate⟩ | ⟨first, file, rest, rfl, hcreate, hwrite⟩
  · rw [yields_ask_iff.mp hcreate]
    exact .uncreated e
  rw [yields_ask_iff.mp hcreate]
  rcases yields_seq_iff.mp hwrite with ⟨e, rfl, hask⟩ | ⟨second, _, last, rfl, hask, hflush⟩
  · rw [yields_ask_iff.mp hask]
    exact .unwritten file e
  · rw [yields_ask_iff.mp hask, yields_ask_iff.mp hflush]
    exact .ended file r

section Written
variable {path : Path} {bytes : Bytes} {steps : List Step} {r : Except Host.Error Unit}

theorem Writes.creates (h : Writes path bytes steps r) :
    ∃ answer rest, steps = ⟨.create path, answer⟩ :: rest := by
  cases h <;> exact ⟨_, _, rfl⟩

theorem Writes.changesFiles (h : Writes path bytes steps r) :
    ∀ step ∈ steps, step.call.changesFiles := by
  cases h <;> simp [Call.changesFiles]

/-- Whatever the file was, it holds the bytes if the writing succeeded, and nothing is known of it
if not. -/
theorem Writes.stored_after (h : Writes path bytes steps r) (slot : Slot) :
    (slot.after path steps).stored = r.toOption.map fun _ => bytes := by
  cases h with
  | uncreated e => simp [Slot.step, Slot.unknown, Except.toOption]
  | unwritten file e => simp [Slot.step, Except.toOption]
  | ended file => cases r <;> simp [Slot.step, Except.toOption]

theorem Writes.stored_between (h : Writes path bytes steps r) (front : List Step) {back : List Step}
    (hback : ∀ step ∈ back, step.call.changesFiles = false) :
    stored path (front ++ steps ++ back) = r.toOption.map fun _ => bytes := by
  rw [stored, Slot.after_append, Slot.after_of_unchanged hback, Slot.after_append, h.stored_after]

theorem Writes.shown_eq (h : Writes path bytes steps r) : Console.shown steps = [] :=
  Console.shown_eq_nil fun step hstep => Log.Files.isShown_eq (.inl (h.changesFiles step hstep))

theorem Writes.complaints_eq (h : Writes path bytes steps r) : Console.complaints steps = [] := by
  refine Console.complaints_eq_nil fun step hstep text hcall => ?_
  have hchanges := h.changesFiles step hstep
  rw [hcall] at hchanges
  cases hchanges

end Written

/-- What the stream for diagnostics says of the writing of a summary. -/
def writingText (path : Path) : Except Host.Error Unit → List String
  | .ok _ => []
  | .error e => [errorText s!"failed to write summary: {path.display}" (some e.message)]

def Scene.summaryText (x : Scene σ) : List String :=
  match x.invocation.summaryOut with
  | none => []
  | some path => writingText path (x.summaryResult path)

theorem Scene.writes_summary (x : Scene σ) (path : Path) :
    Writes path (Text.Utf8.encode x.summary.render) (x.summarySteps path) (x.summaryResult path) :=
  writeText_writes (yields_run (writeText path x.summary.render).run x.host x.told)

theorem Scene.summaryText_eq_nil_iff (x : Scene σ) :
    x.summaryText = [] ↔ ∀ path, x.invocation.summaryOut = some path →
      stored path (x.summarySteps path) = some (Text.Utf8.encode x.summary.render) := by
  rw [summaryText]
  cases x.invocation.summaryOut with
  | none => simp
  | some path =>
    simp only [Option.some.injEq, forall_eq']
    rw [stored, (x.writes_summary path).stored_after]
    cases x.summaryResult path <;> simp [writingText, Except.toOption]

theorem exitCode_eq_zero_iff (r : Except Failure Report) :
    (Verdict.ofResult r).exitCode = 0 ↔ ∃ report, r = .ok report ∧ report.count = 0 := by
  cases r with
  | error f => simp [Verdict.ofResult, Verdict.exitCode]
  | ok report =>
    by_cases hcount : report.count = 0 <;> simp [Verdict.ofResult, Verdict.exitCode, hcount]

theorem exitCode_cases (v : Verdict) : v.exitCode = 0 ∨ v.exitCode = 1 := by
  cases v
  · exact .inl rfl
  · exact .inr rfl

/-- What a command does with its settings: its exit status, its two streams and its summary. -/
structure Performs (x : Scene σ) (steps : List Step) (code : Int32) : Prop where
  passes : code = 0 ↔ x.Passes
  unheard : code = untold ↔ x.Unheard
  fails : code = 0 ∨ code = 1 ∨ code = untold
  /-- The banner, then the log, as far as it was kept, then the line on defects. -/
  shown : Console.shown steps =
    Transcript.lineBytes x.analysis.banner ++
      ((stored x.analysis.logPath x.steps).getD [] ++ verdictLine x.result)
  /-- The log is there to be shown exactly if all the steps of keeping it succeeded. -/
  kept : (stored x.analysis.logPath x.steps).isSome ↔ x.analysis.KeepsLog x.steps
  /-- The stream for diagnostics is offered the failure and what went wrong with the summary, and
  nothing else. -/
  offered (hheard : ¬ x.Unheard) :
    Console.complaints steps = failureText x.result ++ x.summaryText
  /-- A stream that listens hears exactly that. -/
  heard (hl : x.host.Listens) : Console.heard steps = failureText x.result ++ x.summaryText
  /-- The summary is written at the end, after every verdict that could be told. -/
  summary (path : Path) (hpath : x.invocation.summaryOut = some path) (hheard : ¬ x.Unheard) :
    (∃ answer rest, x.summarySteps path = ⟨.create path, answer⟩ :: rest) ∧
      ∃ front back, steps = front ++ x.summarySteps path ++ back ∧
        ∀ step ∈ back, ∃ text, step.call = .complain text
  /-- In the end the file of the summary holds it, if nothing failed in the writing; if something
  did, nothing is known of the file. -/
  written (path : Path) (hpath : x.invocation.summaryOut = some path) (hheard : ¬ x.Unheard) :
    stored path steps = stored path (x.summarySteps path) ∧
      stored path steps =
        (x.summaryResult path).toOption.map fun _ => Text.Utf8.encode x.summary.render
  /-- A command whose error is refused has done nothing else since the end of the run. -/
  cut (h : x.Unheard) : ∃ front f e, x.result = .error f ∧
    steps = front ++ (x.steps ++ [⟨.flushConsole, .ok ()⟩, ⟨.complain (failureLine f), .error e⟩])

theorem Scene.course (x : Scene σ) : x.analysis.Course .standard x.steps x.result :=
  Analysis.run_course (yields_run (x.analysis.run .standard).run x.host x.announced)

/-- A stream that listens hears of every failure. -/
theorem not_unheard {x : Scene σ} (hl : x.host.Listens) : ¬ x.Unheard := by
  rintro ⟨f, e, -, hrefused⟩
  rw [hl.complain] at hrefused
  cases hrefused

theorem not_passes {x : Scene σ} (h : x.Unheard) : ¬ x.Passes := by
  rintro ⟨⟨report, hclean, -⟩, -⟩
  obtain ⟨f, e, hfailed, -⟩ := h
  rw [hclean] at hfailed
  cases hfailed

section Scenes
variable (x : Scene σ) (hx : x.host.AcceptsOutput)

theorem announces :
    Announces x.result ((announce x.verdict).run.trace x.host x.finished)
      ((announce x.verdict).run.run x.host x.finished).1 :=
  announce_announces x.course.ne_defectsFound
    (yields_run (announce x.verdict).run x.host x.finished)

theorem announce_of_error {f : Failure} (hresult : x.result = .error f) :
    announce x.verdict = (Call.complain (failureLine f)).ask := by
  rw [Scene.verdict, hresult]
  exact announce_failed fun analyzer count he =>
    x.course.ne_defectsFound analyzer count (he ▸ hresult)

theorem banner_puts :
    Console.Puts (Transcript.lineBytes x.analysis.banner)
      ((Console.putLine x.analysis.banner).run.trace x.host x.state)
      ((Console.putLine x.analysis.banner).run.run x.host x.state).1 :=
  Console.putLine_puts (yields_run (Console.putLine x.analysis.banner).run x.host x.state)

include hx

theorem log_accepted :
    Console.shown x.steps = (stored x.analysis.logPath x.steps).getD [] ∧
      ((stored x.analysis.logPath x.steps).isSome ↔ x.analysis.KeepsLog x.steps) :=
  x.course.shown_eq fun _ hstep => hx.accepted hstep

theorem banner_run :
    (Console.putLine x.analysis.banner).run.run x.host x.state = (.ok (), x.announced) := by
  -- by rewriting only: comparing the two sides as they stand would run the whole banner
  rw [Scene.announced, ← (banner_puts x).ends fun _ hstep => hx.accepted hstep]

theorem flush_run :
    Call.flushConsole.ask.run.run x.host ((x.analysis.run .standard).run.run x.host x.announced).2 =
      (.ok (), x.finished) := by
  rw [Scene.finished, ← hx.flush ((x.analysis.run .standard).run.run x.host x.announced).2]
  rfl

theorem perform_run :
    (perform x.invocation x.analysis).run x.host x.state =
      (conclude x.invocation x.analysis x.result).run x.host x.finished := by
  rw [perform, bind_eq, run_bind_of_eq (banner_run x hx)]
  change ((x.analysis.run .standard).run.bind _).run x.host x.announced = _
  rw [run_bind]
  change (Call.flushConsole.ask.run.bind _).run x.host _ = _
  rw [run_bind_of_eq (flush_run x hx)]
  rfl

theorem perform_trace :
    (perform x.invocation x.analysis).trace x.host x.state =
      (Console.putLine x.analysis.banner).run.trace x.host x.state ++ (x.steps ++
        ⟨.flushConsole, .ok ()⟩ ::
          (conclude x.invocation x.analysis x.result).trace x.host x.finished) := by
  rw [perform, bind_eq, trace_bind_of_eq (banner_run x hx)]
  congr 1
  change ((x.analysis.run .standard).run.bind _).trace x.host x.announced = _
  rw [trace_bind]
  congr 1
  change (Call.flushConsole.ask.run.bind _).trace x.host _ = _
  rw [trace_bind_of_eq (flush_run x hx)]
  change (⟨.flushConsole, (Call.flushConsole.ask.run.run x.host _).1⟩ : Step) :: _ = _
  rw [flush_run x hx]
  rfl

/-- Up to the verdict, the console gets the banner and the log. -/
theorem shown_perform :
    Console.shown ((perform x.invocation x.analysis).trace x.host x.state) =
      Transcript.lineBytes x.analysis.banner ++ ((stored x.analysis.logPath x.steps).getD [] ++
        Console.shown ((conclude x.invocation x.analysis x.result).trace x.host x.finished)) := by
  have hflush : Step.shown ⟨.flushConsole, .ok ()⟩ = [] := rfl
  rw [perform_trace x hx, Console.shown_append,
    (banner_puts x).whole fun _ hstep => hx.accepted hstep, Console.shown_append,
    Console.shown_cons, hflush, List.nil_append, (log_accepted x hx).1]

/-- Up to the verdict, the stream for diagnostics gets nothing. -/
theorem complaints_perform :
    Console.complaints ((perform x.invocation x.analysis).trace x.host x.state) =
      Console.complaints ((conclude x.invocation x.analysis x.result).trace x.host x.finished) := by
  have hcons (rest : List Step) :
      Console.complaints (⟨.flushConsole, .ok ()⟩ :: rest) = Console.complaints rest := rfl
  rw [perform_trace x hx, Console.complaints_append, complaints_of_puts (banner_puts x),
    List.nil_append, Console.complaints_append, Console.complaints_eq_nil x.course.not_complains,
    List.nil_append, hcons]

theorem announce_run (hheard : ¬ x.Unheard) :
    (announce x.verdict).run.run x.host x.finished = (.ok (), x.told) := by
  suffices h : ((announce x.verdict).run.run x.host x.finished).1 = .ok () by
    rw [Scene.told, ← h]
  cases hresult : x.result with
  | error f =>
    rw [announce_of_error x hresult]
    cases hanswer : (x.host.answer (.complain (failureLine f)) x.finished).1 with
    | ok _ => exact hanswer
    | error e => exact absurd ⟨f, e, hresult, hanswer⟩ hheard
  | ok report =>
    have hannounces := announces x
    rw [hresult] at hannounces
    cases hannounces with
    | shown h => exact h.ends fun _ hstep => hx.accepted hstep

/-- The steps of the summary, if one was asked for. -/
def Scene.writing (x : Scene σ) : List Step :=
  match x.invocation.summaryOut with
  | none => []
  | some path => x.summarySteps path

omit hx in
theorem writing_quiet : Console.shown x.writing = [] ∧ Console.complaints x.writing = [] := by
  rw [Scene.writing]
  cases x.invocation.summaryOut with
  | none => exact ⟨rfl, rfl⟩
  | some path => exact ⟨(x.writes_summary path).shown_eq, (x.writes_summary path).complaints_eq⟩

theorem conclude_ends (hheard : ¬ x.Unheard) :
    ∃ back, (conclude x.invocation x.analysis x.result).trace x.host x.finished =
        (announce x.verdict).run.trace x.host x.finished ++ (x.writing ++ back) ∧
      (∀ step ∈ back, ∃ text, step.call = .complain text) ∧
      Console.complaints back = x.summaryText ∧
      ((conclude x.invocation x.analysis x.result).run x.host x.finished).1 =
        if x.summaryText = [] then x.verdict.exitCode else 1 := by
  change ∃ back, ((announce x.verdict).run.bind _).trace x.host x.finished = _ ∧ _ ∧ _ ∧
    (((announce x.verdict).run.bind _).run x.host x.finished).1 = _
  rw [trace_bind_of_eq (announce_run x hx hheard), run_bind_of_eq (announce_run x hx hheard),
    Scene.writing, Scene.summaryText]
  dsimp only
  cases x.invocation.summaryOut with
  | none => exact ⟨[], rfl, by simp, rfl, rfl⟩
  | some path =>
    obtain ⟨s, hs⟩ : ∃ s, (writeText path x.summary.render).run.run x.host x.told =
      (x.summaryResult path, s) := ⟨_, rfl⟩
    change ∃ back, _ ++ ((writeText path x.summary.render).run.bind _).trace x.host x.told = _ ∧
      _ ∧ Console.complaints back = writingText path (x.summaryResult path) ∧
        (((writeText path x.summary.render).run.bind _).run x.host x.told).1 =
          if writingText path (x.summaryResult path) = [] then _ else 1
    rw [trace_bind_of_eq hs, run_bind_of_eq hs]
    -- from here on only how the writing ended matters, not how it went
    generalize x.summaryResult path = r
    cases r with
    | ok _ => exact ⟨[], rfl, by simp, rfl, rfl⟩
    | error e =>
      obtain ⟨hcode, answer, hsteps⟩ := giveUp_yields (yields_run
        (giveUp s!"failed to write summary: {path.display}" (some e.message)) x.host s)
      refine ⟨_, rfl, ?_, ?_, hcode⟩
      · change ∀ step ∈ (giveUp _ _).trace x.host s, _
        rw [hsteps]
        simp
      · change Console.complaints ((giveUp _ _).trace x.host s) = _
        rw [hsteps]
        rfl

omit hx in
theorem conclude_cut (h : x.Unheard) :
    ∃ f e, x.result = .error f ∧
      (conclude x.invocation x.analysis x.result).trace x.host x.finished =
        [⟨.complain (failureLine f), .error e⟩] ∧
      ((conclude x.invocation x.analysis x.result).run x.host x.finished).1 = untold := by
  obtain ⟨f, e, hresult, hrefused⟩ := h
  refine ⟨f, e, hresult, ?_⟩
  change ((announce x.verdict).run.bind _).trace x.host x.finished = _ ∧
    (((announce x.verdict).run.bind _).run x.host x.finished).1 = _
  rw [announce_of_error x hresult]
  have hrun : (Call.complain (failureLine f)).ask.run.run x.host x.finished =
      (.error e, (x.host.answer (.complain (failureLine f)) x.finished).2) := by
    rw [← hrefused]
    rfl
  rw [trace_bind_of_eq hrun, run_bind_of_eq hrun]
  refine ⟨?_, rfl⟩
  change [(⟨.complain (failureLine f), (x.host.answer _ x.finished).1⟩ : Step)] = _
  rw [hrefused]

theorem code_of_heard (hheard : ¬ x.Unheard) :
    ((perform x.invocation x.analysis).run x.host x.state).1 =
      if x.summaryText = [] then x.verdict.exitCode else 1 := by
  obtain ⟨back, -, -, -, hcode⟩ := conclude_ends x hx hheard
  rw [perform_run x hx, hcode]

theorem shown_of_heard (hheard : ¬ x.Unheard) :
    Console.shown ((conclude x.invocation x.analysis x.result).trace x.host x.finished) =
      verdictLine x.result := by
  obtain ⟨back, htrace, hback, -, -⟩ := conclude_ends x hx hheard
  have hbackShown : Console.shown back = [] := Console.shown_eq_nil fun step hstep => by
    obtain ⟨text, hcall⟩ := hback step hstep
    rw [hcall]
    rfl
  rw [htrace, Console.shown_append, Console.shown_append, (writing_quiet x).1, hbackShown,
    (announces x).shown_eq fun _ hstep => hx.accepted hstep]
  simp

theorem complaints_of_heard (hheard : ¬ x.Unheard) :
    Console.complaints ((perform x.invocation x.analysis).trace x.host x.state) =
      failureText x.result ++ x.summaryText := by
  obtain ⟨back, htrace, -, hsummary, -⟩ := conclude_ends x hx hheard
  rw [complaints_perform x hx, htrace, Console.complaints_append, Console.complaints_append,
    (writing_quiet x).2, hsummary, (announces x).complaints_eq]
  rfl

theorem trace_of_heard (hheard : ¬ x.Unheard) {path : Path}
    (hpath : x.invocation.summaryOut = some path) :
    ∃ front back, (perform x.invocation x.analysis).trace x.host x.state =
        front ++ x.summarySteps path ++ back ∧
      ∀ step ∈ back, ∃ text, step.call = .complain text := by
  obtain ⟨back, htrace, hback, -, -⟩ := conclude_ends x hx hheard
  refine ⟨(Console.putLine x.analysis.banner).run.trace x.host x.state ++ (x.steps ++
    ⟨.flushConsole, .ok ()⟩ :: (announce x.verdict).run.trace x.host x.finished), back, ?_, hback⟩
  rw [perform_trace x hx, htrace, Scene.writing, hpath]
  simp only [List.append_assoc, List.cons_append]

theorem stored_of_heard (hheard : ¬ x.Unheard) {path : Path}
    (hpath : x.invocation.summaryOut = some path) :
    stored path ((perform x.invocation x.analysis).trace x.host x.state) =
      (x.summaryResult path).toOption.map fun _ => Text.Utf8.encode x.summary.render := by
  obtain ⟨front, back, htrace, hback⟩ := trace_of_heard x hx hheard hpath
  have hunchanged : ∀ step ∈ back, step.call.changesFiles = false := fun step hstep => by
    obtain ⟨text, hcall⟩ := hback step hstep
    rw [hcall]
    rfl
  rw [htrace, (x.writes_summary path).stored_between front hunchanged]

/-- A command whose verdict can be told goes on to the summary. -/
theorem performs_of_heard (hheard : ¬ x.Unheard) :
    Performs x ((perform x.invocation x.analysis).trace x.host x.state)
      ((perform x.invocation x.analysis).run x.host x.state).1 := by
  have hends := code_of_heard x hx hheard
  have hcode : x.verdict.exitCode = 0 ∨ x.verdict.exitCode = 1 := exitCode_cases _
  have hoffered := complaints_of_heard x hx hheard
  exact
    { passes := by
        rw [hends, Scene.Passes, ← x.summaryText_eq_nil_iff, ← exitCode_eq_zero_iff]
        split_ifs with hnil <;> simp [hnil, Scene.verdict]
      unheard := by
        rw [hends]
        refine iff_of_false ?_ hheard
        split_ifs
        · rcases hcode with h | h <;> rw [h] <;> decide
        · decide
      fails := by
        rw [hends]
        split_ifs
        · exact hcode.imp_right .inl
        · exact .inr (.inl rfl)
      shown := by rw [shown_perform x hx, shown_of_heard x hx hheard]
      kept := (log_accepted x hx).2
      offered := fun _ => hoffered
      heard := fun hl => by
        rw [Console.heard_eq_complaints fun _ hstep => hl.heard hstep, hoffered]
      summary := fun path hpath _ =>
        ⟨(x.writes_summary path).creates, trace_of_heard x hx hheard hpath⟩
      written := fun path hpath _ => by
        rw [stored_of_heard x hx hheard hpath, stored, (x.writes_summary path).stored_after]
        exact ⟨rfl, rfl⟩
      cut := fun h => absurd h hheard }

/-- A command whose verdict can not be told ends with it. -/
theorem performs_of_unheard (h : x.Unheard) :
    Performs x ((perform x.invocation x.analysis).trace x.host x.state)
      ((perform x.invocation x.analysis).run x.host x.state).1 := by
  obtain ⟨f, e, hresult, htrace, hcode⟩ := conclude_cut x h
  have hends : ((perform x.invocation x.analysis).run x.host x.state).1 = untold := by
    rw [perform_run x hx, hcode]
  exact
    { passes := by
        rw [hends]
        exact iff_of_false (by decide) (not_passes h)
      unheard := iff_of_true hends h
      fails := .inr (.inr hends)
      shown := by
        rw [shown_perform x hx, htrace, hresult]
        rfl
      kept := (log_accepted x hx).2
      offered := fun hheard => absurd h hheard
      heard := fun hl => absurd h (not_unheard hl)
      summary := fun _ _ hheard => absurd h hheard
      written := fun _ _ hheard => absurd h hheard
      cut := fun _ => ⟨_, f, e, hresult, by rw [perform_trace x hx, htrace]⟩ }

/-- Whatever else the host does, a command that has its settings keeps to this. -/
theorem perform_performs :
    Performs x ((perform x.invocation x.analysis).trace x.host x.state)
      ((perform x.invocation x.analysis).run x.host x.state).1 := by
  by_cases h : x.Unheard
  · exact performs_of_unheard x hx h
  · exact performs_of_heard x hx h

end Scenes
end DefectGate.Gate
