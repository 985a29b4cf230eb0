import DefectGate.Proofs.Run.Course

/-! # The stages of a run

Whatever its host answers, a run launches the analyzer at most once, and only after the target has
been read. Nothing on disk or on the console is touched before the analyzer has been captured, and a
count is looked for only once the log is complete.
-/
namespace DefectGate.Analysis
open Host (Path)
open Program

variable {a : Analysis} {c : Catalogue} {steps : List Step}

/-- What a run may do, and what its result says about what it did. -/
structure Staged (a : Analysis) (c : Catalogue) (steps : List Step)
    (result : Except Failure Report) : Prop where
  /-- The stages come in their order, and the first that fails gives the result. -/
  course : a.Course c steps result
  /-- There is at most one launch, of the command line, and all stages before it succeeded. -/
  launch (before after : List Step) (command : List Bytes) (limit : Option Duration)
    (answer : Except Host.Error (List Capture.Event))
    (h : steps = before ++ ⟨.launch command limit, answer⟩ :: after) :
    command = a.commandLine ∧ limit = a.limit ∧ (∃ content, before = a.ready content) ∧
      ∀ step ∈ after, step.call.isLaunch = false
  /-- Files and the console are touched only after a transcript has been captured. -/
  effect (before after : List Step) (step : Step) (h : steps = before ++ step :: after)
    (hstep : step.call.changesFiles ∨ step.call.isShown) :
    ∃ content answer t, a.outcomeOf answer = .ok t ∧ a.launched content answer <+: before
  /-- A count is reported missing or unreadable only once the log is complete. -/
  uncounted (h : (∃ analyzer marker, result = .error (.summaryMissing analyzer marker)) ∨
      ∃ line, result = .error (.countUnreadable line)) :
    ∃ content answer t, a.outcomeOf answer = .ok t ∧ a.launched content answer <+: steps ∧
      stored a.logPath steps = some t.logBytes
  /-- A report is about the target as it was read before the launch, and about the log that holds
  the transcript from which the count was read. -/
  report (report : Report) (h : result = .ok report) :
    ∃ content answer t, a.outcomeOf answer = .ok t ∧ a.launched content answer <+: steps ∧
      stored a.logPath steps = some t.logBytes ∧ report.analyzer = a.shortName ∧
      report.target = .ofContent a.target content ∧ report.log = ⟨a.logPath, t.length⟩ ∧
      c.read a t = .ok report.count

theorem isLaunch_of_keeps {t : Transcript} {path : Path} {r : Except Failure LogFile}
    (h : Log.Keeps t path steps r) : ∀ step ∈ steps, step.call.isLaunch = false := by
  intro step hstep
  cases hcall : step.call with
  | launch command limit => exact absurd hcall (h.call_ne rfl (by simp) (by simp) step hstep)
  | _ => rfl

/-- A launch divides a run that has only one in only one way. -/
theorem launch_of_launched {content : Bytes} {answer : Except Host.Error (List Capture.Event)}
    {rest before after : List Step} {command : List Bytes} {limit : Option Duration}
    {answer' : Except Host.Error (List Capture.Event)}
    (hrest : ∀ step ∈ rest, step.call.isLaunch = false)
    (h : a.launched content answer ++ rest =
      before ++ ⟨.launch command limit, answer'⟩ :: after) :
    command = a.commandLine ∧ limit = a.limit ∧ (∃ content, before = a.ready content) ∧
      ∀ step ∈ after, step.call.isLaunch = false := by
  have hready : (⟨.launch command limit, answer'⟩ : Step) ∉ a.ready content :=
    fun hm => nomatch (ready_looks content _ hm).1
  have hmem : (⟨.launch command limit, answer'⟩ : Step) ∉ rest := fun hm => nomatch hrest _ hm
  rw [launched, List.append_assoc, List.singleton_append,
    List.append_cons_inj_of_notMem hready hmem] at h
  obtain ⟨rfl, hstep, rfl⟩ := h
  cases hstep
  exact ⟨rfl, rfl, ⟨content, rfl⟩, hrest⟩

/-- Whatever is done after a launch comes after all of the steps up to it. -/
theorem launched_prefix {content : Bytes} {answer : Except Host.Error (List Capture.Event)}
    {rest before after : List Step} {step : Step}
    (h : a.launched content answer ++ rest = before ++ step :: after)
    (hstep : step.call.changesFiles ∨ step.call.isShown) :
    a.launched content answer <+: before := by
  have hnot : step ∉ a.launched content answer := by
    intro hm
    rcases List.mem_append.mp hm with hm | hm
    · obtain ⟨-, hchanges, hshown⟩ := ready_looks content step hm
      simp [hchanges, hshown] at hstep
    · rw [List.mem_singleton.mp hm] at hstep
      simp [Call.changesFiles, Call.isShown] at hstep
  rcases List.append_eq_append_iff.mp h with ⟨more, rfl, -⟩ | ⟨more, hlaunched, hmore⟩
  · exact List.prefix_append _ _
  · cases more with
    | nil => exact (List.append_nil before ▸ hlaunched) ▸ List.prefix_rfl
    | cons first more =>
      obtain ⟨rfl, -⟩ := List.cons_eq_cons.mp hmore
      exact absurd (by simp [hlaunched]) hnot

/-- A course touches files and the console only after its transcript, if it has one, is there. -/
theorem Course.eq_launched_append {r : Except Failure Report} (h : a.Course c steps r) :
    (∀ step ∈ steps, Looks step) ∨
      ∃ content answer rest, steps = a.launched content answer ++ rest ∧
        (∀ step ∈ rest, step.call.isLaunch = false) ∧
        (rest = [] ∨ ∃ t, a.outcomeOf answer = .ok t) := by
  cases h with
  | refused h => exact .inl h.looks
  | @uncaptured content answer f h =>
    exact .inr ⟨content, answer, [], (List.append_nil _).symm, by simp, .inl rfl⟩
  | unkept h hkeeps => exact .inr ⟨_, _, _, rfl, isLaunch_of_keeps hkeeps, .inr ⟨_, h⟩⟩
  | uncounted h hkeeps hread => exact .inr ⟨_, _, _, rfl, isLaunch_of_keeps hkeeps, .inr ⟨_, h⟩⟩
  | counted h hkeeps hread => exact .inr ⟨_, _, _, rfl, isLaunch_of_keeps hkeeps, .inr ⟨_, h⟩⟩

theorem Course.launch_eq {r : Except Failure Report} (hcourse : a.Course c steps r)
    {before after : List Step} {command : List Bytes} {limit : Option Duration}
    {answer : Except Host.Error (List Capture.Event)}
    (h : steps = before ++ ⟨.launch command limit, answer⟩ :: after) :
    command = a.commandLine ∧ limit = a.limit ∧ (∃ content, before = a.ready content) ∧
      ∀ step ∈ after, step.call.isLaunch = false := by
  rcases hcourse.eq_launched_append with hlooks | ⟨content, answer', rest, hsteps, hrest, -⟩
  · obtain ⟨⟨⟩, -⟩ := hlooks ⟨.launch command limit, answer⟩ (by simp [h])
  · exact launch_of_launched hrest (hsteps ▸ h)

theorem Course.launched_prefix_of_effect {r : Except Failure Report} (hcourse : a.Course c steps r)
    {before after : List Step} {step : Step} (h : steps = before ++ step :: after)
    (hstep : step.call.changesFiles ∨ step.call.isShown) :
    ∃ content answer t, a.outcomeOf answer = .ok t ∧ a.launched content answer <+: before := by
  rcases hcourse.eq_launched_append with hlooks | ⟨content, answer, rest, hsteps, -, hrest⟩
  · obtain ⟨-, hchanges, hshown⟩ := hlooks step (by simp [h])
    simp [hchanges, hshown] at hstep
  · have hprefix := launched_prefix (hsteps ▸ h) hstep
    rcases hrest with rfl | ⟨t, ht⟩
    · -- nothing follows the launch, so no step is left that could have come after it
      have hle := hprefix.length_le
      have hlen := congrArg List.length (hsteps.symm.trans h)
      simp only [List.append_nil, List.length_append, List.length_cons] at hlen
      omega
    · exact ⟨content, answer, t, ht, hprefix⟩

/-- Whatever the host does, a run is staged. -/
theorem run_staged {σ : Type} (h : Host σ) (s : σ) (a : Analysis) (c : Catalogue) :
    Staged a c ((a.run c).run.trace h s) ((a.run c).run.run h s).1 := by
  -- the host matters only through the course that it makes the run take
  have hcourse : a.Course c _ _ := run_course (yields_run (a.run c).run h s)
  generalize (a.run c).run.trace h s = steps at hcourse
  generalize ((a.run c).run.run h s).1 = result at hcourse
  refine ⟨hcourse, fun _ _ _ _ _ => hcourse.launch_eq,
    fun _ _ _ => hcourse.launched_prefix_of_effect, fun hf => ?_, fun report hr => ?_⟩
  · cases hcourse with
    | refused h =>
      rcases h.failure_eq with rfl | rfl | ⟨e, rfl⟩ <;> simp at hf
    | uncaptured h =>
      rcases outcomeOf_error h with ⟨e, rfl⟩ | ⟨limit, rfl⟩ <;> simp at hf
    | unkept h hkeeps =>
      cases hkeeps with
      | failed h => simp at hf
    | uncounted h hkeeps hread =>
      refine ⟨_, _, _, h, List.prefix_append _ _, ?_⟩
      rw [stored_launched_append]
      exact hkeeps.stored_of_ok.1
    | counted h hkeeps hread => simp at hf
  · cases hcourse with
    | counted h hkeeps hread =>
      obtain rfl := Except.ok.inj hr
      refine ⟨_, _, _, h, List.prefix_append _ _, ?_, rfl, rfl, hkeeps.stored_of_ok.2, hread⟩
      rw [stored_launched_append]
      exact hkeeps.stored_of_ok.1
    | refused h => cases hr
    | uncaptured h => cases hr
    | unkept h hkeeps => cases hr
    | uncounted h hkeeps hread => cases hr

end DefectGate.Analysis
