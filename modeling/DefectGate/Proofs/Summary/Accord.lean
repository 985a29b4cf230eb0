import DefectGate.Summary.Basic
import DefectGate.Proofs.Run.Course

/-! # A summary and its run

The parts of a summary are made from a verdict and from a report, which could contradict each other.
For the result of a run they do not: the run itself never fails with reported defects, so a summary
that names defects comes with a report that counts them, and one without a count carries the failure
that ended the run.
-/
namespace DefectGate

theorem Failure.kind_eq_defectsFound_iff (f : Failure) :
    f.kind = "defects_reported" ↔ ∃ analyzer count, f = .defectsFound analyzer count := by
  cases f <;> simp [kind]

theorem Analysis.Course.analyzer_eq {a : Analysis} {c : Catalogue} {steps : List Step}
    {report : Report} (h : a.Course c steps (.ok report)) : report.analyzer = a.shortName := by
  cases h
  rfl

namespace Summary

/-- What a summary says and what a run resulted in. -/
structure Accords (result : Except Failure Report) (s : Summary) : Prop where
  /-- Reported defects are a verdict on a report and never the result of a run. -/
  counted (analyzer : String) (count : Count) : result ≠ .error (.defectsFound analyzer count)
  exit : s.exitCode = 0 ↔ s.status = .clean
  status : s.status = .clean ↔ s.error = none
  error : s.error = none ↔ s.defectCount = some 0
  defects : (∃ n, 0 < n ∧ s.defectCount = some n) ↔
    ∃ problem, s.error = some problem ∧ problem.kind = "defects_reported"
  /-- The message names the analyzer and the count of the report, and so does the summary. -/
  message (n : Count) (hpos : 0 < n) (hn : s.defectCount = some n) :
    ∃ report, result = .ok report ∧ report.count = n ∧ report.analyzer = s.analyzer ∧
      s.error = some ⟨"defects_reported", s!"{report.analyzer} found {n.text} errors!"⟩
  finished (report : Report) (h : result = .ok report) :
    s.target = some report.target ∧ s.logPath = some report.log.path.display ∧
      s.defectCount = some report.count
  failed (f : Failure) (h : result = .error f) :
    s.target = none ∧ s.logPath = none ∧ s.defectCount = none ∧ s.error = some ⟨f.kind, f.message⟩

theorem ofRun_of_clean (tool : Tool) {report : Report} (hzero : report.count = 0) :
    Accords (.ok report)
      (ofRun tool report.analyzer (some report) (Verdict.ofResult (.ok report))) := by
  have hverdict : Verdict.ofResult (.ok report) = .clean := if_pos hzero
  rw [hverdict]
  exact
    { counted := by simp
      exit := by simp [ofRun, statusOf, Verdict.exitCode]
      status := by simp [ofRun, statusOf, Verdict.failure?]
      error := by simp [ofRun, Verdict.failure?, hzero]
      defects := by simp [ofRun, Verdict.failure?, hzero]
      message := by
        intro n hpos hn
        have hcount : report.count = n := Option.some.inj hn
        exact absurd (hcount.symm.trans hzero) (UInt64.pos_iff_ne_zero.mp hpos)
      finished := by simp [ofRun]
      failed := by simp }

theorem ofRun_of_defects (tool : Tool) {report : Report} (hzero : report.count ≠ 0) :
    Accords (.ok report)
      (ofRun tool report.analyzer (some report) (Verdict.ofResult (.ok report))) := by
  have hverdict : Verdict.ofResult (.ok report) =
      .failed (.defectsFound report.analyzer report.count) := if_neg hzero
  rw [hverdict]
  exact
    { counted := by simp
      exit := by simp [ofRun, statusOf, Verdict.exitCode]
      status := by simp [ofRun, statusOf, Verdict.failure?]
      error := by simp [ofRun, Verdict.failure?, hzero]
      defects := by
        constructor
        · intro _
          exact ⟨_, rfl, rfl⟩
        · intro _
          exact ⟨report.count, UInt64.pos_iff_ne_zero.mpr hzero, rfl⟩
      message := by
        intro n _ hn
        obtain rfl : report.count = n := Option.some.inj hn
        exact ⟨report, rfl, rfl, rfl, rfl⟩
      finished := by simp [ofRun]
      failed := by simp }

theorem ofRun_of_error (tool : Tool) (analyzer : String) {f : Failure}
    (hf : ∀ analyzer count, f ≠ .defectsFound analyzer count) :
    Accords (.error f) (ofRun tool analyzer none (Verdict.ofResult (.error f))) where
  counted analyzer count h := hf analyzer count (Except.error.inj h)
  exit := by simp [ofRun, Verdict.ofResult, statusOf, Verdict.exitCode]
  status := by simp [ofRun, Verdict.ofResult, statusOf, Verdict.failure?]
  error := by simp [ofRun, Verdict.ofResult, Verdict.failure?]
  defects := by
    have hkind : f.kind ≠ "defects_reported" := by
      intro h
      obtain ⟨analyzer, count, rfl⟩ := f.kind_eq_defectsFound_iff.mp h
      exact hf analyzer count rfl
    simp [ofRun, Verdict.ofResult, Verdict.failure?, Problem.ofFailure, hkind]
  message n _ hn := nomatch hn
  finished := by simp
  failed g h := by
    obtain rfl := Except.error.inj h
    exact ⟨rfl, rfl, rfl, rfl⟩

/-- Whatever the host does, the summary of a run accords with its result. -/
theorem ofRun_accords {σ : Type} (h : Host σ) (s : σ) (a : Analysis) (c : Catalogue) (tool : Tool) :
    Accords ((a.run c).run.run h s).1
      (ofRun tool a.shortName ((a.run c).run.run h s).1.toOption
        (Verdict.ofResult ((a.run c).run.run h s).1)) := by
  have hcourse := Analysis.run_course (Program.yields_run (a.run c).run h s)
  generalize ((a.run c).run.run h s).1 = result at hcourse
  cases result with
  | ok report =>
    rw [← hcourse.analyzer_eq]
    by_cases hzero : report.count = 0
    · exact ofRun_of_clean tool hzero
    · exact ofRun_of_defects tool hzero
  | error f =>
    refine ofRun_of_error tool a.shortName fun analyzer count he => ?_
    exact hcourse.ne_defectsFound analyzer count (congrArg Except.error he)

end Summary
end DefectGate
