import DefectGate.Proofs.Program.Answers
import DefectGate.Proofs.Run.Course
import DefectGate.Workspace.Arrangement
import Mathlib

/-! # Failures of the target

A run meets its target twice: it looks at what the path leads to, and it reads the file. An error of
the reading is classified by what the system says. An error of the looking is not: whatever the
system says, the target is reported missing. So the two agree exactly as long as the looking fails
for no other reason than that nothing is there.
-/
namespace DefectGate
open Host (Path)
open Program

/-- What the system says when it is asked for the analyzer, then for what the target is, then for
what is in it. -/
structure Sight where
  analyzer : Except Host.Error Unit
  kind : Except Host.Error Host.FileKind
  content : Except Host.Error Bytes

namespace Sight

/-- The failure of the target if every error of the system is classified by what it says. -/
def classified (v : Sight) (target : Path) : Option Failure :=
  match v.analyzer, v.kind, v.content with
  | .error _, _, _ => none
  | .ok (), .error e, _ => some (.ofTargetError target e)
  | .ok (), .ok .regular, .error e => some (.ofTargetError target e)
  | .ok (), .ok .regular, .ok _ => none
  | .ok (), .ok _, _ => some (.targetMissing target)

/-- The failure of the target if every error of the looking means that it is missing. -/
def reported (v : Sight) (target : Path) : Option Failure :=
  match v.analyzer, v.kind, v.content with
  | .error _, _, _ => none
  | .ok (), .ok .regular, .error e => some (.ofTargetError target e)
  | .ok (), .ok .regular, .ok _ => none
  | .ok (), _, _ => some (.targetMissing target)

/-- The looking fails for another reason than that nothing is there. -/
def Blocked (v : Sight) : Prop :=
  v.analyzer = .ok () ∧ ∃ e, v.kind = .error e ∧ ¬ e.isNotFound

theorem reported_eq_classified_iff (v : Sight) (target : Path) :
    v.reported target = v.classified target ↔ ¬ v.Blocked := by
  obtain ⟨analyzer, kind, content⟩ := v
  cases analyzer with
  | error e => simp [reported, classified, Blocked]
  | ok u =>
    cases kind with
    | error e =>
      by_cases he : e.isNotFound = true
      · simp [reported, classified, Blocked, Failure.ofTargetError, he]
      · simp [reported, classified, Blocked, Failure.ofTargetError, he]
    | ok kind => cases kind <;> cases content <;> simp [reported, classified, Blocked]

end Sight

/-- The failure of a run, if it is one of the target. -/
def targetFailure? : Except Failure Report → Option Failure
  | .error (.targetMissing path) => some (.targetMissing path)
  | .error (.targetUnreadable path cause) => some (.targetUnreadable path cause)
  | _ => none

namespace Analysis
variable {σ : Type}

/-- What a run is told about its analyzer and its target. -/
def sight (a : Analysis) (h : Host σ) (s : σ) : Sight :=
  let probed := h.answer (.probe (Text.Utf8.encode a.analyzer)) s
  let looked := h.answer (.stat a.target) probed.2
  ⟨probed.1, looked.1, (h.answer (.readFile a.target) looked.2).1⟩

theorem targetFailure?_ofTargetError (path : Path) (e : Host.Error) :
    targetFailure? (.error (.ofTargetError path e)) = some (.ofTargetError path e) := by
  rw [Failure.ofTargetError]
  split_ifs <;> rfl

theorem targetFailure?_of_outcomeOf {a : Analysis} {answer : Except Host.Error (List Capture.Event)}
    {f : Failure} (h : a.outcomeOf answer = .error f) : targetFailure? (.error f) = none := by
  obtain ⟨e, rfl⟩ | ⟨limit, rfl⟩ := outcomeOf_error h <;> rfl

theorem targetFailure?_of_read {a : Analysis} {c : Catalogue} {t : Transcript} {f : Failure}
    (h : c.read a t = .error f) : targetFailure? (.error f) = none := by
  rw [Catalogue.read, Markers.read] at h
  split at h
  · cases h
    rfl
  · split at h <;> cases h
    rfl

/-- A run ends at its target, or it has read the target and no failure is put down to it. -/
theorem Course.refuses_or_ready {a : Analysis} {c : Catalogue} {steps : List Step}
    {r : Except Failure Report} (h : a.Course c steps r) :
    (∃ f, r = .error f ∧ Refuses a steps f) ∨
      ∃ content rest, steps = a.ready content ++ rest ∧ targetFailure? r = none := by
  cases h with
  | refused h => exact .inl ⟨_, rfl, h⟩
  | uncaptured h => exact .inr ⟨_, _, rfl, targetFailure?_of_outcomeOf h⟩
  | unkept h hkeeps =>
    cases hkeeps
    exact .inr ⟨_, _, List.append_assoc _ _ _, rfl⟩
  | uncounted h hkeeps hread =>
    exact .inr ⟨_, _, List.append_assoc _ _ _, targetFailure?_of_read hread⟩
  | counted h hkeeps hread => exact .inr ⟨_, _, List.append_assoc _ _ _, rfl⟩

section Told
variable {h : Host σ} {s s' : σ} {a : Analysis} {rest : List Step}
  {analyzer : Except Host.Error Unit} {kind : Except Host.Error Host.FileKind}
  {content : Except Host.Error Bytes}

theorem sight_analyzer_eq
    (hsteps : h.Answers s (⟨.probe (Text.Utf8.encode a.analyzer), analyzer⟩ :: rest) s') :
    (a.sight h s).analyzer = analyzer := by
  obtain ⟨probed, hprobe, -⟩ := Host.answers_cons_iff.mp hsteps
  rw [sight, hprobe]

theorem sight_kind_eq
    (hsteps : h.Answers s (⟨.probe (Text.Utf8.encode a.analyzer), analyzer⟩ ::
      ⟨.stat a.target, kind⟩ :: rest) s') :
    (a.sight h s).kind = kind := by
  obtain ⟨probed, hprobe, hrest⟩ := Host.answers_cons_iff.mp hsteps
  obtain ⟨looked, hstat, -⟩ := Host.answers_cons_iff.mp hrest
  rw [sight, hprobe, hstat]

theorem sight_content_eq
    (hsteps : h.Answers s (⟨.probe (Text.Utf8.encode a.analyzer), analyzer⟩ ::
      ⟨.stat a.target, kind⟩ :: ⟨.readFile a.target, content⟩ :: rest) s') :
    (a.sight h s).content = content := by
  obtain ⟨probed, hprobe, hrest⟩ := Host.answers_cons_iff.mp hsteps
  obtain ⟨looked, hstat, hrest⟩ := Host.answers_cons_iff.mp hrest
  obtain ⟨_, hread, -⟩ := Host.answers_cons_iff.mp hrest
  rw [sight, hprobe, hstat, hread]

end Told

/-- A run that ends at its target reports what it was told. -/
theorem Refuses.targetFailure?_eq {h : Host σ} {s s' : σ} {a : Analysis} {steps : List Step}
    {f : Failure} (hrefuses : Refuses a steps f) (hsteps : h.Answers s steps s') :
    targetFailure? (.error f) = (a.sight h s).reported a.target := by
  cases hrefuses with
  | analyzer e =>
    rw [Sight.reported, sight_analyzer_eq hsteps]
    rfl
  | @target kind hkind =>
    rw [Sight.reported, sight_analyzer_eq hsteps, sight_kind_eq hsteps]
    cases kind with
    | error e => rfl
    | ok kind =>
      cases kind with
      | regular => exact absurd rfl hkind
      | directory | other => rfl
  | content e =>
    rw [Sight.reported, sight_analyzer_eq hsteps, sight_kind_eq hsteps, sight_content_eq hsteps]
    exact targetFailure?_ofTargetError a.target e

/-- A run puts a failure down to its target as it was told by the system, except that every error of
the looking counts as a missing target. -/
theorem targetFailure?_run (h : Host σ) (s : σ) (a : Analysis) (c : Catalogue) :
    targetFailure? ((a.run c).run.run h s).1 = (a.sight h s).reported a.target ∧
      (targetFailure? ((a.run c).run.run h s).1 = (a.sight h s).classified a.target ↔
        ¬ (a.sight h s).Blocked) := by
  have hcourse : a.Course c ((a.run c).run.trace h s) _ := run_course (yields_run (a.run c).run h s)
  have hsteps := h.answers_trace (a.run c).run s
  have hreported : targetFailure? ((a.run c).run.run h s).1 = (a.sight h s).reported a.target := by
    obtain ⟨f, hf, hrefuses⟩ | ⟨content, rest, htrace, hnone⟩ := hcourse.refuses_or_ready
    · rw [hf]
      exact hrefuses.targetFailure?_eq hsteps
    · rw [htrace] at hsteps
      rw [hnone, Sight.reported, sight_analyzer_eq hsteps, sight_kind_eq hsteps,
        sight_content_eq hsteps]
  rw [hreported]
  exact ⟨rfl, Sight.reported_eq_classified_iff _ _⟩

/-- A workspace with a link to itself. -/
def linkLoop : Workspace := (Workspace.empty.link (Workspace.name "loop") (.ofString "loop")).2

/-- A run on the link by an analyzer that can be started. -/
def onLinkLoop : Analysis := ⟨"true", [], .ofString "loop", [], none, .ofString ".", none⟩

/-- The system says that there are too many links, and the run says that nothing is there. -/
theorem targetFailure?_linkLoop :
    (onLinkLoop.sight Workspace.host linkLoop).analyzer = .ok () ∧
      (onLinkLoop.sight Workspace.host linkLoop).kind =
        .error (.number Host.ErrorNumber.tooManyLinks) ∧
      ((onLinkLoop.run .standard).run.run Workspace.host linkLoop).1 =
        .error (.targetMissing onLinkLoop.target) ∧
      targetFailure? ((onLinkLoop.run .standard).run.run Workspace.host linkLoop).1 ≠
        (onLinkLoop.sight Workspace.host linkLoop).classified onLinkLoop.target := by
  have hanalyzer : (onLinkLoop.sight Workspace.host linkLoop).analyzer = .ok () := by cbv
  have hkind : (onLinkLoop.sight Workspace.host linkLoop).kind =
      .error (.number Host.ErrorNumber.tooManyLinks) := by cbv
  have hrun : ((onLinkLoop.run .standard).run.run Workspace.host linkLoop).1 =
      .error (.targetMissing onLinkLoop.target) := by cbv
  refine ⟨hanalyzer, hkind, hrun, ?_⟩
  rw [hrun, Sight.classified, hanalyzer, hkind]
  decide

end Analysis
end DefectGate
