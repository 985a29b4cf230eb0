import DefectGate.Proofs.Log.Storing
import DefectGate.Proofs.Program.Answers
import DefectGate.Proofs.Program.Success
import DefectGate.Proofs.Workspace.Replacement
import DefectGate.Workspace.Arrangement
import Mathlib

/-! # What a stored log leaves on disk

The directories above the log, then the removed old file, then the new one: the files after a log
was stored are those before it with directories added and one file put in its place. Storing it
again finds the directories, removes the file and makes the same one.
-/
namespace DefectGate
open Host (Path)
open Program
open Workspace (Files Location Node Content host)

/-- Content after lines were written to it one by one. -/
def Workspace.Content.appendLines (c : Content) (lines : List String) : Content :=
  lines.foldl (fun c line => c.append (Transcript.lineBytes line)) c

theorem Workspace.Content.bytes_appendLines (c : Content) (lines : List String) :
    (c.appendLines lines).bytes = c.bytes ++ lines.flatMap Transcript.lineBytes := by
  induction lines generalizing c with
  | nil => exact (List.append_nil _).symm
  | cons line lines ih =>
    change ((c.append _).appendLines lines).bytes = _
    rw [ih, Content.bytes_append, List.flatMap_cons, List.append_assoc]

namespace Workspace
variable {w w' : Workspace} {steps : List Step}

theorem answer_create {path : Path} {l : Location} {f : Files}
    (h : w.files.create path = .ok (l, f)) :
    host.answer (.create path) w =
      (.ok ⟨w.opened.length⟩, { w with files := f, opened := w.opened ++ [l] }) := by
  simp only [host, answer, h]

theorem answer_create_of_error {path : Path} {e : Host.Error}
    (h : w.files.create path = .error e) : host.answer (.create path) w = (.error e, w) := by
  simp only [host, answer, h]

theorem answer_write {file : Host.Handle} {l : Location} (h : w.opened[file.id]? = some l)
    (bytes : Bytes) :
    host.answer (.write file bytes) w = (.ok (), { w with files := w.files.append l bytes }) := by
  simp only [host, answer, h]

/-- Only what is asked of the files changes them. -/
theorem files_of_prints (hsteps : host.Answers w steps w')
    (hprints : ∀ step ∈ steps, ∃ bytes, step.call = .print bytes) : w'.files = w.files := by
  induction hsteps with
  | nil => rfl
  | @cons c w w' rest hrest ih =>
    obtain ⟨⟨bytes, rfl : c = .print bytes⟩, hafter⟩ := List.forall_mem_cons.mp hprints
    exact ih hafter

theorem grown_of_prepares {paths : List Path} (hsteps : host.Answers w steps w')
    (hprepares : ∀ step ∈ steps, Log.PreparesAmong paths step) :
    Files.Grown paths w.files w'.files := by
  induction hsteps with
  | nil w => exact Files.grown_refl paths w.files
  | @cons c w w' rest hrest ih =>
    obtain ⟨⟨path, hpath, hcall⟩, hprepares⟩ := List.forall_mem_cons.mp hprepares
    refine Files.Grown.trans ?_ (ih hprepares)
    rcases hcall with rfl | rfl
    · change Files.Grown paths w.files (w.settle (w.files.makeDirectory path)).2.files
      cases hmade : w.files.makeDirectory path with
      | error e => exact Files.grown_refl paths w.files
      | ok g => exact Files.grown_of_makeDirectory hmade hpath
    · exact Files.grown_refl paths w.files

end Workspace

namespace Log
open Workspace.Files (Grown Replacement alreadyThere append_set create_of_free fileSpot_of_create
  find_of_directory grown_refl makeDirectory_of_bound ne_root_of_node?_eq_none
  replacement_of_grown set_erase site_of_cleared)
variable {w w' : Workspace} {path directory : Path} {lines : List String}

theorem above_of_mem_ancestors {n : Nat} {q : Path} (hdirectory : directory.Above path)
    (hq : q ∈ ancestors n directory) : q.Above path := by
  induction n generalizing directory with
  | zero => rwa [List.mem_singleton.mp hq]
  | succ n ih =>
    rw [ancestors] at hq
    split at hq
    · rwa [List.mem_singleton.mp hq]
    · rename_i parent hparent
      rcases List.mem_cons.mp hq with rfl | hq
      · exact hdirectory
      · exact ih (.next hdirectory hparent) hq

theorem ancestors_eq_cons (n : Nat) (path : Path) : ∃ above, ancestors n path = path :: above := by
  cases n with
  | zero => exact ⟨[], rfl⟩
  | succ n =>
    rw [ancestors]
    split
    · exact ⟨[], rfl⟩
    · exact ⟨_, rfl⟩

theorem clear_run_ok_iff :
    (clear path).run.run host w = (.ok (), w') ↔
      (∃ g, w.files.unlink path = .ok g ∧ w' = { w with files := g }) ∨
        ∃ e, w.files.unlink path = .error e ∧ e.isNotFound ∧ w' = w := by
  rw [clear_eq, run_catch_ok_iff, run_ask]
  change w.settle (w.files.unlink path) = _ ∨ (∃ e mid, w.settle (w.files.unlink path) = _ ∧ _) ↔ _
  cases hunlink : w.files.unlink path with
  | ok g =>
    constructor
    · rintro (⟨⟨⟩⟩ | ⟨_, _, ⟨⟩, -⟩)
      exact .inl ⟨g, rfl, rfl⟩
    · rintro (⟨_, ⟨⟩, rfl⟩ | ⟨_, ⟨⟩, -⟩)
      exact .inl rfl
  | error e =>
    constructor
    · rintro (⟨⟨⟩⟩ | ⟨_, _, ⟨⟩, hhandle⟩)
      by_cases he : e.isNotFound = true
      · rw [if_pos he] at hhandle
        cases hhandle
        exact .inr ⟨e, rfl, he, rfl⟩
      · rw [if_neg he] at hhandle
        cases hhandle
    · rintro (⟨_, ⟨⟩, -⟩ | ⟨_, ⟨⟩, he, rfl⟩)
      refine .inr ⟨e, _, rfl, ?_⟩
      rw [if_pos he]
      rfl

/-- Lines written to an open file are added at its end. -/
theorem writeLines_run {file : Host.Handle} {f : Workspace.Files} {l : Location} {content : Content}
    {executable : Bool} (hl : l ≠ []) (hopen : w.opened[file.id]? = some l)
    (hfiles : w.files = f.set l (.file content executable)) :
    (writeLines file lines).run.run host w =
      (.ok (), { w with files := f.set l (.file (content.appendLines lines) executable) }) := by
  induction lines generalizing w content with
  | nil =>
    rw [Content.appendLines, List.foldl_nil, ← hfiles]
    rfl
  | cons line lines ih =>
    let grown : Workspace :=
      { w with files := f.set l (.file (content.append (Transcript.lineBytes line)) executable) }
    have hwrite : host.answer (.write file (Transcript.lineBytes line)) w = (.ok (), grown) := by
      rw [Workspace.answer_write hopen, hfiles, append_set hl]
    exact run_seq_ok_iff.mpr ⟨(), grown, hwrite, ih hopen rfl⟩

/-- Once the old file is out of the way, the new one is made with all its lines. -/
theorem replaceIn_run (lines : List String) {g : Workspace.Files} {l : Location}
    (hclear : (clear path).run.run host w = (.ok (), { w with files := g }))
    (hspot : g.fileSpot path = .ok l) (hfree : g.node? l = none) :
    ∃ w', (replaceIn path lines).run.run host w = (.ok (), w') ∧
      w'.files = g.set l (.file (Content.empty.appendLines lines) false) := by
  let created : Workspace :=
    { w with files := g.set l (.file .empty false), opened := w.opened ++ [l] }
  have hcreate : host.answer (.create path) { w with files := g } =
      (.ok ⟨w.opened.length⟩, created) :=
    Workspace.answer_create (create_of_free hspot hfree)
  have hopen : created.opened[w.opened.length]? = some l := List.getElem?_concat_length
  have hl : l ≠ [] := ne_root_of_node?_eq_none hfree
  let filled : Workspace :=
    { created with files := g.set l (.file (Content.empty.appendLines lines) false) }
  have hfill : (writeLines ⟨w.opened.length⟩ lines).run.run host created = (.ok (), filled) :=
    writeLines_run hl hopen rfl
  refine ⟨filled, ?_, rfl⟩
  refine run_seq_ok_iff.mpr ⟨(), _, hclear, ?_⟩
  refine run_seq_ok_iff.mpr ⟨_, created, hcreate, ?_⟩
  exact run_seq_ok_iff.mpr ⟨(), filled, hfill, rfl⟩

/-- A file that was replaced stands where the old one stood, and the rest of the tree is as it
was. -/
theorem files_of_replaceIn_ok (h : (replaceIn path lines).run.run host w = (.ok (), w')) :
    ∃ l, w.files.Site path l ∧
      w'.files = w.files.set l (.file (Content.empty.appendLines lines) false) := by
  obtain ⟨_, mid, hclear, hrest⟩ := run_seq_ok_iff.mp h
  obtain ⟨file, created, hcreate, -⟩ := run_seq_ok_iff.mp hrest
  obtain ⟨l, hspot⟩ : ∃ l, mid.files.fileSpot path = .ok l := by
    cases hmade : mid.files.create path with
    | error e =>
      rw [run_ask, Workspace.answer_create_of_error hmade] at hcreate
      cases hcreate
    | ok made => exact ⟨made.1, fileSpot_of_create hmade⟩
  have hcleared : mid = { w with files := mid.files } ∧
      (w.files.unlink path = .ok mid.files ∨
        mid.files = w.files ∧ ∃ e, w.files.unlink path = .error e ∧ e.isNotFound) := by
    obtain ⟨g, hunlink, rfl⟩ | ⟨e, hunlink, he, rfl⟩ := clear_run_ok_iff.mp hclear
    · exact ⟨rfl, .inl hunlink⟩
    · exact ⟨rfl, .inr ⟨rfl, e, hunlink, he⟩⟩
  obtain ⟨herase, hsite⟩ := site_of_cleared hcleared.2 hspot
  rw [hcleared.1, herase] at hclear
  obtain ⟨w'', hrun, hfiles⟩ := replaceIn_run lines hclear hsite.spot hsite.free
  rw [h] at hrun
  cases hrun
  exact ⟨l, hsite, hfiles.trans (set_erase ..)⟩

/-- Where a directory is already, making it and those above it changes nothing. -/
theorem makeDirectories_run
    (hthere : directory.bytes ≠ [] →
      ∃ top, w.files.Leads true directory top ∧ w.files.node? top = some .directory) :
    (makeDirectories directory).run.run host w = (.ok (), w) := by
  obtain ⟨above, habove⟩ := ancestors_eq_cons directory.bytes.length directory
  rw [makeDirectories, habove, makeChain]
  split
  · rfl
  rename_i hne
  obtain ⟨top, h, hn⟩ := hthere (by simpa [Path.isEmpty] using hne)
  have hmake : w.files.makeDirectory directory = .error alreadyThere := by
    obtain ⟨m, hm, rfl | ⟨target, hlink⟩⟩ := h.unfollowed
    · exact makeDirectory_of_bound hm hn
    · exact makeDirectory_of_bound hm hlink
  have hcall : host.answer (.makeDirectory directory) w =
      (.error alreadyThere, w) := by
    change w.settle (w.files.makeDirectory directory) = _
    rw [hmake]
    rfl
  have hstat : (isDirectory directory).run host w = (true, w) := by
    have hfind : w.files.find directory = .ok (top, .directory) :=
      find_of_directory h hn
    have hcall : (Call.stat directory).ask.run.run host w = (.ok .directory, w) := by
      rw [run_ask]
      change ((w.files.find directory).map _, w) = _
      rw [hfind]
      rfl
    exact run_bind_of_eq hcall
  refine run_catch_ok_iff.mpr (.inr ⟨_, w, hcall, ?_⟩)
  rw [if_neg (by decide)]
  exact run_seq_ok_iff.mpr ⟨true, w, run_lift_ok_iff.mpr hstat, rfl⟩

theorem replace_run_ok_iff :
    (replace path lines).run.run host w = (.ok (), w') ↔
      ∃ mid, (∀ directory, path.parent? = some directory →
          (makeDirectories directory).run.run host w = (.ok (), mid)) ∧
        (path.parent? = none → mid = w) ∧
        (replaceIn path lines).run.run host mid = (.ok (), w') := by
  rw [replace]
  cases path.parent? with
  | none =>
    constructor
    · intro h
      exact ⟨w, by simp, fun _ => rfl, h⟩
    · rintro ⟨mid, -, hmid, h⟩
      obtain rfl := hmid rfl
      exact h
  | some directory =>
    refine run_seq_ok_iff.trans ?_
    constructor
    · rintro ⟨_, mid, hmake, h⟩
      exact ⟨mid, by simpa using hmake, by simp, h⟩
    · rintro ⟨mid, hmake, -, h⟩
      exact ⟨(), mid, hmake directory rfl, h⟩

theorem store_run_ok_iff {t : Transcript} {log : LogFile} :
    (store t path).run.run host w = (.ok log, w') ↔
      log = ⟨path, t.length⟩ ∧ ∃ kept, (replace path t.lines).run.run host w = (.ok (), kept) ∧
        (Console.echo t.lines).run host kept = ((), w') := by
  refine run_seq_ok_iff.trans ?_
  simp only [run_adapt_ok_iff]
  constructor
  · rintro ⟨_, kept, hreplace, hrest⟩
    obtain ⟨_, shown, hecho, hdone⟩ := run_seq_ok_iff.mp hrest
    rw [run_lift_ok_iff] at hecho
    cases hdone
    exact ⟨rfl, kept, hreplace, hecho⟩
  · rintro ⟨rfl, kept, hreplace, hecho⟩
    exact ⟨(), kept, hreplace, run_seq_ok_iff.mpr ⟨(), w', run_lift_ok_iff.mpr hecho, rfl⟩⟩

theorem files_of_echo (w : Workspace) (lines : List String) :
    ((Console.echo lines).run host w).2.files = w.files :=
  Workspace.files_of_prints (host.answers_trace _ w)
    (Console.echo_shows (yields_run (Console.echo lines) host w)).printing

/-- Before a file is replaced, directories are made above it. -/
theorem grown_of_replace {mid : Workspace}
    (hmake : ∀ directory, path.parent? = some directory →
      (makeDirectories directory).run.run host w = (.ok (), mid))
    (hnone : path.parent? = none → mid = w) :
    ∃ paths, (∀ q ∈ paths, q.Above path) ∧
      Grown paths w.files mid.files := by
  cases hparent : path.parent? with
  | none =>
    rw [hnone hparent]
    exact ⟨[], by simp, grown_refl [] w.files⟩
  | some directory =>
    refine ⟨ancestors directory.bytes.length directory,
      fun q hq => above_of_mem_ancestors (.parent hparent) hq, ?_⟩
    have hsteps := host.answers_trace (makeDirectories directory).run w
    rw [hmake directory hparent] at hsteps
    exact Workspace.grown_of_prepares hsteps
      (makeChain_preparesAmong (yields_run (makeDirectories directory).run host w))

/-- Storing a log where it is stored already leaves the files as they are. -/
theorem store_run_again {t : Transcript} {f : Workspace.Files} {l : Location}
    (hsite : f.Site path l)
    (hfiles : w.files = f.set l (.file (Content.empty.appendLines t.lines) false)) :
    ∃ w', (store t path).run.run host w = (.ok ⟨path, t.length⟩, w') ∧ w'.files = w.files := by
  have hmake (directory : Path) (hparent : path.parent? = some directory) :
      (makeDirectories directory).run.run host w = (.ok (), w) := by
    refine makeDirectories_run fun hne => ?_
    obtain ⟨top, -, hset⟩ := hsite.above (.parent hparent) hne
    rw [hfiles]
    exact ⟨top, hset _⟩
  have hclear : (clear path).run.run host w = (.ok (), { w with files := f.erase l }) := by
    refine clear_run_ok_iff.mpr (.inl ⟨f.erase l, ?_, rfl⟩)
    rw [hfiles]
    exact hsite.unlink _ _
  obtain ⟨kept, hreplace, hkept⟩ := replaceIn_run t.lines hclear hsite.spot hsite.free
  have hreplace : (replace path t.lines).run.run host w = (.ok (), kept) :=
    replace_run_ok_iff.mpr ⟨w, hmake, fun _ => rfl, hreplace⟩
  refine ⟨_, store_run_ok_iff.mpr ⟨rfl, kept, hreplace, rfl⟩, ?_⟩
  rw [files_of_echo, hkept, set_erase, hfiles]

/-- A stored log has replaced whatever was at its path and nothing else, and storing it again
changes nothing. -/
theorem store_replaces (w : Workspace) (t : Transcript) (path : Path) (log : LogFile)
    (h : (w.perform (store t path).run).1 = .ok log) :
    let after := (w.perform (store t path).run).2
    log = ⟨path, t.length⟩ ∧ after.files.read path = .ok t.logBytes ∧
      (∃ l, Replacement path t.logBytes w.files after.files l) ∧
      (after.perform (store t path).run).1 = .ok log ∧
      (after.perform (store t path).run).2.files = after.files := by
  intro after
  have hrun : (store t path).run.run host w = (.ok log, after) := Prod.ext h rfl
  obtain ⟨rfl, kept, hreplace, hecho⟩ := store_run_ok_iff.mp hrun
  obtain ⟨mid, hmake, hnone, hreplace⟩ := replace_run_ok_iff.mp hreplace
  obtain ⟨paths, habove, hgrown⟩ := grown_of_replace hmake hnone
  obtain ⟨l, hsite, hkept⟩ := files_of_replaceIn_ok hreplace
  have hfiles : after.files = mid.files.set l (.file (Content.empty.appendLines t.lines) false) := by
    have hafter := files_of_echo kept t.lines
    rw [hecho] at hafter
    exact hafter.trans hkept
  have hreplacement : Replacement path t.logBytes w.files after.files l := by
    have hbytes : (Content.empty.appendLines t.lines).bytes = t.logBytes :=
      Content.bytes_appendLines .empty t.lines
    rw [hfiles, ← hbytes]
    exact replacement_of_grown hgrown habove hsite _
  obtain ⟨again, hagain, hsame⟩ := store_run_again hsite hfiles
  refine ⟨rfl, ?_, ⟨l, hreplacement⟩, ?_, ?_⟩
  · obtain ⟨content, hfind, hbytes⟩ := hreplacement.file
    refine Checked.bind_eq_ok_iff.mpr ⟨_, hfind, ?_⟩
    rw [← hbytes]
    rfl
  · exact congrArg Prod.fst hagain
  · exact (congrArg (·.2.files) hagain).trans hsame

/-- A workspace in which the path of the log is a link to another file. -/
def linkedLog : Workspace :=
  ((Workspace.empty.put (.ofString "old") [1, 2, 3] false).2.link (Workspace.name "old")
    (.ofString "run.log")).2

/-- The link is replaced, and the file that it led to stays. -/
theorem store_replaces_linkedLog :
    let stored := linkedLog.perform (store ⟨["a"]⟩ (.ofString "run.log")).run
    linkedLog.files.read (.ofString "run.log") = .ok [1, 2, 3] ∧
      stored.1 = .ok ⟨.ofString "run.log", 1⟩ ∧
      stored.2.files.read (.ofString "run.log") = .ok [97, 10] ∧
      stored.2.files.read (.ofString "old") = .ok [1, 2, 3] ∧
      ∃ l, Replacement (.ofString "run.log") [97, 10] linkedLog.files stored.2.files l := by
  have hbefore : linkedLog.files.read (.ofString "run.log") = .ok [1, 2, 3] := by cbv
  have hstored : (linkedLog.perform (store ⟨["a"]⟩ (.ofString "run.log")).run).1 =
      .ok ⟨.ofString "run.log", 1⟩ := by cbv
  have hold : (linkedLog.perform (store ⟨["a"]⟩ (.ofString "run.log")).run).2.files.read
      (.ofString "old") = .ok [1, 2, 3] := by cbv
  have hlog : Transcript.logBytes ⟨["a"]⟩ = [97, 10] := by decide
  obtain ⟨-, hread, hreplacement, -⟩ := store_replaces linkedLog ⟨["a"]⟩ _ _ hstored
  rw [hlog] at hread hreplacement
  exact ⟨hbefore, hstored, hread, hold, hreplacement⟩

end Log
end DefectGate
