import DefectGate.Proofs.Workspace.Leads

/-! # Replacing what stands at a path

Directories are made above the path, what stands at its end is removed, and a file is made. Once the
end of the path is free it is no link any more, so the new file stands exactly where the old one
stood, and everywhere else the tree is what it was with the directories added.
-/
namespace DefectGate.Workspace.Files
open Host (Path)

variable {f g k before : Files} {path : Path} {paths : List Path} {l m : Location}

/-- Directories were made at the ends of some paths, and nothing else was done. -/
structure Grown (paths : List Path) (f g : Files) : Prop where
  within : Within f g
  new {l : Location} {n : Node} (hf : f.node? l = none) (hg : g.node? l = some n) :
    n = .directory ∧ ∃ q ∈ paths, g.Leads false q l

theorem grown_refl (paths : List Path) (f : Files) : Grown paths f f := by
  refine ⟨within_refl f, fun hf hg => ?_⟩
  rw [hf] at hg
  cases hg

theorem Grown.trans (hfg : Grown paths f g) (hgk : Grown paths g k) : Grown paths f k := by
  refine ⟨hfg.within.trans hgk.within, fun {l n} hf hk => ?_⟩
  cases hg : g.node? l with
  | none => exact hgk.new hg hk
  | some n' =>
    obtain ⟨rfl, q, hq, hleads⟩ := hfg.new hf hg
    obtain rfl : Node.directory = n := Option.some.inj ((hgk.within.node hg).symm.trans hk)
    exact ⟨rfl, q, hq, hleads.mono hgk.within nofun⟩

theorem grown_of_makeDirectory (h : f.makeDirectory path = .ok g) (hpath : path ∈ paths) :
    Grown paths f g := by
  obtain ⟨l, hleads, hfree, rfl⟩ := makeDirectory_eq_ok_iff.mp h
  have hwithin : Within f (f.set l .directory) := within_set _ hfree
  refine ⟨hwithin, fun {m n} hf hg => ?_⟩
  by_cases hm : m = l
  · subst hm
    rw [f.node?_set_self _ (ne_root_of_node?_eq_none hfree)] at hg
    exact ⟨(Option.some.inj hg).symm, path, hpath, hleads.mono hwithin nofun⟩
  · rw [f.node?_set_of_ne _ hm, hf] at hg
    cases hg

/-- Where a file is made at a path from which what stands there was removed. -/
structure Site (f : Files) (path : Path) (l : Location) : Prop where
  spot : (f.erase l).fileSpot path = .ok l
  leads : (f.erase l).Leads false path l

namespace Site

theorem ne_root (h : f.Site path l) : l ≠ [] := (leads_of_fileSpot h.spot).2.2

theorem not_meansDirectory (h : f.Site path l) : meansDirectory path = false :=
  (leads_of_fileSpot h.spot).2.1

theorem free (h : f.Site path l) : (f.erase l).node? l = none := f.node?_erase_self h.ne_root

theorem within_before (h : f.Site path l) : Within (f.erase l) f := within_erase h.ne_root

theorem within_after (h : f.Site path l) (n : Node) : Within (f.erase l) (f.set l n) := by
  rw [← set_erase]
  exact within_set n h.free

/-- A path above leads to the same directory before and after. -/
theorem above {q : Path} (h : f.Site path l) (hq : q.Above path) (hne : q.bytes ≠ []) :
    ∃ top, f.Leads true q top ∧
      ∀ n, (f.set l n).Leads true q top ∧ (f.set l n).node? top = some .directory := by
  obtain ⟨top, htop, hdir⟩ := (leads_of_fileSpot h.spot).1.above hq hne
  refine ⟨top, htop.mono_of_directory h.within_before hdir, fun n => ?_⟩
  exact ⟨htop.mono_of_directory (h.within_after n) hdir, (h.within_after n).node hdir⟩

theorem find (h : f.Site path l) (content : Content) (executable : Bool) :
    (f.set l (.file content executable)).find path = .ok (l, .file content executable) := by
  have hnode := f.node?_set_self (.file content executable) h.ne_root
  refine find_of_file ?_ hnode h.not_meansDirectory
  refine (leads_of_fileSpot h.spot).1.mono (h.within_after _) fun _ target hlink => ?_
  rw [hnode] at hlink
  cases hlink

theorem unlink (h : f.Site path l) (content : Content) (executable : Bool) :
    (f.set l (.file content executable)).unlink path = .ok (f.erase l) := by
  have hnode := f.node?_set_self (.file content executable) h.ne_root
  rw [unlink_of_file (h.leads.mono (h.within_after _) nofun) hnode h.not_meansDirectory, erase_set]

end Site

/-- A free end of a path is no link, so that a file is made right there. -/
theorem eq_of_free (hspot : g.fileSpot path = .ok l) (hgf : Within g f)
    (hm : f.Leads false path m) (hfree : g.node? m = none) : m = l ∧ g.Leads false path l := by
  obtain ⟨hleads, -, -⟩ := leads_of_fileSpot hspot
  obtain ⟨x, hx, hend⟩ := hleads.unfollowed
  obtain rfl : x = m := (hx.mono hgf nofun).unique hm
  obtain rfl | ⟨target, hlink⟩ := hend
  · exact ⟨rfl, hx⟩
  · rw [hfree] at hlink
    cases hlink

/-- Where a file is made after the old one was removed, or none was found, the old one stood. -/
theorem site_of_cleared
    (hclear : f.unlink path = .ok g ∨ g = f ∧ ∃ e, f.unlink path = .error e ∧ e.isNotFound)
    (hspot : g.fileSpot path = .ok l) : g = f.erase l ∧ f.Site path l := by
  obtain hunlink | ⟨rfl, e, hunlink, he⟩ := hclear
  · obtain ⟨m, n, hm, hn, hdir, rfl⟩ := unlink_ok hunlink
    have hne : m ≠ [] := by
      rintro rfl
      exact hdir (Option.some.inj hn).symm
    obtain ⟨rfl, hleads⟩ := eq_of_free hspot (within_erase hne) hm (f.node?_erase_self hne)
    exact ⟨rfl, hspot, hleads⟩
  · obtain ⟨m, hm, -⟩ := (leads_of_fileSpot hspot).1.unfollowed
    have hfree : g.node? m = none := node?_of_unlink_notFound hunlink he hm
    obtain ⟨rfl, hleads⟩ := eq_of_free hspot (within_refl g) hm hfree
    have herase : g.erase m = g := erase_of_free hfree
    exact ⟨herase.symm, by rwa [herase], by rwa [herase]⟩

/-- What storing bytes at a path does to the files. The path itself leads to a regular file that
holds the bytes; everywhere else there is what was there before, and what is new apart from the file
are directories above the path. -/
structure Replacement (path : Path) (bytes : Bytes) (before after : Files) (l : Location) :
    Prop where
  here : after.here = before.here
  /-- The path leads there by itself and not through a link at its end. -/
  spot : after.locate false path = .ok l
  file : ∃ content, after.find path = .ok (l, .file content false) ∧ content.bytes = bytes
  /-- What was at the end of the path, link or not, stood there. -/
  old {m : Location} (h : before.locate false path = .ok m) : m = l
  kept {m : Location} {n : Node} (hm : m ≠ l) (h : before.node? m = some n) :
    after.node? m = some n
  unfollowed {m : Location} {target : Bytes} {content : Content} {executable : Bool}
    (hlink : before.node? l = some (.link target))
    (h : before.find path = .ok (m, .file content executable)) :
    after.node? m = some (.file content executable)
  made {m : Location} {n : Node} (hm : m ≠ l) (hbefore : before.node? m = none)
    (h : after.node? m = some n) :
    n = .directory ∧ ∃ q, q.Above path ∧ after.find q = .ok (m, .directory)

theorem replacement_of_grown (hgrown : Grown paths before f) (habove : ∀ q ∈ paths, q.Above path)
    (hsite : f.Site path l) (content : Content) :
    Replacement path content.bytes before (f.set l (.file content false)) l := by
  have hkept {m : Location} {n : Node} (hm : m ≠ l) (h : before.node? m = some n) :
      (f.set l (.file content false)).node? m = some n := by
    rw [f.node?_set_of_ne _ hm]
    exact hgrown.within.node h
  refine ⟨hgrown.within.here, ?_, ⟨content, hsite.find content false, rfl⟩, ?_, hkept, ?_, ?_⟩
  · exact locate_eq_ok_iff.mpr (hsite.leads.mono (hsite.within_after _) nofun)
  · intro m hm
    have hm : f.Leads false path m := (locate_eq_ok_iff.mp hm).mono hgrown.within nofun
    exact hm.unique (hsite.leads.mono hsite.within_before nofun)
  · intro m target content executable hlink hfind
    have hm := node?_of_find hfind
    refine hkept ?_ hm
    rintro rfl
    rw [hlink] at hm
    cases hm
  · intro m n hm hbefore hafter
    rw [f.node?_set_of_ne _ hm] at hafter
    obtain ⟨rfl, q, hq, hqleads⟩ := hgrown.new hbefore hafter
    -- The walk to the file goes over the new directory, so its path leads there afterwards too.
    have hne : q.bytes ≠ [] := (checked_ok_iff.mp hqleads.taken).2.2.1
    obtain ⟨top, htop, hset⟩ := hsite.above (habove q hq) hne
    obtain ⟨hleads, hdir⟩ := hset (.file content false)
    have hqtrue : f.Leads true q m := by
      refine hqleads.followed fun target hlink => ?_
      rw [hafter] at hlink
      cases hlink
    obtain rfl : top = m := htop.unique hqtrue
    exact ⟨rfl, q, habove q hq, find_of_directory hleads hdir⟩

end DefectGate.Workspace.Files
