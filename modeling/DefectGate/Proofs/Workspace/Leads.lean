import DefectGate.Proofs.Checked
import DefectGate.Proofs.Path.Parents
import DefectGate.Proofs.Workspace.Walks

/-! # Operations at the end of a path

Every operation is at the location to which its path leads: what it finds there decides whether it
succeeds, and what it changes is there.
-/
namespace DefectGate.Workspace.Files
open Host (Path)

variable {f g k : Files} {follow : Bool} {path : Path} {l m : Location} {n : Node}

section Trees

theorem ne_root_of_node?_eq_none (h : f.node? l = none) : l ≠ [] := by
  rintro rfl
  cases h

theorem within_refl (f : Files) : Within f f := ⟨rfl, id⟩

theorem Within.trans (hfg : Within f g) (hgk : Within g k) : Within f k :=
  ⟨hgk.here.trans hfg.here, fun h => hgk.node (hfg.node h)⟩

theorem within_set (n : Node) (h : f.node? l = none) : Within f (f.set l n) := by
  refine ⟨rfl, fun {m n'} hm => ?_⟩
  have hne : m ≠ l := by
    rintro rfl
    rw [h] at hm
    cases hm
  rwa [f.node?_set_of_ne n hne]

theorem within_erase (hl : l ≠ []) : Within (f.erase l) f := by
  refine ⟨rfl, fun {m n'} hm => ?_⟩
  have hne : m ≠ l := by
    rintro rfl
    rw [f.node?_erase_self hl] at hm
    cases hm
  rwa [f.node?_erase_of_ne hne] at hm

theorem erase_of_free (h : f.node? l = none) : f.erase l = f := by
  have hfind : f.entries.find? (·.1 = l) = none := by
    simpa [node?, ne_root_of_node?_eq_none h] using h
  have hentries : f.entries.filter (·.1 ≠ l) = f.entries :=
    List.filter_eq_self.mpr fun e he => by simpa using List.find?_eq_none.mp hfind e he
  rw [erase, hentries]

theorem erase_erase (f : Files) (l : Location) : (f.erase l).erase l = f.erase l := by
  simp [erase]

theorem erase_set (f : Files) (l : Location) (n : Node) : (f.set l n).erase l = f.erase l := by
  simp [erase, set]

theorem set_erase (f : Files) (l : Location) (n : Node) : (f.erase l).set l n = f.set l n := by
  rw [set, erase_erase]
  rfl

theorem set_set (f : Files) (l : Location) (n n' : Node) : (f.set l n).set l n' = f.set l n' := by
  rw [← set_erase, erase_set, set_erase]

theorem append_set (hl : l ≠ []) (content : Content) (executable : Bool) (bs : Bytes) :
    (f.set l (.file content executable)).append l bs =
      f.set l (.file (content.append bs) executable) := by
  rw [append, node?_set_self f _ hl]
  exact set_set f l _ _

end Trees

/-- A path that leads to a location. -/
structure Leads (f : Files) (follow : Bool) (path : Path) (l : Location) : Prop where
  taken : checked path = .ok path
  walks : f.Walks follow mostLinks (startOf f.here path.bytes) (names path.bytes) l

theorem checked_ok_iff {q : Path} :
    checked path = .ok q ↔
      q = path ∧ 0 ∉ path.bytes ∧ path.bytes ≠ [] ∧ path.bytes.length ≤ longestPath := by
  rw [checked]
  split_ifs with hzero hnil hlong
  · simp [hzero]
  · simp [hnil]
  · simp [hlong]
  · simp [hzero, hnil, Nat.not_lt.mp hlong, eq_comm]

theorem locate_eq_ok_iff : f.locate follow path = .ok l ↔ f.Leads follow path l := by
  rw [locate]
  cases hchecked : checked path with
  | error e =>
    constructor
    · rintro ⟨⟩
    · rintro ⟨htaken, -⟩
      rw [hchecked] at htaken
      cases htaken
  | ok q =>
    obtain rfl := (checked_ok_iff.mp hchecked).1
    exact walk_eq_ok_iff.trans ⟨fun h => ⟨hchecked, h⟩, Leads.walks⟩

theorem Leads.unique (hl : f.Leads follow path l) (hm : f.Leads follow path m) : l = m := by
  have hlm := (locate_eq_ok_iff.mpr hl).symm.trans (locate_eq_ok_iff.mpr hm)
  exact Except.ok.inj hlm

theorem Leads.mono (h : f.Leads follow path l) (hfg : Within f g)
    (hl : follow = true → ∀ target, g.node? l ≠ some (.link target)) : g.Leads follow path l := by
  refine ⟨h.taken, ?_⟩
  rw [hfg.here]
  exact h.walks.mono hfg hl

theorem Leads.mono_of_directory (h : f.Leads follow path l) (hfg : Within f g)
    (hn : f.node? l = some .directory) : g.Leads follow path l := by
  refine h.mono hfg fun _ target hlink => ?_
  rw [hfg.node hn] at hlink
  cases hlink

theorem Leads.followed (h : f.Leads follow path l)
    (hl : ∀ target, f.node? l ≠ some (.link target)) : f.Leads true path l :=
  ⟨h.taken, h.walks.followed hl⟩

theorem Leads.unfollowed (h : f.Leads follow path l) :
    ∃ m, f.Leads false path m ∧ (m = l ∨ ∃ target, f.node? m = some (.link target)) := by
  obtain ⟨m, hm, hend⟩ := h.walks.unfollowed
  exact ⟨m, ⟨h.taken, hm⟩, hend⟩

/-- A path above leads to a directory. -/
theorem Leads.above {q : Path} (h : f.Leads follow path l) (hq : q.Above path)
    (hne : q.bytes ≠ []) : ∃ top, f.Leads true q top ∧ f.node? top = some .directory := by
  obtain ⟨hbegins, more, hmore, hnames⟩ := hq.begins hne
  obtain ⟨-, hzero, -, hlong⟩ := checked_ok_iff.mp h.taken
  have htaken : checked q = .ok q := checked_ok_iff.mpr
    ⟨rfl, fun hmem => hzero (hbegins.mem hmem), hne, hbegins.length_le.trans hlong⟩
  have hstart : startOf f.here path.bytes = startOf f.here q.bytes := by
    obtain ⟨rest, hrest⟩ := hbegins
    rw [startOf, startOf, ← hrest]
    simp [Path.isAbsolute, List.head?_append_of_ne_nil _ hne]
  have hwalks := h.walks
  rw [hnames, hstart] at hwalks
  obtain ⟨top, htop, hdir⟩ := hwalks.start hmore
  obtain ⟨n, hn, hdir⟩ := (Option.any_eq_true _ _).mp hdir
  refine ⟨top, ⟨htaken, htop⟩, ?_⟩
  cases n with
  | directory => exact hn
  | _ => cases hdir

theorem leads_of_fileSpot (h : f.fileSpot path = .ok l) :
    f.Leads true path l ∧ meansDirectory path = false ∧ l ≠ [] := by
  rw [fileSpot] at h
  cases hchecked : checked path with
  | error e =>
    rw [hchecked] at h
    cases h
  | ok q =>
    obtain rfl := (checked_ok_iff.mp hchecked).1
    rw [hchecked] at h
    obtain ⟨hwalks, hslash, hl⟩ := walks_of_walkToFile h
    exact ⟨⟨hchecked, hwalks⟩, hslash, hl⟩

section Operations

theorem find_of_directory (h : f.Leads true path l) (hn : f.node? l = some .directory) :
    f.find path = .ok (l, .directory) := by
  refine Checked.bind_eq_ok_iff.mpr ⟨l, locate_eq_ok_iff.mpr h, ?_⟩
  rw [hn]
  rfl

theorem find_of_file {content : Content} {executable : Bool} (h : f.Leads true path l)
    (hn : f.node? l = some (.file content executable)) (hslash : meansDirectory path = false) :
    f.find path = .ok (l, .file content executable) := by
  refine Checked.bind_eq_ok_iff.mpr ⟨l, locate_eq_ok_iff.mpr h, ?_⟩
  simp only [hn, hslash]
  rfl

theorem node?_of_find (h : f.find path = .ok (l, n)) : f.node? l = some n := by
  obtain ⟨m, -, h⟩ := Checked.bind_eq_ok_iff.mp h
  split at h
  · cases h
  · rename_i hn
    cases h
    exact hn
  · rename_i n' hdir hn
    split_ifs at h
    cases h
    exact hn

theorem freeSpot_eq_ok_iff :
    f.freeSpot path = .ok l ↔ f.Leads false path l ∧ f.node? l = none := by
  rw [freeSpot, Checked.bind_eq_ok_iff]
  simp only [locate_eq_ok_iff]
  constructor
  · rintro ⟨m, hm, h⟩
    split at h
    · rename_i hn
      cases h
      exact ⟨hm, hn⟩
    · cases h
  · rintro ⟨hl, hn⟩
    exact ⟨l, hl, by rw [hn]; rfl⟩

theorem makeDirectory_eq_ok_iff :
    f.makeDirectory path = .ok g ↔
      ∃ l, f.Leads false path l ∧ f.node? l = none ∧ g = f.set l .directory := by
  rw [makeDirectory, Checked.bind_eq_ok_iff]
  constructor
  · rintro ⟨l, hl, h⟩
    obtain ⟨hleads, hn⟩ := freeSpot_eq_ok_iff.mp hl
    exact ⟨l, hleads, hn, (Except.ok.inj h).symm⟩
  · rintro ⟨l, hleads, hn, rfl⟩
    exact ⟨l, freeSpot_eq_ok_iff.mpr ⟨hleads, hn⟩, rfl⟩

theorem makeDirectory_of_bound (h : f.Leads false path l) (hn : f.node? l = some n) :
    f.makeDirectory path = .error alreadyThere := by
  have hspot : f.freeSpot path = .error alreadyThere := by
    rewrite [freeSpot, locate_eq_ok_iff.mpr h, Checked.ok_bind, hn]
    rfl
  rw [makeDirectory, hspot]
  rfl

theorem unlink_ok (h : f.unlink path = .ok g) :
    ∃ l n, f.Leads false path l ∧ f.node? l = some n ∧ n ≠ .directory ∧ g = f.erase l := by
  obtain ⟨l, hl, h⟩ := Checked.bind_eq_ok_iff.mp h
  split at h
  · cases h
  · cases h
  · rename_i n hdir hn
    split_ifs at h
    exact ⟨l, n, locate_eq_ok_iff.mp hl, hn, hdir, (Except.ok.inj h).symm⟩

theorem unlink_of_file {content : Content} {executable : Bool} (h : f.Leads false path l)
    (hn : f.node? l = some (.file content executable)) (hslash : meansDirectory path = false) :
    f.unlink path = .ok (f.erase l) := by
  refine Checked.bind_eq_ok_iff.mpr ⟨l, locate_eq_ok_iff.mpr h, ?_⟩
  simp only [hn, hslash]
  rfl

theorem node?_of_unlink_notFound {e : Host.Error} (h : f.unlink path = .error e)
    (he : e.isNotFound) (hl : f.Leads false path l) : f.node? l = none := by
  rw [unlink, locate_eq_ok_iff.mpr hl, Checked.ok_bind] at h
  split at h
  · assumption
  · cases h
    cases he
  · split_ifs at h
    · cases h
      cases he
    · cases h

theorem fileSpot_of_create (h : f.create path = .ok (l, g)) : f.fileSpot path = .ok l := by
  obtain ⟨m, hm, h⟩ := Checked.bind_eq_ok_iff.mp h
  rw [hm]
  split at h <;> cases h <;> rfl

theorem create_of_free (h : f.fileSpot path = .ok l) (hn : f.node? l = none) :
    f.create path = .ok (l, f.set l (.file .empty false)) := by
  refine Checked.bind_eq_ok_iff.mpr ⟨l, h, ?_⟩
  rw [hn]
  rfl

end Operations

end DefectGate.Workspace.Files
