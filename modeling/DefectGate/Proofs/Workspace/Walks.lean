import DefectGate.Workspace.Files
import Mathlib.Tactic

/-! # Where walks lead

The walks that reach a location, one case for each kind of name. A walk goes the same way in a tree
in which more stands; the names at its beginning lead to a directory; and a walk to a file that is
to be written is a walk that follows every link.
-/
namespace DefectGate.Workspace.Files
open Host (Path)

/-- Whatever stands in one tree stands in the other one too. -/
structure Within (f g : Files) : Prop where
  here : g.here = f.here
  node {l : Location} {n : Node} (h : f.node? l = some n) : g.node? l = some n

/-- A name that is looked up in a directory. -/
structure LooksUp (f : Files) (here : Location) (name : Bytes) : Prop where
  directory : f.isDirectory here
  ne_dot : name ≠ [Path.dot]
  ne_up : name ≠ [Path.dot, Path.dot]
  short : name.length ≤ longestName

/-- A walk that reaches a location. -/
inductive Walks (f : Files) (follow : Bool) : Nat → Location → List Bytes → Location → Prop where
  | done {links : Nat} {here : Location} : Walks f follow links here [] here
  | stay {links : Nat} {here l : Location} {rest : List Bytes} (hdir : f.isDirectory here)
      (h : Walks f follow links here rest l) : Walks f follow links here ([Path.dot] :: rest) l
  | up {links : Nat} {here l : Location} {rest : List Bytes} (hdir : f.isDirectory here)
      (h : Walks f follow links here.tail rest l) :
      Walks f follow links here ([Path.dot, Path.dot] :: rest) l
  | free {links : Nat} {here : Location} {name : Bytes} (hlook : f.LooksUp here name)
      (hnode : f.node? (name :: here) = none) : Walks f follow links here [name] (name :: here)
  | stop {links : Nat} {here : Location} {name target : Bytes} (hlook : f.LooksUp here name)
      (hnode : f.node? (name :: here) = some (.link target)) (hfollow : follow = false) :
      Walks f follow links here [name] (name :: here)
  | pass {links : Nat} {here l : Location} {name target : Bytes} {rest : List Bytes}
      (hlook : f.LooksUp here name) (hnode : f.node? (name :: here) = some (.link target))
      (hmore : follow = true ∨ rest ≠ [])
      (h : Walks f follow links (startOf here target) (linkNames target ++ rest) l) :
      Walks f follow (links + 1) here (name :: rest) l
  | enter {links : Nat} {here l : Location} {name : Bytes} {rest : List Bytes} {n : Node}
      (hlook : f.LooksUp here name) (hnode : f.node? (name :: here) = some n)
      (hlink : n.isLink = false) (h : Walks f follow links (name :: here) rest l) :
      Walks f follow links here (name :: rest) l

variable {f g : Files} {follow : Bool} {links : Nat} {here l : Location} {ns rest : List Bytes}

theorem isLink_eq_false {n : Node} (h : ∀ target, n = .link target → False) : n.isLink = false := by
  cases n with
  | link target => exact (h target rfl).elim
  | _ => rfl

theorem looksUp_of_not {name : Bytes} (hdir : ¬ (!f.isDirectory here) = true)
    (hdot : ¬ name = [Path.dot]) (hup : ¬ name = [Path.dot, Path.dot])
    (hshort : ¬ longestName < name.length) : f.LooksUp here name :=
  ⟨by simpa using hdir, hdot, hup, Nat.not_lt.mp hshort⟩

theorem walks_of_walk (h : f.walk follow links here ns = .ok l) :
    f.Walks follow links here ns l := by
  fun_induction walk f follow links here ns with
  | case1 links here =>
    cases h
    exact .done
  | case3 links here rest hdir ih => exact .stay (by simpa using hdir) (ih h)
  | case4 links here rest hdir _ ih => exact .up (by simpa using hdir) (ih h)
  | case6 links here name hdir hdot hup hshort hnode =>
    cases h
    exact .free (looksUp_of_not hdir hdot hup hshort) hnode
  | case8 links here name rest hdir hdot hup hshort target hnode hlast =>
    cases h
    obtain ⟨rfl, hfollow⟩ := hlast
    exact .stop (looksUp_of_not hdir hdot hup hshort) hnode (by simpa using hfollow)
  | case10 links here name rest hdir hdot hup hshort target hnode hmore hlinks ih =>
    obtain ⟨links, rfl⟩ := Nat.exists_eq_succ_of_ne_zero hlinks
    have hmore : follow = true ∨ rest ≠ [] := by
      cases follow
      · exact .inr (by simpa using hmore)
      · exact .inl rfl
    exact .pass (looksUp_of_not hdir hdot hup hshort) hnode hmore (ih h)
  | case11 links here name rest hdir hdot hup hshort n hlink hnode ih =>
    exact .enter (looksUp_of_not hdir hdot hup hshort) hnode (isLink_eq_false hlink) (ih h)
  | _ => cases h

theorem LooksUp.walk_eq {name : Bytes} (h : f.LooksUp here name) :
    f.walk follow links here (name :: rest) =
      match f.node? (name :: here) with
      | none => if rest = [] then .ok (name :: here) else .error noEntry
      | some (.link target) =>
        if rest = [] ∧ !follow then .ok (name :: here)
        else if links = 0 then .error tooManyLinks
        else f.walk follow (links - 1) (startOf here target) (linkNames target ++ rest)
      | some _ => f.walk follow links (name :: here) rest := by
  have hshort : ¬ longestName < name.length := Nat.not_lt.mpr h.short
  rewrite [walk, if_neg (by simp [h.directory]), if_neg h.ne_dot, if_neg h.ne_up, if_neg hshort]
  rfl

theorem Walks.walk_eq (h : f.Walks follow links here ns l) :
    f.walk follow links here ns = .ok l := by
  induction h with
  | done => rw [walk]
  | stay hdir h ih => rw [walk, if_neg (by simp [hdir]), if_pos rfl, ih]
  | up hdir h ih =>
    rw [walk, if_neg (by simp [hdir]), if_neg (by decide), if_pos rfl, ih]
  | free hlook hnode =>
    rw [hlook.walk_eq, hnode]
    rfl
  | stop hlook hnode hfollow =>
    rw [hlook.walk_eq, hnode, hfollow]
    rfl
  | pass hlook hnode hmore h ih =>
    rw [hlook.walk_eq, hnode]
    dsimp only
    rw [if_neg (by simpa [or_comm, imp_iff_not_or] using hmore), if_neg (Nat.succ_ne_zero _)]
    exact ih
  | @enter links here l name rest n hlook hnode hlink h ih =>
    rw [hlook.walk_eq, hnode]
    cases n with
    | link target => cases hlink
    | _ => exact ih

theorem walk_eq_ok_iff : f.walk follow links here ns = .ok l ↔ f.Walks follow links here ns l :=
  ⟨walks_of_walk, Walks.walk_eq⟩

theorem Within.isDirectory (h : Within f g) (hl : f.isDirectory l) : g.isDirectory l := by
  obtain ⟨n, hn, hdir⟩ := (Option.any_eq_true _ _).mp hl
  exact (Option.any_eq_true _ _).mpr ⟨n, h.node hn, hdir⟩

theorem LooksUp.mono {name : Bytes} (h : f.LooksUp here name) (hfg : Within f g) :
    g.LooksUp here name := { h with directory := hfg.isDirectory h.directory }

/-- A walk goes the same way where more stands, unless a link was put at its end. -/
theorem Walks.mono (h : f.Walks follow links here ns l) (hfg : Within f g)
    (hl : follow = true → ∀ target, g.node? l ≠ some (.link target)) :
    g.Walks follow links here ns l := by
  induction h with
  | done => exact .done
  | stay hdir h ih => exact .stay (hfg.isDirectory hdir) (ih hl)
  | up hdir h ih => exact .up (hfg.isDirectory hdir) (ih hl)
  | @free links here name hlook hnode =>
    have hlook := hlook.mono hfg
    -- The end may have been taken since; a link there is either excluded or not followed.
    cases hg : g.node? (name :: here) with
    | none => exact .free hlook hg
    | some n =>
      cases hlink : n.isLink with
      | false => exact .enter hlook hg hlink .done
      | true =>
        cases n with
        | link target =>
          cases follow with
          | false => exact .stop hlook hg rfl
          | true => exact absurd hg (hl rfl target)
        | _ => cases hlink
  | stop hlook hnode hfollow => exact .stop (hlook.mono hfg) (hfg.node hnode) hfollow
  | pass hlook hnode hmore h ih => exact .pass (hlook.mono hfg) (hfg.node hnode) hmore (ih hl)
  | enter hlook hnode hlink h ih => exact .enter (hlook.mono hfg) (hfg.node hnode) hlink (ih hl)

/-- Where a walk does not end at a link, it makes no difference whether the last link is followed. -/
theorem Walks.followed (h : f.Walks follow links here ns l)
    (hl : ∀ target, f.node? l ≠ some (.link target)) : f.Walks true links here ns l := by
  induction h with
  | done => exact .done
  | stay hdir h ih => exact .stay hdir (ih hl)
  | up hdir h ih => exact .up hdir (ih hl)
  | free hlook hnode => exact .free hlook hnode
  | stop hlook hnode hfollow => exact absurd hnode (hl _)
  | pass hlook hnode hmore h ih => exact .pass hlook hnode (.inl rfl) (ih hl)
  | enter hlook hnode hlink h ih => exact .enter hlook hnode hlink (ih hl)

/-- A walk that does not follow the last link ends at the same location or at a link. -/
theorem Walks.unfollowed (h : f.Walks follow links here ns l) :
    ∃ m, f.Walks false links here ns m ∧ (m = l ∨ ∃ target, f.node? m = some (.link target)) := by
  induction h with
  | done => exact ⟨_, .done, .inl rfl⟩
  | stay hdir h ih =>
    obtain ⟨m, hm, hend⟩ := ih
    exact ⟨m, .stay hdir hm, hend⟩
  | up hdir h ih =>
    obtain ⟨m, hm, hend⟩ := ih
    exact ⟨m, .up hdir hm, hend⟩
  | free hlook hnode => exact ⟨_, .free hlook hnode, .inl rfl⟩
  | stop hlook hnode hfollow => exact ⟨_, .stop hlook hnode rfl, .inr ⟨_, hnode⟩⟩
  | @pass links here l name target rest hlook hnode hmore h ih =>
    by_cases hrest : rest = []
    · subst hrest
      exact ⟨_, .stop hlook hnode rfl, .inr ⟨_, hnode⟩⟩
    · obtain ⟨m, hm, hend⟩ := ih
      exact ⟨m, .pass hlook hnode (.inr hrest) hm, hend⟩
  | enter hlook hnode hlink h ih =>
    obtain ⟨m, hm, hend⟩ := ih
    exact ⟨m, .enter hlook hnode hlink hm, hend⟩

/-- The names at the beginning of a walk lead to a directory. -/
theorem Walks.start (h : f.Walks follow links here (ns ++ rest) l) (hrest : rest ≠ []) :
    ∃ top, f.Walks true links here ns top ∧ f.isDirectory top := by
  generalize hall : ns ++ rest = all at h
  induction h generalizing ns with
  | done => exact absurd (List.append_eq_nil_iff.mp hall).2 hrest
  | stay hdir h ih =>
    obtain ⟨rfl, -⟩ | ⟨ns, rfl, hns⟩ := List.append_eq_cons_iff.mp hall
    · exact ⟨_, .done, hdir⟩
    · obtain ⟨top, htop, htopdir⟩ := ih hns.symm
      exact ⟨top, .stay hdir htop, htopdir⟩
  | up hdir h ih =>
    obtain ⟨rfl, -⟩ | ⟨ns, rfl, hns⟩ := List.append_eq_cons_iff.mp hall
    · exact ⟨_, .done, hdir⟩
    · obtain ⟨top, htop, htopdir⟩ := ih hns.symm
      exact ⟨top, .up hdir htop, htopdir⟩
  | free hlook hnode =>
    obtain ⟨rfl, -⟩ | ⟨ns, rfl, hns⟩ := List.append_eq_cons_iff.mp hall
    · exact ⟨_, .done, hlook.directory⟩
    · exact absurd (List.append_eq_nil_iff.mp hns.symm).2 hrest
  | stop hlook hnode hfollow =>
    obtain ⟨rfl, -⟩ | ⟨ns, rfl, hns⟩ := List.append_eq_cons_iff.mp hall
    · exact ⟨_, .done, hlook.directory⟩
    · exact absurd (List.append_eq_nil_iff.mp hns.symm).2 hrest
  | pass hlook hnode hmore h ih =>
    -- What the link stands for joins the names before the split.
    obtain ⟨rfl, -⟩ | ⟨ns, rfl, rfl⟩ := List.append_eq_cons_iff.mp hall
    · exact ⟨_, .done, hlook.directory⟩
    · obtain ⟨top, htop, htopdir⟩ := ih (List.append_assoc _ _ _)
      exact ⟨top, .pass hlook hnode (.inl rfl) htop, htopdir⟩
  | enter hlook hnode hlink h ih =>
    obtain ⟨rfl, -⟩ | ⟨ns, rfl, hns⟩ := List.append_eq_cons_iff.mp hall
    · exact ⟨_, .done, hlook.directory⟩
    · obtain ⟨top, htop, htopdir⟩ := ih hns.symm
      exact ⟨top, .enter hlook hnode hlink htop, htopdir⟩

/-- A dot before another name changes nothing. -/
theorem Walks.insert_dot (h : f.Walks follow links here (ns ++ rest) l) (hrest : rest ≠ []) :
    f.Walks follow links here (ns ++ [Path.dot] :: rest) l := by
  generalize hall : ns ++ rest = all at h
  induction h generalizing ns with
  | done => exact absurd (List.append_eq_nil_iff.mp hall).2 hrest
  | stay hdir h ih =>
    obtain ⟨rfl, rfl⟩ | ⟨ns, rfl, hns⟩ := List.append_eq_cons_iff.mp hall
    · exact .stay hdir (.stay hdir h)
    · exact .stay hdir (ih hns.symm)
  | up hdir h ih =>
    obtain ⟨rfl, rfl⟩ | ⟨ns, rfl, hns⟩ := List.append_eq_cons_iff.mp hall
    · exact .stay hdir (.up hdir h)
    · exact .up hdir (ih hns.symm)
  | free hlook hnode =>
    obtain ⟨rfl, rfl⟩ | ⟨ns, rfl, hns⟩ := List.append_eq_cons_iff.mp hall
    · exact .stay hlook.directory (.free hlook hnode)
    · exact absurd (List.append_eq_nil_iff.mp hns.symm).2 hrest
  | stop hlook hnode hfollow =>
    obtain ⟨rfl, rfl⟩ | ⟨ns, rfl, hns⟩ := List.append_eq_cons_iff.mp hall
    · exact .stay hlook.directory (.stop hlook hnode hfollow)
    · exact absurd (List.append_eq_nil_iff.mp hns.symm).2 hrest
  | pass hlook hnode hmore h ih =>
    obtain ⟨rfl, rfl⟩ | ⟨ns, rfl, rfl⟩ := List.append_eq_cons_iff.mp hall
    · exact .stay hlook.directory (.pass hlook hnode hmore h)
    · have h := ih (List.append_assoc _ _ _)
      rw [List.append_assoc] at h
      exact .pass hlook hnode (.inr (by simp)) h
  | enter hlook hnode hlink h ih =>
    obtain ⟨rfl, rfl⟩ | ⟨ns, rfl, hns⟩ := List.append_eq_cons_iff.mp hall
    · exact .stay hlook.directory (.enter hlook hnode hlink h)
    · exact .enter hlook hnode hlink (ih hns.symm)

theorem linkNames_of_not_meansDirectory {target : Bytes} (h : meansDirectory ⟨target⟩ = false) :
    linkNames target = names target := by
  rw [linkNames, h]
  rfl

theorem linkNames_eq (target : Bytes) :
    linkNames target = names target ∨ linkNames target = names target ++ [[Path.dot]] := by
  rw [linkNames]
  split_ifs
  · exact .inr rfl
  · exact .inl rfl

theorem slash_eq_false_of_last {name : Bytes} {slash : Bool}
    (h : ¬ (([] : List Bytes) = [] ∧
      (slash = true ∨ name = [Path.dot] ∨ name = [Path.dot, Path.dot]))) : slash = false := by
  simp only [true_and, not_or, Bool.not_eq_true] at h
  exact h.1

/-- A file is written where a walk that follows every link leads, unless a directory is meant. -/
theorem walks_of_walkToFile {slash : Bool} (h : f.walkToFile links here ns slash = .ok l) :
    f.Walks true links here ns l ∧ slash = false ∧ l ≠ [] := by
  fun_induction walkToFile f links here ns slash with
  | case4 links here rest slash hdir hlast ih =>
    obtain ⟨h, hslash, hl⟩ := ih h
    exact ⟨.stay (by simpa using hdir) h, hslash, hl⟩
  | case5 links here rest slash hdir hlast _ ih =>
    obtain ⟨h, hslash, hl⟩ := ih h
    exact ⟨.up (by simpa using hdir) h, hslash, hl⟩
  | case7 links here name slash hdir hdot hup hshort hnode hlast =>
    cases h
    have hlook : f.LooksUp here name := looksUp_of_not hdir hdot hup hshort
    exact ⟨.free hlook hnode, slash_eq_false_of_last hlast, by simp⟩
  | case10 links here name rest slash hdir hlast hdot hup hshort target hnode hlinks ih =>
    obtain ⟨links, rfl⟩ := Nat.exists_eq_succ_of_ne_zero hlinks
    have hlook : f.LooksUp here name := looksUp_of_not hdir hdot hup hshort
    obtain ⟨h, hslash, hl⟩ := ih h
    -- A link at the end must not mean a directory itself; before the end its dot changes nothing.
    by_cases hrest : rest = []
    · subst hrest
      rw [← linkNames_of_not_meansDirectory hslash] at h
      exact ⟨.pass hlook hnode (.inl rfl) h, slash_eq_false_of_last hlast, hl⟩
    · rw [dif_neg hrest] at hslash
      refine ⟨.pass hlook hnode (.inl rfl) ?_, hslash, hl⟩
      obtain hnames | hnames := linkNames_eq target
      · rw [hnames]
        exact h
      · rw [hnames, List.append_assoc]
        exact h.insert_dot hrest
  | case11 links here name slash hdir hdot hup hshort n hlink hnode hlast =>
    cases h
    have hlook : f.LooksUp here name := looksUp_of_not hdir hdot hup hshort
    exact ⟨.enter hlook hnode (isLink_eq_false hlink) .done, slash_eq_false_of_last hlast, by simp⟩
  | case12 links here name rest slash hdir hlast hdot hup hshort n hlink hnode hrest ih =>
    have hlook : f.LooksUp here name := looksUp_of_not hdir hdot hup hshort
    obtain ⟨h, hslash, hl⟩ := ih h
    exact ⟨.enter hlook hnode (isLink_eq_false hlink) h, hslash, hl⟩
  | _ => cases h

end DefectGate.Workspace.Files
