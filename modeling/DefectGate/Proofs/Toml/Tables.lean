import DefectGate.Proofs.Toml.Entries
import DefectGate.Toml.Document

/-! # The table at the top of a document

Putting a document together keeps the names in its top table distinct, and what stands there as a
value is what a statement gave. So statements whose integers have 64 bits make up a document.
-/
namespace DefectGate.Toml

/-- Distinct names, and integers that have 64 bits with a sign. -/
structure Nodes.Sound (nodes : Nodes) : Prop where
  distinct : (nodes.map (·.1)).Nodup
  ranged : ∀ e ∈ nodes, ∀ v, e.2 = .value v → Ranged v

theorem assign_eq_put (name : String) (node : Node) (nodes : Nodes) :
    assign name node nodes = put name node nodes := by
  induction nodes with
  | nil => rfl
  | cons first nodes ih => rw [assign, put, ih]

namespace Nodes.Sound
variable {nodes : Nodes}

theorem nil : Sound [] := ⟨List.nodup_nil, by simp⟩

theorem lookup_eq_none_iff {name : String} : lookup name nodes = none ↔ name ∉ nodes.map (·.1) := by
  rw [lookup, Option.map_eq_none_iff, List.find?_eq_none, List.mem_map]
  simp only [decide_eq_true_eq, not_exists, not_and]

/-- A name that is new may be added at the end. -/
theorem append (h : Sound nodes) {name : String} {node : Node}
    (hname : (lookup name nodes).isSome = false) (hnode : ∀ v, node = .value v → Ranged v) :
    Sound (nodes ++ [(name, node)]) := by
  have hnew : name ∉ nodes.map (·.1) := lookup_eq_none_iff.mp (by simpa using hname)
  refine ⟨?_, fun e he v hv => ?_⟩
  · rw [List.map_append]
    exact List.nodup_append.mpr ⟨h.distinct, List.nodup_singleton _, by
      intro a ha b hb hab
      obtain rfl := List.mem_singleton.mp hb
      exact hnew (hab ▸ ha)⟩
  · rcases List.mem_append.mp he with hm | hm
    · exact h.ranged e hm v hv
    · obtain rfl := List.mem_singleton.mp hm
      exact hnode v hv

/-- A name may get a new meaning. -/
theorem assign (h : Sound nodes) (name : String) {node : Node}
    (hnode : ∀ v, node = .value v → Ranged v) : Sound (Toml.assign name node nodes) := by
  rw [assign_eq_put]
  refine ⟨nodup_put name node h.distinct, fun e he v hv => ?_⟩
  rcases mem_put he with rfl | hm
  · exact hnode v hv
  · exact h.ranged e hm v hv

theorem remove (h : Sound nodes) (name : String) : Sound (Toml.remove name nodes) :=
  ⟨h.distinct.sublist (List.filter_sublist.map _),
    fun e he => h.ranged e (List.mem_of_mem_filter he)⟩

/-- A change anywhere in a sound table leaves it sound if it does so where it is made: on the way
down only tables get new meanings. -/
theorem modifyAt {α : Type} {dotted : Bool} {change : Draft → Option (Draft × α)}
    {path : List String} {d d' : Draft} {a : α} (h : Sound d.entries)
    (hchange : ∀ t t' a, Sound t.entries → change t = some (t', a) → Sound t'.entries)
    (hd : Toml.modifyAt dotted change path d = some (d', a)) : Sound d'.entries := by
  cases path with
  | nil => exact hchange d d' a h hd
  | cons name path =>
    rw [Toml.modifyAt] at hd
    split at hd
    · cases hd
    · split at hd
      · cases hd
      · obtain ⟨⟨t, a'⟩, -, hd⟩ := Option.map_eq_some_iff.mp hd
        obtain ⟨rfl, -⟩ := Prod.mk.inj hd
        exact h.assign name fun v hv => by cases hv
    · split_ifs at hd
      obtain ⟨⟨t, a'⟩, -, hd⟩ := Option.map_eq_some_iff.mp hd
      obtain ⟨rfl, -⟩ := Prod.mk.inj hd
      exact h.assign name fun v hv => by cases hv

theorem modifyEntries {dotted : Bool} {change : Draft → Option Nodes} {path : List String}
    {d d' : Draft} (h : Sound d.entries)
    (hchange : ∀ t nodes, Sound t.entries → change t = some nodes → Sound nodes)
    (hd : Toml.modifyEntries dotted change path d = some d') : Sound d'.entries := by
  obtain ⟨⟨d'', u⟩, hmodify, rfl⟩ := Option.map_eq_some_iff.mp hd
  refine h.modifyAt (fun t t' a ht ht' => ?_) hmodify
  obtain ⟨nodes, hnodes, heq⟩ := Option.map_eq_some_iff.mp ht'
  obtain ⟨rfl, -⟩ := Prod.mk.inj heq
  exact hchange t nodes ht hnodes

theorem addPair {path : List String} {key : String} {value : Toml} {d d' : Draft}
    (h : Sound d.entries) (hv : Ranged value) (hd : Toml.addPair path key value d = some d') :
    Sound d'.entries := by
  refine h.modifyEntries (fun t nodes ht hnodes => ?_) hd
  split_ifs at hnodes with hrefused
  obtain rfl := Option.some.inj hnodes
  refine ht.append (by simpa using (not_or.mp hrefused).2) fun v hnode => ?_
  obtain rfl := Node.value.inj hnode
  exact hv

end Nodes.Sound

namespace Assembly

/-- While the pairs go to the top table itself it is the current one, else it is the root. -/
def Sound (a : Assembly) : Prop :=
  match a.place with
  | .root => a.current.entries.Sound
  | _ => a.root.entries.Sound

theorem Sound.finish {a : Assembly} (h : a.Sound) {d : Draft} (hd : a.finish = some d) :
    Nodes.Sound d.entries := by
  obtain ⟨root, current, place⟩ := a
  cases place with
  | root =>
    obtain rfl := Option.some.inj hd
    exact h
  | table path key =>
    refine Nodes.Sound.modifyEntries h (fun t nodes ht hnodes => ?_) hd
    split_ifs at hnodes with hknown
    obtain rfl := Option.some.inj hnodes
    exact ht.append (by simpa using hknown) fun v hv => by cases hv
  | element path key =>
    refine Nodes.Sound.modifyEntries h (fun t nodes ht hnodes => ?_) hd
    split at hnodes
    · obtain rfl := Option.some.inj hnodes
      exact ht.assign key fun v hv => by cases hv
    · cases hnodes

theorem sound_beginTable {path : List String} {key : String} {root root' : Draft} {nodes : Nodes}
    (h : Nodes.Sound root.entries) (hb : beginTable path key root = some (root', nodes)) :
    Nodes.Sound root'.entries := by
  refine h.modifyAt (fun t t' nodes ht ht' => ?_) hb
  split at ht'
  · obtain ⟨rfl, -⟩ := Prod.mk.inj (Option.some.inj ht')
    exact ht
  · obtain ⟨rfl, -⟩ := Prod.mk.inj (Option.some.inj ht')
    exact ht.remove key
  · cases ht'

theorem sound_beginElement {path : List String} {key : String} {root root' : Draft}
    (h : Nodes.Sound root.entries) (hb : beginElement path key root = some root') :
    Nodes.Sound root'.entries := by
  refine h.modifyEntries (fun t nodes ht hnodes => ?_) hb
  split at hnodes
  case h_1 hnew =>
    obtain rfl := Option.some.inj hnodes
    exact ht.append (by rw [hnew]; rfl) fun v hv => by cases hv
  case h_2 =>
    obtain rfl := Option.some.inj hnodes
    exact ht
  case h_3 => cases hnodes

theorem Sound.step {a a' : Assembly} (h : a.Sound) {s : Statement}
    (hs : ∀ path key v, s = .pair path key v → Ranged v) (ha : a.step s = some a') : a'.Sound := by
  cases s with
  | pair path key v =>
    obtain ⟨current, hadd, heq⟩ := Option.bind_eq_some_iff.mp ha
    obtain rfl := Option.some.inj heq
    obtain ⟨root, before, place⟩ := a
    cases place with
    | root => exact Nodes.Sound.addPair h (hs path key v rfl) hadd
    | _ => exact h
  | table path key =>
    obtain ⟨root, hfinish, hrest⟩ := Option.bind_eq_some_iff.mp ha
    obtain ⟨⟨root', nodes⟩, hbegin, heq⟩ := Option.bind_eq_some_iff.mp hrest
    obtain rfl := Option.some.inj heq
    exact sound_beginTable (h.finish hfinish) hbegin
  | element path key =>
    obtain ⟨root, hfinish, hrest⟩ := Option.bind_eq_some_iff.mp ha
    obtain ⟨root', hbegin, heq⟩ := Option.bind_eq_some_iff.mp hrest
    obtain rfl := Option.some.inj heq
    exact sound_beginElement (h.finish hfinish) hbegin

theorem Sound.run {a a' : Assembly} (h : a.Sound) {statements : List Statement}
    (hs : ∀ path key v, .pair path key v ∈ statements → Ranged v)
    (ha : a.run statements = some a') : a'.Sound := by
  induction statements generalizing a with
  | nil =>
    obtain rfl := Option.some.inj ha
    exact h
  | cons s statements ih =>
    rw [Assembly.run] at ha
    split at ha
    · cases ha
    case h_2 next hstep =>
      refine ih (h.step (fun path key v hpair => ?_) hstep) (fun path key v hmem => ?_) ha
      · exact hs path key v (hpair ▸ List.mem_cons_self)
      · exact hs path key v (List.mem_cons_of_mem _ hmem)

end Assembly

theorem toEntries_eq_map (nodes : Nodes) :
    Node.toEntries nodes = nodes.map fun e => (e.1, e.2.toToml) := by
  induction nodes with
  | nil => rfl
  | cons e nodes ih => rw [Node.toEntries, ih, List.map_cons]

/-- What is put together from statements is a document. -/
theorem exists_document_of_statements {statements : List Statement} {entries : Entries}
    (hs : ∀ path key v, .pair path key v ∈ statements → Ranged v)
    (h : ofStatements? statements = some entries) : ∃ d : Document, d.entries = entries := by
  obtain ⟨a, hrun, hrest⟩ := Option.bind_eq_some_iff.mp h
  obtain ⟨top, hfinish, heq⟩ := Option.bind_eq_some_iff.mp hrest
  obtain rfl := Option.some.inj heq
  have hstart : Assembly.start.Sound := Nodes.Sound.nil
  have htop : Nodes.Sound top.entries := (hstart.run hs hrun).finish hfinish
  rw [toEntries_eq_map]
  refine ⟨⟨_, ?_, fun e he n hn => ?_⟩, rfl⟩
  · rw [List.map_map]
    exact htop.distinct
  · obtain ⟨⟨name, node⟩, hmem, rfl⟩ := List.mem_map.mp he
    cases node with
    | value v => exact htop.ranged _ hmem v rfl n hn
    | table implicit dotted nodes => cases hn
    | elements tables => cases hn

end DefectGate.Toml
