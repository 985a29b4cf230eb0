import DefectGate.Toml.Basic
import Mathlib.Tactic

/-! # What a document says under a key

At its top a document is a list of entries with distinct keys, and an integer has 64 bits with a
sign. What the entries say under a key is then the same in every order, and setting one key leaves
what is said under the others.
-/
namespace DefectGate.Toml

section Put
variable {β : Type}

/-- Puts something under a key: in the place of what is there, or at the end. -/
def put (key : String) (b : β) : List (String × β) → List (String × β)
  | [] => [(key, b)]
  | e :: rest => if e.1 = key then (key, b) :: rest else e :: put key b rest

theorem mem_put {key : String} {b : β} {l : List (String × β)} {e : String × β}
    (h : e ∈ put key b l) : e = (key, b) ∨ e ∈ l := by
  induction l with
  | nil => exact .inl (List.mem_singleton.mp h)
  | cons first rest ih =>
    rw [put] at h
    split_ifs at h with hkey
    · rcases List.mem_cons.mp h with rfl | hm
      · exact .inl rfl
      · exact .inr (List.mem_cons_of_mem _ hm)
    · rcases List.mem_cons.mp h with rfl | hm
      · exact .inr List.mem_cons_self
      · exact (ih hm).imp_right (List.mem_cons_of_mem _)

theorem nodup_put (key : String) (b : β) {l : List (String × β)} (h : (l.map (·.1)).Nodup) :
    ((put key b l).map (·.1)).Nodup := by
  induction l with
  | nil => exact List.nodup_singleton _
  | cons first rest ih =>
    obtain ⟨hfirst, hrest⟩ := List.nodup_cons.mp h
    rw [put]
    split_ifs with hkey
    · exact hkey ▸ h
    · refine List.nodup_cons.mpr ⟨fun hmem => ?_, ih hrest⟩
      obtain ⟨e, he, hfst⟩ := List.mem_map.mp hmem
      rcases mem_put he with rfl | hm
      · exact hkey hfst.symm
      · exact hfirst (List.mem_map.mpr ⟨e, hm, hfst⟩)

end Put

/-- An integer has 64 bits with a sign. -/
def Ranged (v : Toml) : Prop := ∀ n : Int, v = .integer n → -2 ^ 63 ≤ n ∧ n < 2 ^ 63

theorem Ranged.of_ne {v : Toml} (h : ∀ n, v ≠ .integer n) : Ranged v := fun n hn => absurd hn (h n)

/-- The entries at the top of a document. -/
structure Document where
  entries : Entries
  distinct : (entries.map (·.1)).Nodup
  ranged : ∀ e ∈ entries, Ranged e.2

namespace Entries
variable {α : Type}

def value? (entries : Entries) (key : String) : Option Toml :=
  (entries.find? (·.1 = key)).map (·.2)

/-- What the entries say under a key, as far as it can be read, or else what stands for it. -/
def get (entries : Entries) (key : String) (read : Toml → Option α) (otherwise : α) : α :=
  ((entries.value? key).bind read).getD otherwise

theorem value?_cons (e : String × Toml) (entries : Entries) (key : String) :
    value? (e :: entries) key = if e.1 = key then some e.2 else entries.value? key := by
  by_cases h : e.1 = key <;> simp [value?, h]

theorem value?_eq_none_iff {entries : Entries} {key : String} :
    entries.value? key = none ↔ key ∉ entries.map (·.1) := by
  rw [value?, Option.map_eq_none_iff, List.find?_eq_none, List.mem_map]
  simp only [decide_eq_true_eq, not_exists, not_and]

theorem mem_of_value?_eq_some {entries : Entries} {key : String} {v : Toml}
    (h : entries.value? key = some v) : (key, v) ∈ entries := by
  obtain ⟨⟨key', v'⟩, hfind, rfl⟩ := Option.map_eq_some_iff.mp h
  obtain rfl : key' = key := by simpa using List.find?_some hfind
  exact List.mem_of_find?_eq_some hfind

theorem value?_eq_some_iff {entries : Entries} (hd : (entries.map (·.1)).Nodup) {key : String}
    {v : Toml} : entries.value? key = some v ↔ (key, v) ∈ entries := by
  refine ⟨mem_of_value?_eq_some, fun hmem => ?_⟩
  cases hfound : entries.value? key with
  | none => exact absurd (List.mem_map_of_mem hmem) (value?_eq_none_iff.mp hfound)
  | some w =>
    have hsame : (key, w) = (key, v) :=
      List.inj_on_of_nodup_map hd (mem_of_value?_eq_some hfound) hmem rfl
    rw [(Prod.mk.inj hsame).2]

theorem value?_perm {entries entries' : Entries} (hd : (entries.map (·.1)).Nodup)
    (h : entries'.Perm entries) (key : String) : entries'.value? key = entries.value? key := by
  have hd' : (entries'.map (·.1)).Nodup := (h.map _).nodup_iff.mpr hd
  ext v
  rw [value?_eq_some_iff hd', value?_eq_some_iff hd, h.mem_iff]

theorem get_congr {entries entries' : Entries} {key : String}
    (h : entries.value? key = entries'.value? key) (read : Toml → Option α) (otherwise : α) :
    entries.get key read otherwise = entries'.get key read otherwise := by
  rw [get, get, h]

@[simp] theorem get_nil (key : String) (read : Toml → Option α) (otherwise : α) :
    get [] key read otherwise = otherwise := rfl

@[simp] theorem get_singleton (key key' : String) (v : Toml) (read : Toml → Option α)
    (otherwise : α) :
    get [(key', v)] key read otherwise =
      if key' = key then (read v).getD otherwise else otherwise := by
  by_cases h : key' = key <;> simp [get, value?, h]

/-- With distinct keys it makes no difference whether the first entry is asked first or last. -/
theorem get_get_singleton {e : String × Toml} {entries : Entries} (h : e.1 ∉ entries.map (·.1))
    (key : String) (read : Toml → Option α) (otherwise : α) :
    entries.get key read (get [e] key read otherwise) = get (e :: entries) key read otherwise := by
  rw [get, get, get, value?_cons, value?_cons]
  by_cases he : e.1 = key
  · rw [if_pos he, if_pos he, value?_eq_none_iff.mpr (he ▸ h)]
    rfl
  · rw [if_neg he, if_neg he]
    rfl

theorem value?_put (key : String) (v : Toml) (entries : Entries) (other : String) :
    value? (put key v entries) other = if key = other then some v else entries.value? other := by
  induction entries with
  | nil => exact value?_cons (key, v) [] other
  | cons e entries ih =>
    rw [put]
    by_cases he : e.1 = key
    · rw [if_pos he, value?_cons, value?_cons, he]
      split_ifs <;> rfl
    · rw [if_neg he, value?_cons, value?_cons, ih]
      by_cases hother : e.1 = other
      · rw [if_pos hother, if_pos hother, if_neg (fun h => he (hother.trans h.symm))]
      · rw [if_neg hother, if_neg hother]

end Entries

namespace Document

/-- The document that says nothing. -/
def empty : Document := ⟨[], List.nodup_nil, by simp⟩

/-- A document with one key set. -/
def set (d : Document) (key : String) (v : Toml) (hv : Ranged v) : Document where
  entries := put key v d.entries
  distinct := nodup_put key v d.distinct
  ranged e he := by
    rcases mem_put he with rfl | hm
    · exact hv
    · exact d.ranged e hm

end Document
end DefectGate.Toml
