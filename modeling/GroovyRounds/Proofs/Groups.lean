import GroovyRounds.Proofs.OrderedMap
import GroovyRounds.Proofs.Build.Sources
import Mathlib.Data.List.Induction

/-!
# Maps that group

Pushing elements to the lists of a map one after another groups them: the keys
stand in the order in which they come first, and below each key its elements in
their order (`entries_pushAll`).
-/

namespace GroovyRounds.OrderedMap

variable {κ ν : Type} [DecidableEq κ] {m : OrderedMap κ ν} {k : κ} {v : ν}

theorem insertEntry_map {keys : List κ} (h : keys.Nodup) (value : κ → ν) :
    insertEntry k v (keys.map fun j => (j, value j)) =
      (if k ∈ keys then keys else keys ++ [k]).map fun j => (j, if j = k then v else value j) := by
  induction keys with
  | nil => simp [insertEntry]
  | cons j keys ih =>
    obtain ⟨hj, hkeys⟩ := List.nodup_cons.mp h
    by_cases heq : j = k
    · subst heq
      have hrest : keys.map (fun i => (i, if i = j then v else value i)) =
          keys.map fun i => (i, value i) := by
        refine List.map_congr_left fun i hi => ?_
        have hne : i ≠ j := fun heq => hj (heq ▸ hi)
        rw [if_neg hne]
      simp [insertEntry, hrest]
    · rw [List.map_cons, insertEntry, if_neg heq, ih hkeys]
      by_cases hk : k ∈ keys <;> simp [hk, heq, Ne.symm heq]

omit [DecidableEq κ] in
/-- What comes last is kept if it has not come before. -/
theorem eraseDups_concat [BEq κ] [LawfulBEq κ] (keys : List κ) (k : κ) :
    (keys ++ [k]).eraseDups =
      if k ∈ keys.eraseDups then keys.eraseDups else keys.eraseDups ++ [k] := by
  rw [List.eraseDups_append]
  by_cases hk : k ∈ keys
  · rw [if_pos (List.mem_eraseDups.mpr hk)]
    simp [List.removeAll, hk]
  · rw [if_neg (mt List.mem_eraseDups.mp hk)]
    simp [List.removeAll, hk, List.eraseDups_cons]

omit [DecidableEq κ] in
/-- It does not matter whether repetitions are dropped before or after. -/
theorem filter_eraseDups [BEq κ] [LawfulBEq κ] (p : κ → Bool) (keys : List κ) :
    keys.eraseDups.filter p = (keys.filter p).eraseDups := by
  induction keys using List.reverseRecOn with
  | nil => rfl
  | append_singleton keys k ih =>
    rw [eraseDups_concat, List.filter_append]
    by_cases hp : p k
    · rw [List.filter_singleton, hp, cond_true, eraseDups_concat, ← ih]
      by_cases hk : k ∈ keys.eraseDups <;> simp [hk, hp]
    · by_cases hk : k ∈ keys.eraseDups <;> simp [hk, hp, ih]

omit [DecidableEq κ] in
/-- What is dropped as a repetition would be dropped afterwards. -/
theorem eraseDups_map_eraseDups [BEq κ] [LawfulBEq κ] [BEq ν] [LawfulBEq ν] (f : κ → ν)
    (keys : List κ) : (keys.eraseDups.map f).eraseDups = (keys.map f).eraseDups := by
  induction keys using List.reverseRecOn with
  | nil => rfl
  | append_singleton keys k ih =>
    rw [eraseDups_concat, List.map_append, List.map_singleton, eraseDups_concat]
    by_cases hk : k ∈ keys.eraseDups
    · have hf : f k ∈ (keys.map f).eraseDups :=
        List.mem_eraseDups.mpr (List.mem_map_of_mem (List.mem_eraseDups.mp hk))
      rw [if_pos hk, if_pos hf, ih]
    · rw [if_neg hk, List.map_append, List.map_singleton, eraseDups_concat, ih]

theorem lookup_map_keys {keys : List κ} (value : κ → ν) :
    (keys.map fun j => (j, value j)).lookup k = if k ∈ keys then some (value k) else none := by
  induction keys with
  | nil => rfl
  | cons j keys ih => grind

/-- The items in groups by their keys, each key where it comes first. -/
def groups {ι : Type} (key : ι → κ) (value : ι → ν) (items : List ι) : List (κ × List ν) :=
  (items.map key).eraseDups.map fun k => (k, (items.filter (key · = k)).map value)

/-- A map to lists in which elements are pushed one after another groups them. -/
theorem entries_pushAll {ι : Type} (key : ι → κ) (value : ι → ν) (items : List ι) :
    (items.foldl (fun m item => m.alter (key item) [] (· ++ [value item])) empty).entries =
      groups key value items := by
  induction items using List.reverseRecOn with
  | nil => rfl
  | append_singleton items item ih =>
    rw [List.foldl_append, List.foldl_cons, List.foldl_nil]
    generalize items.foldl (fun m item => m.alter (key item) [] (· ++ [value item])) empty = m at ih
    have hmem {k : κ} : k ∈ (items.map key).eraseDups ↔ ∃ other ∈ items, key other = k := by
      rw [List.mem_eraseDups, List.mem_map]
    have hfound : (m.find? (key item)).getD [] =
        (items.filter (key · = key item)).map value := by
      rw [find?, ih, groups, lookup_map_keys]
      split
      · rfl
      · rename_i hk
        rw [hmem] at hk
        have hnone : items.filter (key · = key item) = [] := by
          rw [List.filter_eq_nil_iff]
          exact fun other hother heq => hk ⟨other, hother, by simpa using heq⟩
        rw [hnone]
        rfl
    rw [alter, hfound, insert, ih, groups, insertEntry_map (nodup_eraseDups _), groups,
      List.map_append, List.map_singleton, eraseDups_concat]
    refine List.map_congr_left fun k _ => ?_
    by_cases hk : k = key item
    · simp [hk]
    · simp [hk, Ne.symm hk]
end GroovyRounds.OrderedMap
