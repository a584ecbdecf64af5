import GroovyRounds.OrderedMap
import Mathlib.Data.List.Perm.Basic
import Mathlib.Data.List.Nodup

/-!
# What is in a map

A map holds every key once. Putting pairs in one after another makes a map of
just these pairs if no key comes with two values (`mem_entries_insertAll`).
A map to lists, seen as the list of its elements with their keys, grows by one
element at a time (`elements_push`).
-/

namespace GroovyRounds

/-- What is looked up in a list of pairs stands in it. -/
theorem mem_of_lookup {κ ν : Type} [BEq κ] [LawfulBEq κ] {pairs : List (κ × ν)} {k : κ}
    {v : ν} (h : pairs.lookup k = some v) : (k, v) ∈ pairs := by
  obtain ⟨front, back, rfl, -⟩ := List.lookup_eq_some_iff.mp h
  exact List.mem_append_right _ List.mem_cons_self

namespace OrderedMap

variable {κ ν : Type} [DecidableEq κ] {m : OrderedMap κ ν} {k : κ} {v : ν}

-- ---------------------------------------------------------------------------
-- Keys
-- ---------------------------------------------------------------------------

theorem mem_keys_iff : k ∈ m.keys ↔ m.find? k ≠ none := by
  rw [find?, ne_eq, List.lookup_eq_none_iff, keys]
  simp

theorem keys_insertEntry (es : List (κ × ν)) :
    (insertEntry k v es).map (·.1) =
      if k ∈ es.map (·.1) then es.map (·.1) else es.map (·.1) ++ [k] := by
  induction es with
  | nil => simp [insertEntry]
  | cons e es ih =>
    obtain ⟨j, w⟩ := e
    by_cases hj : j = k
    · simp [insertEntry, hj]
    · by_cases hk : k ∈ es.map (·.1)
      · have hmem : k ∈ ((j, w) :: es).map (·.1) := List.mem_cons_of_mem _ hk
        rw [if_pos hmem, insertEntry, if_neg hj, List.map_cons, ih, if_pos hk]
        rfl
      · have hmem : k ∉ ((j, w) :: es).map (·.1) := by
          simpa [Ne.symm hj] using hk
        rw [if_neg hmem, insertEntry, if_neg hj, List.map_cons, ih, if_neg hk]
        rfl

theorem keys_insert : (m.insert k v).keys = if k ∈ m.keys then m.keys else m.keys ++ [k] :=
  keys_insertEntry m.entries

/-- A known key keeps its place. -/
theorem insertEntry_append_cons {front : List (κ × ν)} (h : k ∉ front.map (·.1)) (w : ν)
    (es : List (κ × ν)) : insertEntry k v (front ++ (k, w) :: es) = front ++ (k, v) :: es := by
  induction front with
  | nil => simp [insertEntry]
  | cons e front ih =>
    obtain ⟨j, u⟩ := e
    rw [List.map_cons, List.mem_cons, not_or] at h
    rw [List.cons_append, insertEntry, if_neg (Ne.symm h.1), ih h.2, List.cons_append]

/-- Of two values that a key gets, it has the later one. -/
theorem insert_insert (m : OrderedMap κ ν) (k : κ) (v w : ν) :
    (m.insert k v).insert k w = m.insert k w := by
  have hentries (es : List (κ × ν)) :
      insertEntry k w (insertEntry k v es) = insertEntry k w es := by
    induction es with
    | nil => simp [insertEntry]
    | cons e es ih =>
      obtain ⟨j, u⟩ := e
      by_cases hj : j = k <;> simp [insertEntry, hj, ih]
  exact congrArg OrderedMap.mk (hentries m.entries)

theorem nodup_keys_insert (h : m.keys.Nodup) : (m.insert k v).keys.Nodup := by
  rw [keys_insert]
  split
  · exact h
  · rename_i hk
    refine List.nodup_append.mpr ⟨h, List.nodup_singleton k, fun a ha b hb hab => hk ?_⟩
    rw [List.mem_singleton] at hb
    rwa [← hb, ← hab]

theorem find?_erase (m : OrderedMap κ ν) (k j : κ) :
    (m.erase k).find? j = if j = k then none else m.find? j := by
  obtain ⟨es⟩ := m
  simp only [find?, erase]
  induction es with
  | nil => simp
  | cons e es ih => grind

/-- With every key once, the entries are what is found. -/
theorem mem_entries_iff (h : m.keys.Nodup) : (k, v) ∈ m.entries ↔ m.find? k = some v := by
  obtain ⟨es⟩ := m
  simp only [find?, keys] at h ⊢
  induction es with
  | nil => simp
  | cons e es ih =>
    obtain ⟨j, w⟩ := e
    rw [List.map_cons, List.nodup_cons] at h
    rw [List.mem_cons, ih h.2, List.lookup_cons]
    by_cases hj : k = j
    · subst hj
      have hnot : es.lookup k ≠ some v := by
        intro hfound
        exact h.1 (List.mem_map_of_mem (f := (·.1)) ((ih h.2).mpr hfound))
      simp [hnot, eq_comm]
    · have hne : (k == j) = false := by simpa using hj
      simp [hj, hne]

-- ---------------------------------------------------------------------------
-- Many pairs
-- ---------------------------------------------------------------------------

/-- Puts pairs in, one after another. -/
def insertAll (m : OrderedMap κ ν) (pairs : List (κ × ν)) : OrderedMap κ ν :=
  pairs.foldl (fun m pair => m.insert pair.1 pair.2) m

theorem nodup_keys_insertAll (h : m.keys.Nodup) (pairs : List (κ × ν)) :
    (m.insertAll pairs).keys.Nodup := by
  induction pairs generalizing m with
  | nil => exact h
  | cons pair pairs ih => exact ih (nodup_keys_insert h)

theorem find?_insertAll {pairs : List (κ × ν)}
    (h : ∀ pair ∈ pairs, ∀ other ∈ pairs, pair.1 = other.1 → pair.2 = other.2)
    (hm : ∀ pair ∈ pairs, ∀ w, m.find? pair.1 = some w → w = pair.2) :
    (m.insertAll pairs).find? k = some v ↔ (k, v) ∈ pairs ∨ m.find? k = some v := by
  induction pairs generalizing m with
  | nil => simp [insertAll]
  | cons pair pairs ih =>
    have hrest : ∀ one ∈ pairs, ∀ other ∈ pairs, one.1 = other.1 → one.2 = other.2 :=
      fun one hone other hother =>
        h one (List.mem_cons_of_mem _ hone) other (List.mem_cons_of_mem _ hother)
    have hput : ∀ one ∈ pairs, ∀ w, (m.insert pair.1 pair.2).find? one.1 = some w → w = one.2 := by
      intro one hone w hw
      rw [find?_insert] at hw
      split at hw
      · rename_i heq
        cases hw
        exact h pair List.mem_cons_self one (List.mem_cons_of_mem _ hone) heq.symm
      · exact hm one (List.mem_cons_of_mem _ hone) w hw
    change ((m.insert pair.1 pair.2).insertAll pairs).find? k = some v ↔ _
    rw [ih hrest hput, find?_insert, List.mem_cons]
    by_cases hk : k = pair.1
    · subst hk
      have hfound : m.find? pair.1 = some v → v = pair.2 :=
        hm pair List.mem_cons_self v
      have hpair : (pair.1, v) = pair ↔ v = pair.2 := by
        constructor
        · intro heq
          exact congrArg Prod.snd heq
        · rintro rfl
          rfl
      simp only [if_true, Option.some.injEq, hpair, eq_comm (a := pair.2)]
      tauto
    · have hpair : (k, v) ≠ pair := by
        rintro rfl
        exact hk rfl
      simp [hk, hpair]

/-- A map of pairs that give no key two values holds just these pairs. -/
theorem mem_entries_insertAll {pairs : List (κ × ν)}
    (h : ∀ pair ∈ pairs, ∀ other ∈ pairs, pair.1 = other.1 → pair.2 = other.2) :
    (k, v) ∈ (empty.insertAll pairs).entries ↔ (k, v) ∈ pairs := by
  have hempty : (empty : OrderedMap κ ν).keys.Nodup := List.nodup_nil
  rw [mem_entries_iff (nodup_keys_insertAll hempty pairs), find?_insertAll h (by simp)]
  simp

-- ---------------------------------------------------------------------------
-- Maps to lists
-- ---------------------------------------------------------------------------

/-- The elements of all lists, each with its key. -/
def elements (m : OrderedMap κ (List ν)) : List (κ × ν) :=
  m.entries.flatMap fun (k, vs) => vs.map (k, ·)

omit [DecidableEq κ] in
theorem values_flatten (m : OrderedMap κ (List ν)) : m.values.flatten = m.elements.map (·.2) := by
  simp [values, elements, List.flatMap, List.map_flatten, Function.comp_def]

theorem elements_push (m : OrderedMap κ (List ν)) (k : κ) (v : ν) :
    (m.alter k [] (· ++ [v])).elements.Perm (m.elements ++ [(k, v)]) := by
  obtain ⟨es⟩ := m
  simp only [alter, insert, find?, elements]
  induction es with
  | nil => simp [insertEntry]
  | cons e es ih =>
    obtain ⟨j, vs⟩ := e
    by_cases hj : j = k
    · subst hj
      have hlast : [(j, v)] ++ (es.flatMap fun (k, vs) => vs.map (k, ·)) |>.Perm
          ((es.flatMap fun (k, vs) => vs.map (k, ·)) ++ [(j, v)]) := List.perm_append_comm
      simpa [insertEntry, List.lookup_cons] using hlast.append_left (vs.map (j, ·))
    · have hne : (k == j) = false := by simpa using Ne.symm hj
      rw [List.lookup_cons, hne, insertEntry, if_neg hj, List.flatMap_cons, List.flatMap_cons,
        List.append_assoc]
      exact ih.append_left _

/-- Elements are pushed one after another. -/
theorem elements_pushAll {ι : Type} (key : ι → κ) (value : ι → ν) (items : List ι)
    (m : OrderedMap κ (List ν)) :
    (items.foldl (fun m item => m.alter (key item) [] (· ++ [value item])) m).elements.Perm
      (m.elements ++ items.map fun item => (key item, value item)) := by
  induction items generalizing m with
  | nil => simp
  | cons item items ih =>
    refine (ih _).trans ?_
    refine ((elements_push m _ _).append_right _).trans ?_
    simp

end OrderedMap

end GroovyRounds
