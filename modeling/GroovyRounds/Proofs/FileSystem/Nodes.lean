import GroovyRounds.FileSystem.Basic

/-!
# What lies where

A file system is looked at by place only. Here is what putting, removing and
moving nodes does to that look, and where a path that leads down from the root
ends: at the place of its own names, if all above it are directories.
-/

namespace GroovyRounds.FileSystem

variable {fs : FileSystem} {place other source target : Location} {node : Node}

-- ---------------------------------------------------------------------------
-- Nodes by place
-- ---------------------------------------------------------------------------

@[simp] theorem node?_root : fs.node? [] = some .directory := rfl

theorem node?_of_ne_root (h : place ≠ []) : fs.node? place = fs.nodes.lookup place := by
  simp [node?, h]

theorem lookup_filter (keep : Location → Bool) (nodes : List (Location × Node)) :
    (nodes.filter fun (p, _) => keep p).lookup place =
      if keep place then nodes.lookup place else none := by
  induction nodes with
  | nil => simp
  | cons entry nodes ih =>
    obtain ⟨p, found⟩ := entry
    by_cases hp : place = p
    · subst hp
      cases hkeep : keep place with
      | true => simp [hkeep]
      | false =>
        rw [hkeep] at ih
        simpa [hkeep] using ih
    · have hne : (place == p) = false := by simpa using hp
      cases hkeep : keep p <;> simp [List.lookup_cons, hkeep, hne, ih]

theorem node?_put (h : place ≠ []) :
    (fs.put place node).node? other = if other = place then some node else fs.node? other := by
  by_cases hroot : other = []
  · subst hroot
    simp [Ne.symm h]
  · rw [node?_of_ne_root hroot, node?_of_ne_root hroot, put, List.lookup_cons]
    by_cases heq : other = place
    · simp [heq]
    · have hne : (other == place) = false := by simpa using heq
      have hfilter := @lookup_filter other (fun p => decide (p ≠ place)) fs.nodes
      rw [hne]
      simpa [heq] using hfilter

theorem node?_prune_of_below (h : place <+: other) (hroot : other ≠ []) :
    (fs.prune place).node? other = none := by
  rw [node?_of_ne_root hroot, prune, lookup_filter (fun p => !place.isPrefixOf p)]
  simp [List.isPrefixOf_iff_prefix.mpr h]

theorem node?_prune_of_not_below (h : ¬ place <+: other) :
    (fs.prune place).node? other = fs.node? other := by
  by_cases hroot : other = []
  · subst hroot
    rfl
  · have hnot : place.isPrefixOf other = false := by
      rw [Bool.eq_false_iff, ne_eq, List.isPrefixOf_iff_prefix]
      exact h
    rw [node?_of_ne_root hroot, node?_of_ne_root hroot, prune,
      lookup_filter (fun p => !place.isPrefixOf p)]
    simp [hnot]

/-- Where a place comes to lie when `source` is moved to `target`. -/
def movedPlace (source target p : Location) : Location :=
  if source.isPrefixOf p then target ++ p.drop source.length else p

theorem nodes_relocate :
    (fs.relocate source target).nodes =
      fs.nodes.map fun entry => (movedPlace source target entry.1, entry.2) := by
  refine List.map_congr_left fun ⟨p, found⟩ _ => ?_
  by_cases hp : source.isPrefixOf p <;> simp [movedPlace, hp]

theorem lookup_map_key {nodes : List (Location × Node)} (move : Location → Location)
    (h : ∀ entry ∈ nodes, move entry.1 = target ↔ entry.1 = source) :
    (nodes.map fun entry => (move entry.1, entry.2)).lookup target = nodes.lookup source := by
  induction nodes with
  | nil => rfl
  | cons entry nodes ih =>
    have hentry := h entry List.mem_cons_self
    have hrest := ih fun other hother => h other (List.mem_cons_of_mem _ hother)
    rw [List.map_cons, List.lookup_cons, List.lookup_cons, hrest]
    by_cases heq : entry.1 = source
    · rw [hentry.mpr heq, heq]
      simp
    · have hne : (target == move entry.1) = false := by
        simpa using fun h => heq (hentry.mp h.symm)
      have hne' : (source == entry.1) = false := by simpa using Ne.symm heq
      rw [hne, hne']

/-- Moving a place does not touch what lies outside it and outside its new place. -/
theorem node?_relocate (hsource : ¬ source <+: other) (htarget : ¬ target <+: other) :
    (fs.relocate source target).node? other = fs.node? other := by
  by_cases hroot : other = []
  · subst hroot
    rfl
  · rw [node?_of_ne_root hroot, node?_of_ne_root hroot, nodes_relocate]
    refine lookup_map_key _ fun entry _ => ?_
    unfold movedPlace
    split
    · rename_i hbelow
      rw [List.isPrefixOf_iff_prefix] at hbelow
      constructor
      · rintro rfl
        exact absurd (List.prefix_append _ _) htarget
      · rintro heq
        exact absurd (heq ▸ hbelow) hsource
    · rfl

/-- Nothing is left at a place that was moved to one not above it. -/
theorem node?_relocate_source (hroot : source ≠ []) (h : ¬ target <+: source) :
    (fs.relocate source target).node? source = none := by
  rw [node?_of_ne_root hroot, nodes_relocate, List.lookup_eq_none_iff]
  intro entry hentry
  obtain ⟨⟨p, found⟩, -, rfl⟩ := List.mem_map.mp hentry
  simp only [bne_iff_ne]
  unfold movedPlace
  split
  · intro heq
    exact h ⟨_, heq.symm⟩
  · rename_i hnot
    rintro rfl
    exact hnot (by simp)

/-- A node that was moved where nothing was lies there. -/
theorem node?_relocate_target (hsource : source ≠ []) (htarget : target ≠ [])
    (h : fs.node? target = none) :
    (fs.relocate source target).node? target = fs.node? source := by
  rw [node?_of_ne_root htarget] at h
  rw [node?_of_ne_root htarget, node?_of_ne_root hsource, nodes_relocate]
  refine lookup_map_key _ fun entry hentry => ?_
  have hne : entry.1 ≠ target := by
    have := List.lookup_eq_none_iff.mp h entry hentry
    simpa using Ne.symm (by simpa using this)
  unfold movedPlace
  split
  · rename_i hbelow
    obtain ⟨rest, hrest⟩ := List.isPrefixOf_iff_prefix.mp hbelow
    constructor
    · intro heq
      have hnil : entry.1.drop source.length = [] := by simpa using heq
      rw [← hrest] at hnil ⊢
      simpa using hnil
    · intro heq
      simp [heq]
  · rename_i hnot
    constructor
    · intro heq
      exact absurd heq hne
    · intro heq
      exact absurd (by simp [heq]) hnot

end GroovyRounds.FileSystem
