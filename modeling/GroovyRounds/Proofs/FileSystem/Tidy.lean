import GroovyRounds.Proofs.FileSystem.Trees
import Mathlib.Data.List.Nodup

/-!
# Tidy trees

In a tidy tree whatever lies anywhere lies in a directory, and no place is
listed twice. Putting a node where a directory holds it, removing a place with
all below it, and moving a file keep a tree tidy, and so does making
directories along an open way (`Tidy.makeDirectories`).
-/

namespace GroovyRounds

variable {fs fs' : FileSystem} {place other source target : Location} {node : Node} {p : Path}
variable {content : List UInt8} {executable : Bool}

namespace FileSystem


-- ---------------------------------------------------------------------------
-- Places listed once
-- ---------------------------------------------------------------------------

/-- No place comes to be listed twice. -/
def StaysOnce (fs fs' : FileSystem) : Prop :=
  (fs.nodes.map (·.1)).Nodup → (fs'.nodes.map (·.1)).Nodup

instance : Std.Refl StaysOnce := ⟨fun _ => id⟩

instance : IsTrans FileSystem StaysOnce := ⟨fun _ _ _ h h' honce => h' (h honce)⟩

theorem staysOnce_put (fs : FileSystem) (place : Location) (node : Node) :
    StaysOnce fs (fs.put place node) := by
  intro honce
  rw [put, List.map_cons, List.nodup_cons]
  refine ⟨fun hmem => ?_, honce.sublist (List.filter_sublist.map _)⟩
  obtain ⟨entry, hentry, heq⟩ := List.mem_map.mp hmem
  simpa [heq] using (List.mem_filter.mp hentry).2

end FileSystem

namespace FileAction

open FileSystem Program

theorem staysOnce_makeDirectory (p : Path) : Keeps StaysOnce (makeDirectory p) := by
  intro fs
  rw [run_makeDirectory]
  cases (place p fs).1 with
  | error fault => exact Std.Refl.refl fs
  | ok place =>
    dsimp only
    cases fs.node? place with
    | some node => exact Std.Refl.refl fs
    | none => exact staysOnce_put fs place .directory

theorem staysOnce_makeDirectories (tolerant : Bool) (p : Path) :
    Keeps StaysOnce (makeDirectories tolerant p) :=
  keeps_makeDirectories (R := fun _ => StaysOnce) staysOnce_makeDirectory (fun _ _ _ h => h)
    tolerant p

end FileAction

namespace FileSystem

open Path

-- ---------------------------------------------------------------------------
-- Tidy trees
-- ---------------------------------------------------------------------------

/-- A tree in which no place is listed twice. -/
structure Tidy (fs : FileSystem) : Prop where
  rooted : fs.Rooted
  once : (fs.nodes.map (·.1)).Nodup


namespace Tidy

/-- Nothing lies below what is no directory. -/
theorem none_below (h : fs.Tidy) (hnode : fs.node? place ≠ some .directory)
    (hbelow : place <+: other) (hne : place ≠ other) : fs.node? other = none := by
  by_contra hthere
  exact hnode (h.rooted.directory hthere hbelow hne)

theorem put (h : fs.Tidy) (hroot : place ≠ [])
    (hparent : fs.node? place.dropLast = some .directory)
    (hnode : fs.node? place = some .directory → node = .directory) : (fs.put place node).Tidy where
  rooted := by
    intro other hother hthere
    rw [node?_put hroot] at hthere
    rw [node?_put hroot]
    have hdirectory : fs.node? other.dropLast = some .directory := by
      by_cases heq : other = place
      · rw [heq, hparent]
      · rw [if_neg heq] at hthere
        exact h.rooted other hother hthere
    by_cases heq : other.dropLast = place
    · rw [if_pos heq, hnode (heq ▸ hdirectory)]
    · rw [if_neg heq, hdirectory]
  once := staysOnce_put fs place node h.once

theorem prune (h : fs.Tidy) (place : Location) : (fs.prune place).Tidy where
  rooted := h.rooted.prune place
  once := h.once.sublist (List.filter_sublist.map _)

-- ---------------------------------------------------------------------------
-- Moving files
-- ---------------------------------------------------------------------------

/-- An entry lies at its place, or the place is the root. -/
theorem node?_of_mem (h : fs.Tidy) {entry : Location × Node} (hentry : entry ∈ fs.nodes)
    (hroot : entry.1 ≠ []) : fs.node? entry.1 = some entry.2 := by
  rw [node?_of_ne_root hroot]
  have honce := h.once
  generalize fs.nodes = nodes at hentry honce
  induction nodes with
  | nil => cases hentry
  | cons first nodes ih =>
    rw [List.map_cons, List.nodup_cons] at honce
    rw [List.lookup_cons]
    rcases List.mem_cons.mp hentry with rfl | hmem
    · simp
    · have hne : (entry.1 == first.1) = false := by
        rw [beq_eq_false_iff_ne]
        exact fun heq => honce.1 (heq ▸ List.mem_map_of_mem hmem)
      rw [hne]
      exact ih hmem honce.2

section
variable (h : fs.Tidy) (hsource : fs.node? source = some (.file content executable))
include h hsource

/-- When a file is moved, its entry alone takes another place. -/
theorem nodes_relocate_file (target : Location) : (fs.relocate source target).nodes =
    fs.nodes.map fun entry => (if entry.1 = source then target else entry.1, entry.2) := by
  rw [nodes_relocate]
  refine List.map_congr_left fun entry hentry => ?_
  rw [movedPlace]
  by_cases heq : entry.1 = source
  · simp [heq]
  · rw [if_neg heq, if_neg]
    rw [List.isPrefixOf_iff_prefix]
    intro hbelow
    have hroot : entry.1 ≠ [] := by
      intro hnil
      rw [hnil, List.prefix_nil] at hbelow
      exact heq (hnil.trans hbelow.symm)
    have hfile : fs.node? source ≠ some .directory := by
      rw [hsource]
      rintro ⟨⟩
    have hnone := h.none_below hfile hbelow (Ne.symm heq)
    rw [h.node?_of_mem hentry hroot] at hnone
    cases hnone

variable (htarget : fs.node? target = none)
include htarget

theorem node?_relocate_file (hroot : other ≠ []) : (fs.relocate source target).node? other =
    if other = target then fs.node? source
    else if other = source then none else fs.node? other := by
  have hs : source ≠ [] := by
    rintro rfl
    cases hsource
  have ht : target ≠ [] := by
    rintro rfl
    cases htarget
  by_cases heq : other = target
  · rw [if_pos heq, heq, node?_relocate_target hs ht htarget]
  rw [if_neg heq, node?_of_ne_root hroot, h.nodes_relocate_file hsource target]
  by_cases heq' : other = source
  · rw [if_pos heq', List.lookup_eq_none_iff]
    intro entry hentry
    obtain ⟨entry, -, rfl⟩ := List.mem_map.mp hentry
    rw [bne_iff_ne]
    dsimp only
    split
    · exact heq
    · rename_i hne
      exact fun hsame => hne (hsame.symm.trans heq')
  · rw [if_neg heq', node?_of_ne_root hroot]
    refine lookup_map_key (fun key => if key = source then target else key)
      fun entry _ => ?_
    split
    · rename_i hentry
      rw [hentry]
      exact ⟨fun hsame => absurd hsame.symm heq, fun hsame => absurd hsame.symm heq'⟩
    · exact Iff.rfl

theorem relocate (hparent : fs.node? target.dropLast = some .directory) :
    (fs.relocate source target).Tidy where
  rooted := by
    intro other hother hthere
    have hdropped (hnil : other.dropLast ≠ []) := h.node?_relocate_file hsource htarget hnil
    rw [h.node?_relocate_file hsource htarget hother] at hthere
    have hdirectory : fs.node? other.dropLast = some .directory := by
      by_cases heq : other = target
      · rw [heq, hparent]
      · rw [if_neg heq] at hthere
        by_cases heq' : other = source
        · rw [if_pos heq'] at hthere
          exact absurd rfl hthere
        · rw [if_neg heq'] at hthere
          exact h.rooted other hother hthere
    by_cases hnil : other.dropLast = []
    · rw [hnil]
      rfl
    · rw [hdropped hnil, if_neg, if_neg, hdirectory]
      · intro heq
        rw [heq, hsource] at hdirectory
        cases hdirectory
      · intro heq
        rw [heq, htarget] at hdirectory
        cases hdirectory
  once := by
    rw [h.nodes_relocate_file hsource target, List.map_map]
    have hfree : ∀ entry ∈ fs.nodes, entry.1 ≠ target := by
      intro entry hentry heq
      have hroot : entry.1 ≠ [] := by
        intro hnil
        rw [← heq, hnil] at htarget
        cases htarget
      have hnode := h.node?_of_mem hentry hroot
      rw [heq, htarget] at hnode
      cases hnode
    have hinj := List.inj_on_of_nodup_map h.once
    refine List.Nodup.map_on (fun entry hentry entry' hentry' heq => ?_)
      (List.Nodup.of_map _ h.once)
    refine hinj hentry hentry' ?_
    simp only [Function.comp_apply] at heq
    split at heq <;> split at heq
    · rename_i hs hs'
      rw [hs, hs']
    · exact absurd heq.symm (hfree entry' hentry')
    · exact absurd heq (hfree entry hentry)
    · exact heq

end

/-- Directories that are made along an open way keep a tree tidy. -/
theorem makeDirectories {tolerant : Bool} (h : fs.Tidy) (hopen : fs.Open p)
    (hend : tolerant = true ∨ fs.node? (fs.start p ++ p.names) = none)
    (hmake : FileAction.makeDirectories tolerant p fs = (.ok (), fs')) : fs'.Tidy where
  rooted := by
    obtain ⟨made, hmade, hpaved⟩ := FileAction.makeDirectories_of_open hopen hend
    rw [hmake] at hmade
    cases hmade
    exact h.rooted.of_extends ((FileAction.extends_makeDirectories tolerant p).of_eq hmake)
      hopen.no_dots (by simp [hopen.start]) hpaved
  once := (FileAction.staysOnce_makeDirectories tolerant p).of_eq hmake h.once

end Tidy

end FileSystem

end GroovyRounds
