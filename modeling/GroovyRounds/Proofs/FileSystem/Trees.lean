import GroovyRounds.Proofs.FileSystem.Directories
import Mathlib.Data.List.Induction
import Mathlib.Data.List.Infix
import Mathlib.Tactic.ByContra
import Mathlib.Tactic.Push

/-!
# Trees of directories

What a file system holds is a tree: what lies anywhere lies in a directory
(`Rooted`). Where nothing lies, nothing lies below, and a path along which no file
stands finds what is at its end (`Open.probe_of_rooted`).
-/

namespace GroovyRounds.FileSystem

open Path

/-- Whatever lies at a place lies in a directory. -/
def Rooted (fs : FileSystem) : Prop :=
  ∀ place, place ≠ [] → fs.node? place ≠ none → fs.node? place.dropLast = some .directory

variable {fs fs' : FileSystem} {place goal : Location} {p : Path}

theorem rooted_of_nodes (h : ∀ entry ∈ fs.nodes, fs.node? entry.1.dropLast = some .directory) :
    fs.Rooted := by
  intro place hroot hnode
  rw [node?_of_ne_root hroot, ne_eq, List.lookup_eq_none_iff] at hnode
  push Not at hnode
  obtain ⟨entry, hentry, hkey⟩ := hnode
  have hplace : place = entry.1 := by simpa using hkey
  exact hplace ▸ h entry hentry

namespace Rooted

/-- All above what lies at a place are directories. -/
theorem directory (h : fs.Rooted) (hnode : fs.node? goal ≠ none) (habove : place <+: goal)
    (hne : place ≠ goal) : fs.node? place = some .directory := by
  induction goal using List.reverseRecOn with
  | nil => exact absurd (List.prefix_nil.mp habove) hne
  | append_singleton front name ih =>
    have hparent := h _ (by simp) hnode
    rw [List.dropLast_concat] at hparent
    by_cases heq : place = front
    · rw [heq, hparent]
    · have hway := prefix_dropLast habove hne
      rw [List.dropLast_concat] at hway
      exact ih (by simp [hparent]) hway heq

/-- Where nothing lies, nothing lies below. -/
theorem none_below (h : fs.Rooted) (hnone : fs.node? place = none) (hbelow : place <+: goal) :
    fs.node? goal = none := by
  by_contra hnode
  by_cases heq : place = goal
  · exact hnode (heq ▸ hnone)
  · rw [h.directory hnode hbelow heq] at hnone
    cases hnone

theorem prune (h : fs.Rooted) (place : Location) : (fs.prune place).Rooted := by
  intro other hroot hnode
  have hnot : ¬ place <+: other := fun hbelow => hnode (node?_prune_of_below hbelow hroot)
  rw [node?_prune_of_not_below hnot] at hnode
  rw [node?_prune_of_not_below fun hbelow => hnot (hbelow.trans (List.dropLast_prefix _))]
  exact h other hroot hnode

/-- Directories made along a path that starts at a directory keep the tree one. -/
theorem of_extends (h : fs.Rooted) (hextends : Extends p fs fs') (hdots : ".." ∉ p.names)
    (hstart : fs.node? (fs.start p) ≠ none) (hpaved : fs'.Paved p) : fs'.Rooted := by
  intro place hroot hnode
  rcases hextends.nodes place with hsame | ⟨hnone, -, front, hfront, hplace⟩
  · rw [hsame] at hnode
    exact hextends.kept (h place hroot hnode)
  · rw [walk_of_plain fun hm => hdots (hfront.subset hm)] at hplace
    have hfront' : front ≠ [] := by
      rintro rfl
      rw [hplace, List.append_nil] at hnone
      exact hstart hnone
    rw [hplace, List.dropLast_append_of_ne_nil hfront', ← hextends.start]
    exact hpaved _ ((List.dropLast_prefix _).trans hfront)

end Rooted

/-- An open way finds what is at its end: nothing, or a directory. -/
theorem Open.probe_of_rooted (h : fs.Open p) (hrooted : fs.Rooted) :
    fs.node? (fs.start p ++ p.names) = none ∧ fs.probe p = .ok none ∨
      fs.node? (fs.start p ++ p.names) = some .directory ∧
        fs.locate p = .ok (fs.start p ++ p.names) ∧ fs.probe p = .ok (some .directory) := by
  rcases h.node?_end with hnone | hdirectory
  · refine .inl ⟨hnone, ?_⟩
    rcases h.locate with ⟨hlocate, -⟩ | hmissing
    · simp [probe, h.no_zero, stat, hlocate, hnone, Refusal.leadsNowhere]
    · simp [probe, h.no_zero, stat, hmissing, Refusal.leadsNowhere]
  · have hlocate : fs.locate p = .ok (fs.start p ++ p.names) := by
      refine h.locate_of_paved fun front hfront => ?_
      change fs.node? (fs.start p ++ front) = _
      have hway : fs.start p ++ front <+: fs.start p ++ p.names :=
        (List.prefix_append_right_inj _).mpr (hfront.trans (List.dropLast_prefix _))
      by_cases heq : fs.start p ++ front = fs.start p ++ p.names
      · rw [heq, hdirectory]
      · exact hrooted.directory (by simp [hdirectory]) hway heq
    refine .inr ⟨hdirectory, hlocate, ?_⟩
    simp [probe, h.no_zero, stat, hlocate, hdirectory]

-- ---------------------------------------------------------------------------
-- Looking at all places on a way
-- ---------------------------------------------------------------------------

instance {names : List String} {P : List String → Prop} [DecidablePred P] :
    Decidable (∀ front, front <+: names → P front) :=
  decidable_of_iff (∀ front ∈ names.inits, P front) (by simp only [List.mem_inits])

theorem open_iff : fs.Open p ↔ hasZero p = false ∧ ".." ∉ p.names ∧
    (∀ front, front <+: p.names →
      (Path.toString { p with names := front }).utf8ByteSize < pathLimit) ∧
    (∀ name ∈ p.names, name.utf8ByteSize ≤ nameLimit) ∧
    fs.node? (fs.start p) = some .directory ∧
    ∀ front, front <+: p.names → ∀ node ∈ fs.node? (fs.start p ++ front), node = .directory := by
  constructor
  · rintro ⟨hzero, hdots, hfits, hshort, hstart, hclear⟩
    refine ⟨hzero, hdots, hfits, hshort, hstart, fun front hfront node hnode => ?_⟩
    cases node with
    | directory => rfl
    | file content executable => exact absurd hnode (hclear front hfront content executable)
  · rintro ⟨hzero, hdots, hfits, hshort, hstart, hclear⟩
    refine ⟨hzero, hdots, hfits, hshort, hstart, fun front hfront content executable hfile => ?_⟩
    cases hclear front hfront _ hfile

instance (fs : FileSystem) (p : Path) : Decidable (fs.Open p) :=
  decidable_of_iff _ open_iff.symm

end GroovyRounds.FileSystem
