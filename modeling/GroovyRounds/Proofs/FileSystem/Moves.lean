import GroovyRounds.Proofs.FileSystem.Files
import GroovyRounds.Proofs.FileSystem.Tidy

/-!
# Moving files

A file that is moved to a place where no directory is comes to lie there, and
nothing outside the two places changes (`moved_of_move`). The move is made if
the way to the new place is there (`run_move_of_reachable`).
-/

namespace GroovyRounds

open FileSystem

theorem not_prefix_dropLast {place : Location} (h : place ≠ []) : ¬ place <+: place.dropLast := by
  intro hbelow
  have hlength := hbelow.length_le
  have hpos := List.length_pos_iff.mpr h
  rw [List.length_dropLast] at hlength
  omega

/-- A file came from one place to another. -/
structure Moved (source target : Location) (file : Node) (before after : FileSystem) :
    Prop where
  cwd : after.cwd = before.cwd
  there : after.node? target = some file
  gone : source ≠ target → after.node? source = none
  others : ∀ place, ¬ source <+: place → ¬ target <+: place →
    after.node? place = before.node? place
  tidy : before.Tidy → before.node? target.dropLast = some .directory → after.Tidy

namespace FileAction

open Program

variable {fs fs' : FileSystem} {a b : Location} {content : List UInt8} {executable : Bool}

-- ---------------------------------------------------------------------------
-- Taking a place
-- ---------------------------------------------------------------------------

theorem moved_relocate (ha : a ≠ []) (hb : b ≠ []) (hab : ¬ b <+: a)
    (hfile : fs.node? a = some (.file content executable)) (hnone : fs.node? b = none) :
    Moved a b (.file content executable) fs (fs.relocate a b) where
  cwd := rfl
  there := (node?_relocate_target ha hb hnone).trans hfile
  gone _ := node?_relocate_source ha hab
  others _ := node?_relocate
  tidy htidy hparent := htidy.relocate hfile hnone hparent

/-- A file takes the place of a file. -/
theorem moved_over (ha : a ≠ []) (hb : b ≠ []) (hab : ¬ b <+: a)
    (hfile : fs.node? a = some (.file content executable)) :
    Moved a b (.file content executable) fs ((fs.prune b).relocate a b) := by
  have hfile' : (fs.prune b).node? a = some (.file content executable) := by
    rw [node?_prune_of_not_below hab, hfile]
  have hnone : (fs.prune b).node? b = none := node?_prune_of_below (List.prefix_refl b) hb
  have hmoved := moved_relocate ha hb hab hfile' hnone
  refine { hmoved with
    others := fun place hsource htarget => ?_
    tidy := fun htidy hparent => hmoved.tidy (htidy.prune b) ?_ }
  · rw [hmoved.others place hsource htarget, node?_prune_of_not_below htarget]
  · rw [node?_prune_of_not_below, hparent]
    exact not_prefix_dropLast hb

theorem run_takePlace (target : Path) (there : Option Node) (fs : FileSystem) :
    takePlace target a b (.file content executable) there fs = match there with
      | none => (.ok (), fs.relocate a b)
      | some (.file ..) => (.ok (), (fs.prune b).relocate a b)
      | some .directory => (.error (.refused .isDirectory target), fs) := by
  cases there with
  | none => rfl
  | some node => cases node <;> rfl

-- ---------------------------------------------------------------------------
-- Renaming
-- ---------------------------------------------------------------------------

/-- A place that is reached and is no directory to the eye holds none. -/
theorem node?_ne_directory (hb : Path.Leads b) (hreach : fs.Reachable b)
    (h : fs.isDirectory (.below b) = false) : fs.node? b ≠ some .directory := by
  intro hnode
  have hstat := (stat_below_iff hb.no_dots).mpr ⟨hreach, rfl, hnode⟩
  simp [isDirectory, hstat, hb.no_zero] at h

section
variable (hstat : fs.stat (.below a) = .ok (a, .file content executable))
variable (ha : Path.Leads a) (hb : Path.Leads b)
include hstat ha hb

/-- Renaming a file, by what is at the new place. -/
theorem run_rename :
    rename (.below a) (.below b) fs = match fs.locate (.below b) with
      | .error refusal => (.error (.refused refusal (.below b)), fs)
      | .ok _ =>
        if a = b then (.ok (), fs)
        else if a.isPrefixOf b then (.error (.refused .invalid (.below a)), fs)
        else takePlace (.below b) a b (.file content executable) (fs.node? b) fs := by
  have hplace : place (.below a) fs = (.ok a, fs) := by
    obtain ⟨hreach, -, -⟩ := (stat_below_iff ha.no_dots).mp hstat
    rw [run_place, ha.no_zero, (locate_below_iff ha.no_dots).mpr ⟨hreach, rfl⟩]
    rfl
  have hentry : entry (.below a) fs = (.ok (a, .file content executable), fs) := by
    rw [run_entry, ha.no_zero, hstat]
    rfl
  unfold rename
  rw [run_bind_of_ok hplace, run_bind, run_slot, run_place, hb.no_zero]
  cases hlocate : fs.locate (.below b) with
  | error refusal => rfl
  | ok goal =>
    obtain ⟨-, rfl⟩ := (locate_below_iff hb.no_dots).mp hlocate
    simp only [Except.map, ha.endsInDots, hb.endsInDots, Bool.or_self, Bool.false_eq_true,
      if_false]
    rw [run_bind_of_ok hentry]
    by_cases heq : a = goal
    · simp [heq]
    · by_cases hbelow : a.isPrefixOf goal
      · simp only [heq, hbelow, if_true, if_false]
        rfl
      · simp only [heq, hbelow, if_false]
        rfl

/-- A file that cannot be renamed stays where it is. -/
theorem rename_error {fault : FileFault}
    (h : rename (.below a) (.below b) fs = (.error fault, fs')) : fs' = fs := by
  rw [run_rename hstat ha hb] at h
  split at h
  · cases h
    rfl
  · split at h
    · cases h
    · split at h
      · cases h
        rfl
      · rw [run_takePlace] at h
        split at h <;> cases h
        rfl

/-- A file that cannot be renamed is not copied either. -/
theorem run_renameOrCopy (target : Path) :
    renameOrCopy (.below a) target (.below b) fs = rename (.below a) (.below b) fs := by
  have hentry : entry (.below a) fs = (.ok (a, .file content executable), fs) := by
    rw [run_entry, ha.no_zero, hstat]
    rfl
  unfold renameOrCopy
  rw [run_tryCatch]
  cases hrename : rename (.below a) (.below b) fs with
  | mk result after =>
    cases result with
    | ok _ => rfl
    | error fault =>
      obtain rfl := rename_error hstat ha hb hrename
      dsimp only
      split
      · unfold copyOver
        rw [run_bind_of_ok hentry]
        rfl
      · rfl

/-- A file is moved by renaming it, where no directory is. -/
theorem run_move (hdirectory : fs.isDirectory (.below b) = false) :
    move (.below a) (.below b) fs = rename (.below a) (.below b) fs := by
  have hget : move (.below a) (.below b) fs =
      renameOrCopy (.below a) (.below b) (.below b) fs := by
    simp [move, run_bind, hdirectory]
  rw [hget, run_renameOrCopy hstat ha hb]

-- ---------------------------------------------------------------------------
-- Moving
-- ---------------------------------------------------------------------------

omit hb in
/-- No place is reached through a file. -/
theorem not_prefix_of_file (hreach : fs.Reachable b) (hne : a ≠ b) : ¬ a <+: b := by
  intro hbelow
  have hfile := ((stat_below_iff ha.no_dots).mp hstat).2.2
  rw [hreach.directories a hbelow hne] at hfile
  cases hfile

/-- A move of a file, where no directory is, by what is at the new place. -/
theorem run_move_of_reachable (hdirectory : fs.isDirectory (.below b) = false)
    (hreach : fs.Reachable b) : ∃ fs', move (.below a) (.below b) fs = (.ok (), fs') ∧
      Moved a b (.file content executable) fs fs' := by
  obtain ⟨hreachSource, -, hfile⟩ := (stat_below_iff ha.no_dots).mp hstat
  have hnode := node?_ne_directory hb hreach hdirectory
  rw [run_move hstat ha hb hdirectory, run_rename hstat ha hb,
    (locate_below_iff hb.no_dots).mpr ⟨hreach, rfl⟩]
  by_cases heq : a = b
  · subst heq
    exact ⟨fs, by simp, ⟨rfl, hfile, fun h => absurd rfl h, fun _ _ _ => rfl, fun h _ => h⟩⟩
  · have hbelow : a.isPrefixOf b = false := by
      rw [Bool.eq_false_iff, ne_eq, List.isPrefixOf_iff_prefix]
      exact not_prefix_of_file hstat ha hreach heq
    have hback : ¬ b <+: a := fun h =>
      hnode (hreachSource.directories b h (Ne.symm heq))
    simp only [heq, hbelow, if_false, Bool.false_eq_true, run_takePlace]
    cases hthere : fs.node? b with
    | none => exact ⟨_, rfl, moved_relocate ha.ne_root hb.ne_root hback hfile hthere⟩
    | some node =>
      cases node with
      | file content' executable' => exact ⟨_, rfl, moved_over ha.ne_root hb.ne_root hback hfile⟩
      | directory => exact absurd hthere hnode

omit hb in
/-- Nothing is moved to a path that cannot be handed to the system. -/
theorem no_zero_of_move (h : move (.below a) (.below b) fs = (.ok (), fs')) :
    hasZero (.below b) = false := by
  cases hzero : hasZero (.below b) with
  | false => rfl
  | true =>
    have hdirectory : fs.isDirectory (.below b) = false := by
      unfold isDirectory
      split
      · rw [hzero]
        rfl
      · rfl
    have hsource : place (.below a) fs = (.ok a, fs) := by
      obtain ⟨hreach, -, -⟩ := (stat_below_iff ha.no_dots).mp hstat
      rw [run_place, ha.no_zero, (locate_below_iff ha.no_dots).mpr ⟨hreach, rfl⟩]
      rfl
    have hrename : rename (.below a) (.below b) fs = (.error .zeroCharacter, fs) := by
      unfold rename
      rw [run_bind_of_ok hsource, run_bind, run_slot, run_place, hzero]
      rfl
    have hmove : move (.below a) (.below b) fs =
        renameOrCopy (.below a) (.below b) (.below b) fs := by
      simp [move, run_bind, hdirectory]
    rw [hmove, renameOrCopy, run_tryCatch, hrename] at h
    cases h

/-- A file that was moved to a place where no directory is lies there. -/
theorem moved_of_move (hdirectory : fs.isDirectory (.below b) = false)
    (h : move (.below a) (.below b) fs = (.ok (), fs')) :
    fs.Reachable b ∧ Moved a b (.file content executable) fs fs' := by
  have hreach : fs.Reachable b := by
    rw [run_move hstat ha hb hdirectory, run_rename hstat ha hb] at h
    cases hlocate : fs.locate (.below b) with
    | error refusal =>
      rw [hlocate] at h
      cases h
    | ok goal => exact ((locate_below_iff hb.no_dots).mp hlocate).1
  obtain ⟨after, hafter, hmoved⟩ := run_move_of_reachable hstat ha hb hdirectory hreach
  rw [h] at hafter
  cases hafter
  exact ⟨hreach, hmoved⟩

end

end FileAction

end GroovyRounds
