import GroovyRounds.Proofs.FileSystem.Directories

/-!
# File systems that grow

Where nothing is lost, every path that led to a file or directory leads there
still (`Grown.stat`). Making directories one after another loses nothing and
adds directories along their paths only, up to the first that is refused
(`extendsAlong_makeAll`). It changes nothing and succeeds exactly if all of
them are there (`makeAll_unchanged_iff`).
-/

namespace GroovyRounds

open FileSystem Program

-- ---------------------------------------------------------------------------
-- Nothing lost
-- ---------------------------------------------------------------------------

/-- Whatever was there is there still. -/
structure Grown (before after : FileSystem) : Prop where
  cwd : after.cwd = before.cwd
  kept : ∀ place node, before.node? place = some node → after.node? place = some node

namespace Grown

variable {a b : FileSystem} {p : Path} {goal : Location} {node : Node}

theorem start (h : Grown a b) (p : Path) : b.start p = a.start p := by
  simp [FileSystem.start, h.cwd]

/-- What could be walked can be walked. -/
theorem locate (h : Grown a b) (hlocate : a.locate p = .ok goal) : b.locate p = .ok goal := by
  obtain ⟨hfits, ⟨hdirectories, hshort⟩, hgoal⟩ := locate_eq_ok_iff.mp hlocate
  rw [← h.start] at hdirectories hgoal
  exact locate_eq_ok_iff.mpr
    ⟨hfits, ⟨fun front hfront hne => h.kept _ _ (hdirectories front hfront hne), hshort⟩, hgoal⟩

theorem stat (h : Grown a b) (hstat : a.stat p = .ok (goal, node)) :
    b.stat p = .ok (goal, node) := by
  obtain ⟨hlocate, hnode⟩ := stat_eq_ok_iff.mp hstat
  exact stat_eq_ok_iff.mpr ⟨h.locate hlocate, h.kept _ _ hnode⟩

end Grown

theorem FileSystem.isDirectory_iff {fs : FileSystem} {p : Path} :
    fs.isDirectory p = true ↔
      hasZero p = false ∧ ∃ goal, fs.stat p = .ok (goal, .directory) := by
  unfold isDirectory
  cases hstat : fs.stat p with
  | error refusal => simp
  | ok found =>
    obtain ⟨goal, node⟩ := found
    cases node <;> simp

theorem FileSystem.isDirectory_of_probe {fs : FileSystem} {p : Path}
    (h : fs.probe p = .ok (some .directory)) : fs.isDirectory p = true := by
  unfold probe at h
  split at h
  · cases h
  · rename_i hzero
    split at h
    · rename_i place node hstat
      cases h
      exact isDirectory_iff.mpr ⟨by simpa using hzero, place, hstat⟩
    · split at h <;> cases h

theorem Grown.isDirectory {a b : FileSystem} {p : Path} (h : Grown a b)
    (hdirectory : a.isDirectory p = true) : b.isDirectory p = true := by
  obtain ⟨hzero, goal, hstat⟩ := isDirectory_iff.mp hdirectory
  exact isDirectory_iff.mpr ⟨hzero, goal, h.stat hstat⟩

theorem Extends.grown {a b : FileSystem} {p : Path} (h : Extends p a b) : Grown a b :=
  ⟨h.cwd, fun _ _ => h.kept⟩

-- ---------------------------------------------------------------------------
-- Along several paths
-- ---------------------------------------------------------------------------

/-- Directories were added along some of the paths where nothing was, and nothing else changed. -/
structure ExtendsAlong (paths : List Path) (before after : FileSystem) : Prop where
  cwd : after.cwd = before.cwd
  nodes : ∀ place, after.node? place = before.node? place ∨
    before.node? place = none ∧ after.node? place = some .directory ∧
      ∃ p ∈ paths, before.Visits p place

namespace ExtendsAlong

variable {paths : List Path} {p : Path} {a b c : FileSystem}

theorem grown (h : ExtendsAlong paths a b) : Grown a b where
  cwd := h.cwd
  kept place node hnode := by
    rcases h.nodes place with hsame | ⟨hnone, -⟩
    · rw [hsame, hnode]
    · rw [hnode] at hnone
      cases hnone

theorem of_extends (h : Extends p a b) (hp : p ∈ paths) : ExtendsAlong paths a b where
  cwd := h.cwd
  nodes place := (h.nodes place).imp_right fun ⟨hnone, hdirectory, hvisits⟩ =>
    ⟨hnone, hdirectory, p, hp, hvisits⟩

theorem refl (paths : List Path) (a : FileSystem) : ExtendsAlong paths a a :=
  ⟨rfl, fun _ => .inl rfl⟩

theorem trans (h : ExtendsAlong paths a b) (h' : ExtendsAlong paths b c) :
    ExtendsAlong paths a c where
  cwd := h'.cwd.trans h.cwd
  nodes place := by
    rcases h'.nodes place with hsame | ⟨hnone, hdirectory, q, hq, hvisits⟩
    · rw [hsame]
      exact h.nodes place
    · rw [FileSystem.Visits, h.grown.start] at hvisits
      rcases h.nodes place with hsame | ⟨-, hdirectory', -⟩
      · exact .inr ⟨hsame ▸ hnone, hdirectory, q, hq, hvisits⟩
      · rw [hdirectory'] at hnone
        cases hnone

instance : Std.Refl (ExtendsAlong paths) := ⟨refl paths⟩

instance : IsTrans FileSystem (ExtendsAlong paths) := ⟨fun _ _ _ => trans⟩

end ExtendsAlong

-- ---------------------------------------------------------------------------
-- Directories that are there
-- ---------------------------------------------------------------------------

namespace FileAction

variable {p : Path} {fs fs' : FileSystem} {tolerant : Bool}

/-- A directory that is there is tolerated. -/
theorem run_makeDirectories_of_isDirectory (h : fs.isDirectory p = true) :
    makeDirectories true p fs = (.ok (), fs) := by
  obtain ⟨hzero, goal, hstat⟩ := isDirectory_iff.mp h
  obtain ⟨hlocate, hnode⟩ := stat_eq_ok_iff.mp hstat
  have hmade : makeDirectory p fs = (.error (.refused .alreadyExists p), fs) := by
    rw [run_makeDirectory, run_place]
    simp [hzero, hlocate, hnode]
  rw [makeDirectories, run_tryCatch, hmade]
  simp [unlessDirectory, run_bind, FileFault.isRefusal, h]

theorem isDirectory_of_unlessDirectory {fault : FileFault}
    (h : unlessDirectory tolerant p fault fs = (.ok (), fs')) : fs'.isDirectory p = true := by
  unfold unlessDirectory at h
  obtain ⟨found, _, hget, h⟩ := bind_eq_ok_iff.mp h
  cases hget
  split at h
  · rename_i hthere
    cases h
    simp only [Bool.and_eq_true] at hthere
    exact hthere.2
  · cases h

/-- A directory is made where nothing was. -/
theorem eq_put_of_makeDirectory (h : makeDirectory p fs = (.ok (), fs')) :
    hasZero p = false ∧ ∃ goal, fs.locate p = .ok goal ∧ fs.node? goal = none ∧ goal ≠ [] ∧
      fs' = fs.put goal .directory := by
  rw [run_makeDirectory, run_place] at h
  cases hzero : hasZero p with
  | true =>
    rw [hzero] at h
    cases h
  | false =>
    simp only [hzero, Bool.false_eq_true, if_false] at h
    cases hlocate : fs.locate p with
    | error refusal =>
      rw [hlocate] at h
      cases h
    | ok goal =>
      simp only [hlocate] at h
      cases hnode : fs.node? goal with
      | some node =>
        rw [hnode] at h
        cases h
      | none =>
        rw [hnode] at h
        cases h
        refine ⟨rfl, goal, rfl, hnode, ?_, rfl⟩
        rintro rfl
        cases hnode

theorem isDirectory_of_makeDirectory (h : makeDirectory p fs = (.ok (), fs')) :
    fs'.isDirectory p = true := by
  have hgrown : Grown fs fs' := ((extends_makeDirectory p).of_eq h).grown
  obtain ⟨hzero, goal, hlocate, -, hroot, rfl⟩ := eq_put_of_makeDirectory h
  refine isDirectory_iff.mpr ⟨hzero, goal, stat_eq_ok_iff.mpr ⟨hgrown.locate hlocate, ?_⟩⟩
  rw [node?_put hroot, if_pos rfl]

/-- A directory that was made, or was tolerated, is there. -/
theorem isDirectory_of_makeDirectories (h : makeDirectories tolerant p fs = (.ok (), fs')) :
    fs'.isDirectory p = true := by
  rw [makeDirectories] at h
  rcases tryCatch_eq_ok_iff.mp h with hmade | ⟨fault, t, -, h⟩
  · exact isDirectory_of_makeDirectory hmade
  · split at h
    · split at h
      · cases h
      · obtain ⟨_, u, -, h⟩ := bind_eq_ok_iff.mp h
        rcases tryCatch_eq_ok_iff.mp h with hmade | ⟨fault, t, -, h⟩
        · exact isDirectory_of_makeDirectory hmade
        · split at h
          · cases h
          · exact isDirectory_of_unlessDirectory h
    · exact isDirectory_of_unlessDirectory h

theorem unlessDirectory_intolerant (p : Path) (fault : FileFault) (fs : FileSystem) :
    unlessDirectory false p fault fs = (.error fault, fs) := by
  simp [unlessDirectory, run_bind]

/-- A directory that must not be there yet is made where nothing is, once those above it are. -/
theorem exists_makeDirectory (h : makeDirectories false p fs = (.ok (), fs')) :
    ∃ between, Extends p fs between ∧ makeDirectory p between = (.ok (), fs') := by
  rw [makeDirectories] at h
  rcases tryCatch_eq_ok_iff.mp h with hmade | ⟨fault, t, hfault, h⟩
  · exact ⟨fs, .refl p fs, hmade⟩
  · have hfirst : Extends p fs t := (extends_makeDirectory p).of_eq hfault
    split at h
    · split at h
      · cases h
      · obtain ⟨_, u, hparent, h⟩ := bind_eq_ok_iff.mp h
        have hsecond : Extends p t u :=
          ((extends_makeDirectories true p.parent).of_eq hparent).of_parent
        rcases tryCatch_eq_ok_iff.mp h with hmade | ⟨fault, t, -, h⟩
        · exact ⟨u, hfirst.trans hsecond, hmade⟩
        · split at h
          · cases h
          · rw [unlessDirectory_intolerant] at h
            cases h
    · rw [unlessDirectory_intolerant] at h
      cases h

-- ---------------------------------------------------------------------------
-- One after another
-- ---------------------------------------------------------------------------

/-- Makes directories and their missing parents, one after another. -/
def makeAll (directories : List Path) : FileAction Unit :=
  directories.forM (makeDirectories true)

theorem extendsAlong_makeAll (directories : List Path) :
    Keeps (ExtendsAlong directories) (makeAll directories) :=
  Keeps.forM fun directory hdirectory =>
    (extends_makeDirectories true directory).mono fun _ _ h => .of_extends h hdirectory

/-- Directories that were made are there in the end. -/
theorem isDirectory_of_makeAll {directories : List Path}
    (h : makeAll directories fs = (.ok (), fs')) :
    ∀ directory ∈ directories, fs'.isDirectory directory = true := by
  induction directories generalizing fs with
  | nil => exact nofun
  | cons directory directories ih =>
    obtain ⟨_, made, hmake, hrest⟩ := bind_eq_ok_iff.mp h
    refine List.forall_mem_cons.mpr ⟨?_, ih hrest⟩
    have hgrown : Grown made fs' := ((extendsAlong_makeAll directories).of_eq hrest).grown
    exact hgrown.isDirectory (isDirectory_of_makeDirectories hmake)

theorem makeAll_unchanged_iff {directories : List Path} :
    makeAll directories fs = (.ok (), fs) ↔
      ∀ directory ∈ directories, fs.isDirectory directory = true := by
  refine ⟨isDirectory_of_makeAll, fun h => ?_⟩
  induction directories with
  | nil => rfl
  | cons directory directories ih =>
    obtain ⟨hdirectory, hrest⟩ := List.forall_mem_cons.mp h
    exact (run_bind_of_ok (run_makeDirectories_of_isDirectory hdirectory)).trans (ih hrest)

end FileAction

end GroovyRounds
