import GroovyRounds.Build.Reconcile
import GroovyRounds.Proofs.Program

/-!
# The working directory

No action on files changes the working directory, so a relative path means the
same place all through a build. Actions that only look change nothing, so they
keep every relation between a file system and itself.
-/

namespace GroovyRounds

/-- The two file systems have one working directory. -/
def SameCwd (before after : FileSystem) : Prop :=
  after.cwd = before.cwd

instance : Std.Refl SameCwd := ⟨fun _ => rfl⟩

instance : IsTrans FileSystem SameCwd := ⟨fun _ _ _ h h' => Eq.trans h' h⟩

namespace FileAction

open Program

-- ---------------------------------------------------------------------------
-- Looking
-- ---------------------------------------------------------------------------

section
variable {R : FileSystem → FileSystem → Prop} [Std.Refl R] [IsTrans FileSystem R]

omit [IsTrans FileSystem R] in
theorem keeps_refuse (refusal : Refusal) (p : Path) : Keeps R (refuse refusal p : FileAction α) :=
  Keeps.throw _

theorem keeps_place (p : Path) : Keeps R (place p) := by
  unfold place
  split
  · exact Keeps.throw _
  · refine Keeps.bind Keeps.get fun fs => ?_
    split
    · exact Keeps.pure _
    · exact keeps_refuse _ _

theorem keeps_entry (p : Path) : Keeps R (entry p) := by
  unfold entry
  split
  · exact Keeps.throw _
  · refine Keeps.bind Keeps.get fun fs => ?_
    split
    · exact Keeps.pure _
    · exact keeps_refuse _ _

theorem keeps_slot (p : Path) : Keeps R (slot p) := by
  unfold slot
  exact Keeps.bind (keeps_place p) fun _ => Keeps.bind Keeps.get fun _ => Keeps.pure _

theorem keeps_probe (p : Path) : Keeps R (probe p) := by
  unfold probe
  refine Keeps.bind Keeps.get fun fs => ?_
  split
  · exact Keeps.pure _
  · exact Keeps.throw _

theorem keeps_unlessDirectory (tolerant : Bool) (p : Path) (fault : FileFault) :
    Keeps R (unlessDirectory tolerant p fault) := by
  unfold unlessDirectory
  refine Keeps.bind Keeps.get fun fs => ?_
  split
  · exact Keeps.pure _
  · exact Keeps.throw _

end

/-- Directories are made one at a time, those above a path before the one at it. -/
theorem keeps_makeDirectories {R : Path → FileSystem → FileSystem → Prop}
    [∀ p, Std.Refl (R p)] [∀ p, IsTrans FileSystem (R p)]
    (hmake : ∀ p, Keeps (R p) (makeDirectory p)) (hparent : ∀ p a b, R p.parent a b → R p a b)
    (tolerant : Bool) (p : Path) : Keeps (R p) (makeDirectories tolerant p) := by
  fun_induction makeDirectories tolerant p with
  | case1 tolerant p ih =>
    refine Keeps.tryCatch (hmake p) fun fault => ?_
    split
    · split
      · exact Keeps.throw _
      · rename_i hnames
        refine Keeps.bind ((ih hnames).mono (hparent p)) fun _ => ?_
        refine Keeps.tryCatch (hmake p) fun fault => ?_
        split
        · exact Keeps.throw _
        · exact keeps_unlessDirectory _ _ _
    · exact keeps_unlessDirectory _ _ _

-- ---------------------------------------------------------------------------
-- Directories
-- ---------------------------------------------------------------------------

theorem sameCwd_makeDirectory (p : Path) : Keeps SameCwd (makeDirectory p) := by
  unfold makeDirectory
  refine Keeps.bind (keeps_slot p) fun found => ?_
  split
  · exact keeps_refuse _ _
  · exact Keeps.modify fun _ => rfl

theorem sameCwd_makeDirectories (tolerant : Bool) (p : Path) :
    Keeps SameCwd (makeDirectories tolerant p) :=
  keeps_makeDirectories (R := fun _ => SameCwd) sameCwd_makeDirectory (fun _ _ _ h => h) tolerant p

theorem sameCwd_removeTree (p : Path) : Keeps SameCwd (removeTree p) := by
  unfold removeTree
  refine Keeps.bind (keeps_entry p) fun found => ?_
  split
  · exact Keeps.modify fun _ => rfl
  · exact keeps_refuse _ _

-- ---------------------------------------------------------------------------
-- Files
-- ---------------------------------------------------------------------------

theorem sameCwd_readBytes (p : Path) : Keeps SameCwd (readBytes p) := by
  unfold readBytes
  refine Keeps.bind (keeps_entry p) fun found => ?_
  split
  · exact Keeps.pure _
  · exact keeps_refuse _ _

theorem sameCwd_writeBytes (p : Path) (content : List UInt8) :
    Keeps SameCwd (writeBytes p content) := by
  unfold writeBytes
  refine Keeps.bind (keeps_slot p) fun found => ?_
  split
  · exact keeps_refuse _ _
  · exact Keeps.modify fun _ => rfl
  · exact Keeps.modify fun _ => rfl

theorem sameCwd_removeFile (p : Path) : Keeps SameCwd (removeFile p) := by
  unfold removeFile
  refine Keeps.bind (keeps_entry p) fun found => ?_
  split
  · exact Keeps.modify fun _ => rfl
  · exact keeps_refuse _ _

theorem sameCwd_removeFileIfPresent (p : Path) : Keeps SameCwd (removeFileIfPresent p) := by
  unfold removeFileIfPresent
  refine Keeps.tryCatch (sameCwd_removeFile p) fun fault => ?_
  split
  · exact Keeps.pure _
  · exact Keeps.throw _

theorem sameCwd_createFresh (directory : Path) (front back : String) (content : List UInt8) :
    Keeps SameCwd (createFresh directory front back content) := by
  unfold createFresh
  refine Keeps.bind Keeps.get fun fs => ?_
  exact Keeps.bind (sameCwd_writeBytes _ _) fun _ => Keeps.pure _

-- ---------------------------------------------------------------------------
-- Moving
-- ---------------------------------------------------------------------------

theorem sameCwd_takePlace (target : Path) (place goal : Location) (node : Node)
    (there : Option Node) : Keeps SameCwd (takePlace target place goal node there) := by
  unfold takePlace
  split
  · exact Keeps.modify fun _ => rfl
  · exact Keeps.modify fun _ => rfl
  all_goals exact keeps_refuse _ _

theorem sameCwd_rename (source target : Path) : Keeps SameCwd (rename source target) := by
  unfold rename
  refine Keeps.bind (keeps_place source) fun _ => ?_
  refine Keeps.bind (keeps_slot target) fun ⟨goal, there⟩ => ?_
  dsimp only
  split
  · exact keeps_refuse _ _
  · refine Keeps.bind (keeps_entry source) fun ⟨place, node⟩ => ?_
    split
    · exact Keeps.pure _
    · split
      · exact keeps_refuse _ _
      · exact sameCwd_takePlace _ _ _ _ _

theorem sameCwd_copyDirectory (source place : Path) (here : Location) (fault : FileFault) :
    Keeps SameCwd (copyDirectory source place here fault) := by
  unfold copyDirectory
  refine Keeps.bind (keeps_slot place) fun ⟨goal, there⟩ => ?_
  split
  · exact keeps_refuse _ _
  · split
    · exact Keeps.bind (Keeps.modify fun _ => rfl) fun _ => keeps_refuse _ _
    · exact Keeps.throw _

theorem sameCwd_copyOver (source target place : Path) (fault : FileFault) :
    Keeps SameCwd (copyOver source target place fault) := by
  unfold copyOver
  refine Keeps.bind (keeps_entry source) fun ⟨here, node⟩ => ?_
  split
  · refine Keeps.bind Keeps.get fun fs => ?_
    dsimp only
    split
    · exact Keeps.throw _
    · exact sameCwd_copyDirectory _ _ _ _
  · exact Keeps.throw _

theorem sameCwd_renameOrCopy (source target place : Path) :
    Keeps SameCwd (renameOrCopy source target place) := by
  unfold renameOrCopy
  refine Keeps.tryCatch (sameCwd_rename _ _) fun fault => ?_
  split
  · exact sameCwd_copyOver _ _ _ _
  · exact Keeps.throw _

theorem sameCwd_moveInto (source target : Path) : Keeps SameCwd (moveInto source target) := by
  unfold moveInto
  refine Keeps.bind Keeps.get fun fs => ?_
  split
  · exact Keeps.throw _
  · exact sameCwd_renameOrCopy _ _ _

theorem sameCwd_move (source target : Path) : Keeps SameCwd (move source target) := by
  unfold move
  refine Keeps.bind Keeps.get fun fs => ?_
  split
  · split
    · exact sameCwd_rename _ _
    · exact sameCwd_moveInto _ _
  · exact sameCwd_renameOrCopy _ _ _

theorem sameCwd_moveDeep (source target : Path) : Keeps SameCwd (moveDeep source target) :=
  Keeps.bind (sameCwd_makeDirectories _ _) fun _ => sameCwd_move _ _

end FileAction

end GroovyRounds
