import GroovyRounds.Proofs.Canonical
import GroovyRounds.Proofs.FileSystem.Growth

/-!
# Moves that are refused

A move between paths without the zero character fails by a refusal of the system
only, and then it has made directories on the way to the new place at most: what
is to be moved stays where it is (`moveDeep_refused`). The exception is a
directory at a path that ends in no name of its own, which can be emptied by a
move that is refused.
-/

namespace GroovyRounds.FileAction

open FileSystem Program

variable {source target place p : Path} {fs fs' : FileSystem} {fault : FileFault}
variable {tolerant : Bool}

-- ---------------------------------------------------------------------------
-- Faults that are refusals
-- ---------------------------------------------------------------------------

/-- If the action fails, the system refused it. -/
def FailsByRefusal {α : Type} (action : FileAction α) : Prop :=
  ∀ fs fault fs', action fs = (.error fault, fs') → fault.isRefusal = true

namespace FailsByRefusal

variable {α β : Type} {action : FileAction α}

theorem pure (a : α) : FailsByRefusal (pure a) := by
  rintro fs fault fs' ⟨⟩

theorem throw (h : fault.isRefusal = true) : FailsByRefusal (throw fault : FileAction α) := by
  rintro fs fault' fs' ⟨⟩
  exact h

theorem get : FailsByRefusal (get : FileAction FileSystem) := by
  rintro fs fault fs' ⟨⟩

theorem bind {next : α → FileAction β} (h : FailsByRefusal action)
    (hnext : ∀ a, FailsByRefusal (next a)) : FailsByRefusal (action >>= next) := by
  intro fs fault fs' hrun
  rw [run_bind] at hrun
  cases haction : action fs with
  | mk result after =>
    rw [haction] at hrun
    cases result with
    | ok a => exact hnext a _ _ _ hrun
    | error found =>
      cases hrun
      exact h _ _ _ haction

theorem tryCatch {handle : FileFault → FileAction α} (h : FailsByRefusal action)
    (hhandle : ∀ fault, fault.isRefusal = true → FailsByRefusal (handle fault)) :
    FailsByRefusal (tryCatch action handle) := by
  intro fs fault fs' hrun
  rw [run_tryCatch] at hrun
  cases haction : action fs with
  | mk result after =>
    rw [haction] at hrun
    cases result with
    | ok a => cases hrun
    | error found => exact hhandle found (h _ _ _ haction) _ _ _ hrun

end FailsByRefusal

theorem failsByRefusal_makeDirectory (hzero : hasZero p = false) :
    FailsByRefusal (makeDirectory p) := by
  intro fs fault fs' h
  rw [run_makeDirectory, run_place, hzero] at h
  simp only [Bool.false_eq_true, if_false] at h
  cases hlocate : fs.locate p with
  | error refusal =>
    rw [hlocate] at h
    cases h
    rfl
  | ok place =>
    simp only [hlocate] at h
    split at h <;> cases h
    rfl

theorem failsByRefusal_unlessDirectory (h : fault.isRefusal = true) :
    FailsByRefusal (unlessDirectory tolerant p fault) := by
  unfold unlessDirectory
  refine .bind .get fun fs => ?_
  split
  · exact .pure _
  · exact .throw h

theorem failsByRefusal_makeDirectories (tolerant : Bool) (p : Path) (hzero : hasZero p = false) :
    FailsByRefusal (makeDirectories tolerant p) := by
  fun_induction makeDirectories tolerant p with
  | case1 tolerant p ih =>
    refine .tryCatch (failsByRefusal_makeDirectory hzero) fun fault hfault => ?_
    split
    · split
      · exact .throw hfault
      · rename_i hnames
        refine .bind (ih hnames (hasZero_of_subset (List.dropLast_subset _) hzero)) fun _ => ?_
        refine .tryCatch (failsByRefusal_makeDirectory hzero) fun fault hfault => ?_
        split
        · exact .throw hfault
        · exact failsByRefusal_unlessDirectory hfault
    · exact failsByRefusal_unlessDirectory hfault

-- ---------------------------------------------------------------------------
-- Renaming and copying
-- ---------------------------------------------------------------------------

/-- A walk is never refused because something is busy. -/
theorem descend_ne_busy {here : Location} {names : List String} {refusal : Refusal}
    (h : fs.descend here names = .error refusal) : refusal ≠ .busy := by
  induction names generalizing here with
  | nil => cases h
  | cons name names ih =>
    rw [descend] at h
    split at h
    · cases h
      rintro ⟨⟩
    · cases h
      rintro ⟨⟩
    · split at h
      · exact ih h
      · split at h
        · cases h
          rintro ⟨⟩
        · exact ih h

theorem locate_ne_busy {refusal : Refusal} (h : fs.locate p = .error refusal) :
    refusal ≠ .busy := by
  unfold locate at h
  split at h
  · cases h
    exact nofun
  · exact descend_ne_busy h

theorem stat_ne_busy {refusal : Refusal} (h : fs.stat p = .error refusal) : refusal ≠ .busy := by
  unfold stat at h
  split at h
  · rename_i hlocate
    cases h
    exact locate_ne_busy hlocate
  · split at h <;> cases h
    exact nofun

theorem run_takePlace_refused {here goal : Location} {node : Node} {there : Option Node}
    (h : takePlace target here goal node there fs = (.error fault, fs')) :
    fs' = fs ∧ ∃ refusal, fault = .refused refusal target ∧ refusal ≠ .busy := by
  rcases there with _ | ⟨content, executable⟩ | _ <;>
    rcases node with ⟨content', executable'⟩ | _ <;> cases h <;> exact ⟨rfl, _, rfl, nofun⟩

/-- A renaming that is refused changes nothing. Only a path that ends in no name is busy. -/
theorem rename_refused (hsource : hasZero source = false) (htarget : hasZero target = false)
    (h : rename source target fs = (.error fault, fs')) :
    fs' = fs ∧ ∃ refusal path, fault = .refused refusal path ∧
      (refusal = .busy → endsInDots source = true ∨ endsInDots target = true) := by
  unfold rename at h
  rw [run_bind, run_place, hsource] at h
  simp only [Bool.false_eq_true, if_false] at h
  cases hlocate : fs.locate source with
  | error refusal =>
    rw [hlocate] at h
    cases h
    exact ⟨rfl, refusal, source, rfl, fun hbusy => absurd hbusy (locate_ne_busy hlocate)⟩
  | ok here =>
    simp only [hlocate] at h
    rw [run_bind, run_slot, run_place, htarget] at h
    simp only [Bool.false_eq_true, if_false] at h
    cases hgoal : fs.locate target with
    | error refusal =>
      rw [hgoal] at h
      cases h
      exact ⟨rfl, refusal, target, rfl, fun hbusy => absurd hbusy (locate_ne_busy hgoal)⟩
    | ok goal =>
      simp only [hgoal, Except.map] at h
      split at h
      · rename_i hends
        cases h
        exact ⟨rfl, .busy, source, rfl, fun _ => by simpa using hends⟩
      · rw [run_bind, run_entry, hsource] at h
        simp only [Bool.false_eq_true, if_false] at h
        cases hstat : fs.stat source with
        | error refusal =>
          rw [hstat] at h
          cases h
          exact ⟨rfl, refusal, source, rfl, fun hbusy => absurd hbusy (stat_ne_busy hstat)⟩
        | ok found =>
          simp only [hstat] at h
          split at h
          · cases h
          · split at h
            · cases h
              exact ⟨rfl, .invalid, source, rfl, nofun⟩
            · obtain ⟨hsame, refusal, hfault, hbusy⟩ := run_takePlace_refused h
              exact ⟨hsame, refusal, target, hfault, fun hother => absurd hother hbusy⟩

/-- A move of what is at a path leaves it there unless it is made: a file is at the path, or
neither the path nor the new one ends without a name of its own. -/
def Stays (fs : FileSystem) (source target : Path) : Prop :=
  (∃ place content executable, fs.stat source = .ok (place, .file content executable)) ∨
    endsInDots source = false ∧ endsInDots target = false

/-- A copy of a directory is refused. It changes something only where a path was busy. -/
theorem copyDirectory_refused {here : Location} {cause : FileFault} (hzero : hasZero place = false)
    (hcause : cause.isRefusal = true)
    (h : copyDirectory source place here cause fs = (.error fault, fs')) :
    fault.isRefusal = true ∧ (cause ≠ .refused .busy source → fs' = fs) := by
  unfold copyDirectory at h
  rw [run_bind, run_slot, run_place, hzero] at h
  simp only [Bool.false_eq_true, if_false] at h
  cases hlocate : fs.locate place with
  | error refusal =>
    rw [hlocate] at h
    cases h
    exact ⟨rfl, fun _ => rfl⟩
  | ok goal =>
    simp only [hlocate, Except.map] at h
    cases hnode : fs.node? goal with
    | some node =>
      rw [hnode] at h
      cases h
      exact ⟨rfl, fun _ => rfl⟩
    | none =>
      simp only [hnode] at h
      split at h
      · rename_i hbusy
        cases h
        exact ⟨rfl, fun hne => absurd hbusy hne⟩
      · cases h
        exact ⟨hcause, fun _ => rfl⟩

theorem copyOver_refused {cause : FileFault} (hsource : hasZero source = false)
    (hplace : hasZero place = false) (hcause : cause.isRefusal = true)
    (hbusy : cause = .refused .busy source → endsInDots source = true ∨ endsInDots place = true)
    (h : copyOver source target place cause fs = (.error fault, fs')) :
    fault.isRefusal = true ∧ (Stays fs source place → fs' = fs) := by
  unfold copyOver at h
  rw [run_bind, run_entry, hsource] at h
  simp only [Bool.false_eq_true, if_false] at h
  cases hstat : fs.stat source with
  | error refusal =>
    rw [hstat] at h
    cases h
    exact ⟨rfl, fun _ => rfl⟩
  | ok found =>
    obtain ⟨here, node⟩ := found
    simp only [hstat] at h
    cases node with
    | file content executable =>
      cases h
      exact ⟨hcause, fun _ => rfl⟩
    | directory =>
      simp only [run_bind, run_get] at h
      split at h
      · cases h
        exact ⟨rfl, fun _ => rfl⟩
      · obtain ⟨hfault, hkept⟩ := copyDirectory_refused hplace hcause h
        refine ⟨hfault, fun hstays => hkept fun hcaused => ?_⟩
        rcases hstays with ⟨_, _, _, hfile⟩ | ⟨hnamed, hnamed'⟩
        · rw [hstat] at hfile
          cases hfile
        · rw [hnamed, hnamed'] at hbusy
          simpa using hbusy hcaused

theorem renameOrCopy_refused (hsource : hasZero source = false) (hplace : hasZero place = false)
    (h : renameOrCopy source target place fs = (.error fault, fs')) :
    fault.isRefusal = true ∧ (Stays fs source place → fs' = fs) := by
  unfold renameOrCopy at h
  rw [run_tryCatch] at h
  cases hrename : rename source place fs with
  | mk result after =>
    rw [hrename] at h
    cases result with
    | ok _ => cases h
    | error cause =>
      obtain ⟨rfl, refusal, path, rfl, hbusy⟩ := rename_refused hsource hplace hrename
      refine copyOver_refused hsource hplace rfl (fun hcause => ?_) h
      cases hcause
      exact hbusy rfl

-- ---------------------------------------------------------------------------
-- Moving
-- ---------------------------------------------------------------------------

/-- The last name of a path that was read leads into a directory, or the path has none. -/
theorem child_name (h : source.Valid) (p : Path) :
    source.names = [] ∧ p.child source.name = p ∨
      source.name ∈ source.names ∧ p.child source.name = p.inside [source.name] := by
  by_cases hnames : source.names = []
  · have hname : source.name = "" := by simp [Path.name, hnames]
    refine .inl ⟨hnames, ?_⟩
    rw [hname]
    exact (Path.append_relative p []).trans (by simp [Path.inside])
  · have hname : source.name ∈ source.names := by
      rw [Path.name, List.getLastD_eq_getLast?, List.getLast?_eq_some_getLast hnames]
      exact List.getLast_mem hnames
    exact .inr ⟨hname, Path.child_eq (h _ hname) p⟩

theorem hasZero_child (h : source.Valid) (hsource : hasZero source = false)
    (hp : hasZero p = false) : hasZero (p.child source.name) = false := by
  rcases child_name h p with ⟨-, heq⟩ | ⟨hname, heq⟩
  · rw [heq, hp]
  · rw [hasZero_eq_false_iff] at hsource hp
    rw [heq, hasZero_eq_false_iff]
    intro name hm
    rcases List.mem_append.mp hm with hm | hm
    · exact hp name hm
    · rw [List.mem_singleton.mp hm]
      exact hsource _ hname

/-- What stays when it is moved to a path stays when it is moved into it. -/
theorem Stays.child (h : Stays fs source target) (hvalid : source.Valid) :
    Stays fs source (target.child source.name) := by
  refine h.imp_right fun ⟨hsource, htarget⟩ => ⟨hsource, ?_⟩
  rcases child_name hvalid target with ⟨-, heq⟩ | ⟨-, heq⟩
  · rw [heq, htarget]
  · have hname : (target.inside [source.name]).name = source.name := by
      simp [Path.name, Path.inside]
    rw [heq, endsInDots, hname]
    exact hsource

theorem move_refused (hvalid : source.Valid) (hsource : hasZero source = false)
    (htarget : hasZero target = false) (h : move source target fs = (.error fault, fs')) :
    fault.isRefusal = true ∧ (Stays fs source target → fs' = fs) := by
  unfold move at h
  simp only [run_bind, run_get] at h
  split at h
  · split at h
    · obtain ⟨rfl, refusal, path, rfl, -⟩ := rename_refused hsource htarget h
      exact ⟨rfl, fun _ => rfl⟩
    · simp only [moveInto, run_bind, run_get] at h
      split at h
      · cases h
        exact ⟨rfl, fun _ => rfl⟩
      · obtain ⟨hfault, hkept⟩ :=
          renameOrCopy_refused hsource (hasZero_child hvalid hsource htarget) h
        exact ⟨hfault, fun hstays => hkept (hstays.child hvalid)⟩
  · exact renameOrCopy_refused hsource htarget h

theorem Stays.grown {a b : FileSystem} (hstays : Stays a source target) (h : Grown a b) :
    Stays b source target :=
  hstays.imp_left fun ⟨place, content, executable, hstat⟩ =>
    ⟨place, content, executable, h.stat hstat⟩

/-- A move into a directory that may have to be made fails by a refusal only. All it has done then
is to make directories on the way, if what it moves is to stay. -/
theorem moveDeep_refused (hvalid : source.Valid) (hsource : hasZero source = false)
    (htarget : hasZero target = false) (h : moveDeep source target fs = (.error fault, fs')) :
    fault.isRefusal = true ∧ (Stays fs source target → Extends target.parent fs fs') := by
  unfold moveDeep at h
  rw [run_bind] at h
  cases hmake : makeDirectories true target.parent fs with
  | mk result made =>
    have hextends : Extends target.parent fs made :=
      (extends_makeDirectories true target.parent).of_eq hmake
    rw [hmake] at h
    cases result with
    | error found =>
      cases h
      have hfault := failsByRefusal_makeDirectories true _
        (hasZero_of_subset (List.dropLast_subset _) htarget) _ _ _ hmake
      exact ⟨hfault, fun _ => hextends⟩
    | ok _ =>
      obtain ⟨hfault, hkept⟩ := move_refused hvalid hsource htarget h
      refine ⟨hfault, fun hstays => ?_⟩
      rw [hkept (hstays.grown hextends.grown)]
      exact hextends

end GroovyRounds.FileAction
