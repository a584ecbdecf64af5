import GroovyRounds.Proofs.FileSystem.Nodes
import GroovyRounds.Proofs.FileSystem.WorkingDirectory
import GroovyRounds.Proofs.Path

/-!
# Where paths lead

A walk ends where the names say, if it ends: every place it leaves is a
directory, and no name is too long. A path that leads down from the root ends
at the place of its own names. What a path leads to depends on the nodes on its
way only.
-/

namespace GroovyRounds

namespace FileSystem

variable {fs fs' : FileSystem} {place goal : Location} {names : List String} {p q : Path}

-- ---------------------------------------------------------------------------
-- The zero character
-- ---------------------------------------------------------------------------

theorem hasZero_eq_false_iff :
    hasZero p = false ↔ ∀ name ∈ p.names, Char.ofNat 0 ∉ name.toList := by
  simp only [hasZero, List.any_eq_false, List.contains_iff_mem]

theorem hasZero_of_subset (h : q.names ⊆ p.names) (hp : hasZero p = false) : hasZero q = false :=
  hasZero_eq_false_iff.mpr fun name hname => hasZero_eq_false_iff.mp hp name (h hname)

-- ---------------------------------------------------------------------------
-- Walks
-- ---------------------------------------------------------------------------

/-- Where a name leads from a place. -/
def step (place : Location) (name : String) : Location :=
  if name = ".." then place.dropLast else place ++ [name]

/-- Where names lead from a place, one after another. -/
def walk (place : Location) (names : List String) : Location :=
  names.foldl step place

theorem walk_of_plain (h : ".." ∉ names) : walk place names = place ++ names := by
  induction names generalizing place with
  | nil => simp [walk]
  | cons name names ih =>
    rw [List.mem_cons, not_or] at h
    have hstep : step place name = place ++ [name] := if_neg (Ne.symm h.1)
    rw [walk, List.foldl_cons, hstep, ← walk, ih h.2]
    simp

/-- A walk from a place can be made: it leaves directories only, and no name is too long. -/
structure Passable (fs : FileSystem) (place : Location) (names : List String) : Prop where
  directories : ∀ front, front <+: names → front ≠ names →
    fs.node? (walk place front) = some .directory
  short : ∀ name ∈ names, name ≠ ".." → name.utf8ByteSize ≤ nameLimit

theorem passable_nil (fs : FileSystem) (place : Location) : fs.Passable place [] where
  directories _ h hne := absurd (List.prefix_nil.mp h) hne
  short := nofun

theorem passable_cons_iff {name : String} :
    fs.Passable place (name :: names) ↔
      fs.node? place = some .directory ∧ (name ≠ ".." → name.utf8ByteSize ≤ nameLimit) ∧
        fs.Passable (step place name) names := by
  constructor
  · intro h
    refine ⟨h.directories [] List.nil_prefix (by simp), h.short name List.mem_cons_self, ?_, ?_⟩
    · intro front hfront hne
      exact h.directories (name :: front) (List.cons_prefix_cons.mpr ⟨rfl, hfront⟩) (by simpa)
    · exact fun other hother => h.short other (List.mem_cons_of_mem _ hother)
  · rintro ⟨hplace, hname, h⟩
    refine ⟨fun front hfront hne => ?_, List.forall_mem_cons.mpr ⟨hname, h.short⟩⟩
    cases front with
    | nil => exact hplace
    | cons other front =>
      obtain ⟨rfl, hrest⟩ := List.cons_prefix_cons.mp hfront
      exact h.directories front hrest (by simpa using hne)

theorem descend_eq_ok_iff :
    fs.descend place names = .ok goal ↔ fs.Passable place names ∧ goal = walk place names := by
  induction names generalizing place with
  | nil => simp [descend, walk, passable_nil, eq_comm]
  | cons name names ih =>
    rw [passable_cons_iff, descend]
    cases hnode : fs.node? place with
    | none => simp
    | some node =>
      cases node with
      | file content executable => simp
      | directory =>
        by_cases hdots : name = ".."
        · simp [hdots, ih, step, walk]
        · by_cases hlong : nameLimit < name.utf8ByteSize
          · simp [hdots, hlong, Nat.not_le_of_lt hlong]
          · simp [hdots, hlong, ih, step, walk, Nat.le_of_not_lt hlong]

theorem locate_eq_ok_iff :
    fs.locate p = .ok goal ↔
      p.toString.utf8ByteSize < pathLimit ∧ fs.Passable (fs.start p) p.names ∧
        goal = walk (fs.start p) p.names := by
  unfold locate
  by_cases hlong : pathLimit ≤ p.toString.utf8ByteSize
  · simp [hlong, Nat.not_lt_of_le hlong]
  · simp [hlong, descend_eq_ok_iff, Nat.lt_of_not_le hlong]

theorem stat_eq_ok_iff {node : Node} :
    fs.stat p = .ok (goal, node) ↔ fs.locate p = .ok goal ∧ fs.node? goal = some node := by
  unfold stat
  cases hlocate : fs.locate p with
  | error refusal => simp
  | ok place =>
    dsimp only
    constructor
    · intro h
      cases hnode : fs.node? place with
      | none =>
        rw [hnode] at h
        cases h
      | some there =>
        rw [hnode] at h
        cases h
        exact ⟨rfl, hnode⟩
    · rintro ⟨hplace, hnode⟩
      cases hplace
      rw [hnode]

-- ---------------------------------------------------------------------------
-- Down from the root
-- ---------------------------------------------------------------------------

/-- The path that leads down to a place can be walked. -/
structure Reachable (fs : FileSystem) (place : Location) : Prop where
  fits : (Path.below place).toString.utf8ByteSize < pathLimit
  short : ∀ name ∈ place, name.utf8ByteSize ≤ nameLimit
  directories : ∀ above, above <+: place → above ≠ place → fs.node? above = some .directory

theorem locate_below_iff (h : ".." ∉ place) :
    fs.locate (.below place) = .ok goal ↔ fs.Reachable place ∧ goal = place := by
  have hwalk {front : List String} (hfront : front <+: place) : walk [] front = front := by
    rw [walk_of_plain fun hmem => h (hfront.subset hmem)]
    exact List.nil_append front
  rw [locate_eq_ok_iff]
  change _ ∧ fs.Passable [] place ∧ goal = walk [] place ↔ _
  rw [hwalk (List.prefix_refl place)]
  constructor
  · rintro ⟨hfits, ⟨hdirectories, hshort⟩, rfl⟩
    refine ⟨⟨hfits, fun name hm => hshort name hm ?_, fun above habove hne => ?_⟩, rfl⟩
    · rintro rfl
      exact h hm
    · rw [← hwalk habove]
      exact hdirectories above habove hne
  · rintro ⟨⟨hfits, hshort, hdirectories⟩, rfl⟩
    refine ⟨hfits, ⟨fun front hfront hne => ?_, fun name hm _ => hshort name hm⟩, rfl⟩
    rw [hwalk hfront]
    exact hdirectories front hfront hne

theorem stat_below_iff (h : ".." ∉ place) {node : Node} :
    fs.stat (.below place) = .ok (goal, node) ↔
      fs.Reachable place ∧ goal = place ∧ fs.node? place = some node := by
  rw [stat_eq_ok_iff, locate_below_iff h]
  constructor
  · rintro ⟨⟨hreach, rfl⟩, hnode⟩
    exact ⟨hreach, rfl, hnode⟩
  · rintro ⟨hreach, rfl, hnode⟩
    exact ⟨⟨hreach, rfl⟩, hnode⟩

/-- Whether a place is reached depends on the directories above it. -/
theorem Reachable.congr (h : fs.Reachable place)
    (hsame : ∀ above, above <+: place → above ≠ place → fs'.node? above = fs.node? above) :
    fs'.Reachable place :=
  { h with
    directories := fun above ha hne => (hsame above ha hne).trans (h.directories above ha hne) }

end FileSystem

-- ---------------------------------------------------------------------------
-- Runs of the walking actions
-- ---------------------------------------------------------------------------

namespace FileAction

open FileSystem Program

theorem run_place (p : Path) (fs : FileSystem) :
    place p fs = (if hasZero p then .error .zeroCharacter
      else match fs.locate p with
        | .ok place => .ok place
        | .error refusal => .error (.refused refusal p), fs) := by
  unfold place
  by_cases hzero : hasZero p
  · simp [hzero]
  · simp only [hzero, Bool.false_eq_true, if_false, run_bind, run_get]
    cases fs.locate p <;> rfl

theorem run_entry (p : Path) (fs : FileSystem) :
    entry p fs = (if hasZero p then .error .zeroCharacter
      else match fs.stat p with
        | .ok found => .ok found
        | .error refusal => .error (.refused refusal p), fs) := by
  unfold entry
  by_cases hzero : hasZero p
  · simp [hzero]
  · simp only [hzero, Bool.false_eq_true, if_false, run_bind, run_get]
    cases fs.stat p <;> rfl

/-- What is done with an entry is done with the file system in which it was found. -/
theorem run_entry_bind (p : Path) (act : Location × Node → FileAction α) (fs : FileSystem) :
    (entry p >>= act) fs = match (entry p fs).1 with
      | .ok found => act found fs
      | .error fault => (.error fault, fs) := by
  have hentry : entry p fs = ((entry p fs).1, fs) := by rw [run_entry]
  rw [run_bind, hentry]
  cases (entry p fs).1 <;> rfl

theorem run_slot (p : Path) (fs : FileSystem) :
    slot p fs = ((place p fs).1.map fun place => (place, fs.node? place), fs) := by
  unfold slot
  rw [run_bind, run_place]
  cases (if hasZero p then .error .zeroCharacter
      else match fs.locate p with
        | .ok place => .ok place
        | .error refusal => .error (.refused refusal p) : Except FileFault Location) <;> rfl

end FileAction

end GroovyRounds
