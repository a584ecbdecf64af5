import GroovyRounds.Proofs.FileSystem.Walks

/-!
# Making directories

Making a directory with its parents adds directories, where nothing was, along
the path and nowhere else, whether it succeeds or not (`extends_makeDirectories`).
It succeeds if the way is open: no file stands on it, and the system takes its
names (`makeDirectories_of_open`).
-/

namespace GroovyRounds

-- ---------------------------------------------------------------------------
-- Along a path
-- ---------------------------------------------------------------------------

/-- The path visits the place. -/
def FileSystem.Visits (fs : FileSystem) (p : Path) (place : Location) : Prop :=
  ∃ front, front <+: p.names ∧ place = FileSystem.walk (fs.start p) front

/-- Directories were added along the path where nothing was, and nothing else changed. -/
structure Extends (p : Path) (before after : FileSystem) : Prop where
  cwd : after.cwd = before.cwd
  nodes : ∀ place, after.node? place = before.node? place ∨
    before.node? place = none ∧ after.node? place = some .directory ∧ before.Visits p place

namespace Extends

variable {p : Path} {a b c : FileSystem}

theorem start (h : Extends p a b) : b.start p = a.start p := by
  simp [FileSystem.start, h.cwd]

theorem refl (p : Path) (a : FileSystem) : Extends p a a :=
  ⟨rfl, fun _ => .inl rfl⟩

theorem trans (h : Extends p a b) (h' : Extends p b c) : Extends p a c where
  cwd := h'.cwd.trans h.cwd
  nodes place := by
    rcases h'.nodes place with hsame | ⟨hnone, hdirectory, hvisits⟩
    · rw [hsame]
      exact h.nodes place
    · rw [FileSystem.Visits, h.start] at hvisits
      rcases h.nodes place with hsame | ⟨hnone', hdirectory', -⟩
      · exact .inr ⟨hsame ▸ hnone, hdirectory, hvisits⟩
      · rw [hdirectory'] at hnone
        cases hnone

instance : Std.Refl (Extends p) := ⟨refl p⟩

instance : IsTrans FileSystem (Extends p) := ⟨fun _ _ _ => trans⟩

/-- What the parent visits, the path visits. -/
theorem of_parent (h : Extends p.parent a b) : Extends p a b where
  cwd := h.cwd
  nodes place := by
    rcases h.nodes place with hsame | ⟨hnone, hdirectory, front, hfront, rfl⟩
    · exact .inl hsame
    · exact .inr ⟨hnone, hdirectory, front, hfront.trans (List.dropLast_prefix p.names), rfl⟩

/-- What was there is still there. -/
theorem kept (h : Extends p a b) {place : Location} {node : Node}
    (hnode : a.node? place = some node) : b.node? place = some node := by
  rcases h.nodes place with hsame | ⟨hnone, -⟩
  · rw [hsame, hnode]
  · rw [hnode] at hnone
    cases hnone

/-- What the path does not visit was left alone. -/
theorem node?_of_not_visits {place : Location} (h : Extends p a b) (hnot : ¬ a.Visits p place) :
    b.node? place = a.node? place :=
  (h.nodes place).resolve_right fun hnew => hnot hnew.2.2

end Extends

namespace FileAction

open FileSystem Program

variable {p : Path} {fs fs' : FileSystem}

theorem run_makeDirectory (p : Path) (fs : FileSystem) :
    makeDirectory p fs = match (place p fs).1 with
      | .error fault => (.error fault, fs)
      | .ok place => match fs.node? place with
        | some _ => (.error (.refused .alreadyExists p), fs)
        | none => (.ok (), fs.put place .directory) := by
  unfold makeDirectory
  rw [run_bind, run_slot]
  cases (place p fs).1 with
  | error fault => rfl
  | ok place =>
    dsimp only [Except.map]
    cases fs.node? place <;> rfl

/-- A place that a path leads to is one that it visits. -/
theorem visits_of_place {place : Location} (h : (FileAction.place p fs).1 = .ok place) :
    fs.Visits p place := by
  rw [run_place] at h
  dsimp only at h
  split at h
  · cases h
  · split at h
    · rename_i found hlocate
      cases h
      obtain ⟨-, -, rfl⟩ := locate_eq_ok_iff.mp hlocate
      exact ⟨p.names, List.prefix_refl _, rfl⟩
    · cases h

theorem extends_makeDirectory (p : Path) : Keeps (Extends p) (makeDirectory p) := by
  intro fs
  rw [run_makeDirectory]
  cases hplace : (place p fs).1 with
  | error fault => exact Extends.refl p fs
  | ok place =>
    dsimp only
    cases hnode : fs.node? place with
    | some node => exact Extends.refl p fs
    | none =>
      have hroot : place ≠ [] := by
        rintro rfl
        cases hnode
      refine ⟨rfl, fun other => ?_⟩
      dsimp only
      rw [node?_put hroot]
      by_cases heq : other = place
      · subst heq
        exact .inr ⟨hnode, if_pos rfl, visits_of_place hplace⟩
      · exact .inl (if_neg heq)

/-- Making directories changes nothing off the path. -/
theorem extends_makeDirectories (tolerant : Bool) (p : Path) :
    Keeps (Extends p) (makeDirectories tolerant p) :=
  keeps_makeDirectories extends_makeDirectory (fun _ _ _ => Extends.of_parent) tolerant p

end FileAction

-- ---------------------------------------------------------------------------
-- Open ways
-- ---------------------------------------------------------------------------

namespace FileSystem

/-- The path starts at a directory and goes down, no file stands on its way or at its end, and the
system takes it and all paths above it. -/
structure Open (fs : FileSystem) (p : Path) : Prop where
  no_zero : hasZero p = false
  no_dots : ".." ∉ p.names
  fits : ∀ front, front <+: p.names →
    (Path.toString { p with names := front }).utf8ByteSize < pathLimit
  short : ∀ name ∈ p.names, name.utf8ByteSize ≤ nameLimit
  start : fs.node? (fs.start p) = some .directory
  clear : ∀ front, front <+: p.names → ∀ content executable,
    fs.node? (fs.start p ++ front) ≠ some (.file content executable)

variable {fs fs' : FileSystem} {place : Location} {names : List String} {p : Path}

theorem Open.parent (h : fs.Open p) : fs.Open p.parent where
  no_zero := hasZero_of_subset (List.dropLast_subset _) h.no_zero
  no_dots hm := h.no_dots (List.dropLast_subset _ hm)
  fits front hfront := h.fits front (hfront.trans (List.dropLast_prefix _))
  short name hm := h.short name (List.dropLast_subset _ hm)
  start := h.start
  clear front hfront := h.clear front (hfront.trans (List.dropLast_prefix _))

/-- All places on the way of the path, and that at its end, are directories. -/
def Paved (fs : FileSystem) (p : Path) : Prop :=
  ∀ front, front <+: p.names → fs.node? (fs.start p ++ front) = some .directory

/-- Making directories keeps a way open. -/
theorem Open.extends {q : Path} (h : fs.Open p) (hextends : Extends q fs fs') : fs'.Open p := by
  have hstart : fs'.start p = fs.start p := by simp [FileSystem.start, hextends.cwd]
  refine { h with start := ?_, clear := fun front hfront content executable => ?_ }
  · rw [hstart]
    exact hextends.kept h.start
  · rw [hstart]
    rcases hextends.nodes (fs.start p ++ front) with hsame | ⟨-, hdirectory, -⟩
    · rw [hsame]
      exact h.clear front hfront content executable
    · rw [hdirectory]
      exact nofun

theorem prefix_dropLast {front : List String} (h : front <+: names) (hne : front ≠ names) :
    front <+: names.dropLast := by
  obtain ⟨rest, rfl⟩ := h
  have hrest : rest ≠ [] := by
    rintro rfl
    exact hne (List.append_nil _).symm
  rw [List.dropLast_append_of_ne_nil hrest]
  exact List.prefix_append _ _

/-- A walk down without a file on its way ends, or misses a directory. -/
theorem descend_of_clear (hdots : ".." ∉ names)
    (hshort : ∀ name ∈ names, name.utf8ByteSize ≤ nameLimit)
    (hclear : ∀ front, front <+: names → ∀ content executable,
      fs.node? (place ++ front) ≠ some (.file content executable)) :
    (fs.descend place names = .ok (place ++ names) ∧ ∀ front, front <+: names → front ≠ names →
      fs.node? (place ++ front) = some .directory) ∨
      fs.descend place names = .error .notFound := by
  induction names generalizing place with
  | nil =>
    left
    exact ⟨by simp [descend], fun front hfront hne => absurd (List.prefix_nil.mp hfront) hne⟩
  | cons name names ih =>
    rw [List.mem_cons, not_or] at hdots
    obtain ⟨hname, hrest⟩ := List.forall_mem_cons.mp hshort
    cases hnode : fs.node? place with
    | none => exact .inr (by simp [descend, hnode])
    | some node =>
      cases node with
      | file content executable =>
        exact absurd hnode (by simpa using hclear [] List.nil_prefix content executable)
      | directory =>
        have hstep : fs.descend place (name :: names) = fs.descend (place ++ [name]) names := by
          simp [descend, hnode, Ne.symm hdots.1, Nat.not_lt_of_le hname]
        have hclear' (front : List String) (hfront : front <+: names) (content : List UInt8)
            (executable : Bool) :
            fs.node? (place ++ [name] ++ front) ≠ some (.file content executable) := by
          have hbelow := hclear (name :: front) (List.cons_prefix_cons.mpr ⟨rfl, hfront⟩)
          simpa using hbelow content executable
        rw [hstep]
        rcases ih hdots.2 hrest hclear' with ⟨hok, hway⟩ | hmissing
        · refine .inl ⟨by simpa using hok, fun front hfront hne => ?_⟩
          cases front with
          | nil => simpa using hnode
          | cons other front =>
            obtain ⟨rfl, hfront'⟩ := List.cons_prefix_cons.mp hfront
            simpa using hway front hfront' (by simpa using hne)
        · exact .inr hmissing

/-- An open way can be walked, or misses a directory. -/
theorem Open.locate (h : fs.Open p) :
    (fs.locate p = .ok (fs.start p ++ p.names) ∧ ∀ front, front <+: p.names → front ≠ p.names →
      fs.node? (fs.start p ++ front) = some .directory) ∨ fs.locate p = .error .notFound := by
  have hfits : ¬ pathLimit ≤ p.toString.utf8ByteSize :=
    Nat.not_le_of_lt (h.fits p.names (List.prefix_refl _))
  rw [FileSystem.locate, if_neg hfits]
  exact descend_of_clear h.no_dots h.short h.clear

/-- What lies at the end of an open way, if anything, is a directory. -/
theorem Open.node?_end (h : fs.Open p) :
    fs.node? (fs.start p ++ p.names) = none ∨
      fs.node? (fs.start p ++ p.names) = some .directory := by
  cases hnode : fs.node? (fs.start p ++ p.names) with
  | none => exact .inl rfl
  | some node =>
    cases node with
    | file content executable => exact absurd hnode (h.clear _ (List.prefix_refl _) _ _)
    | directory => exact .inr rfl

/-- A way is walked to its end if all above that are directories. -/
theorem Open.locate_of_paved (h : fs.Open p) (hparent : fs.Paved p.parent) :
    fs.locate p = .ok (fs.start p ++ p.names) := by
  have hwalk {front : List String} (hfront : front <+: p.names) :
      walk (fs.start p) front = fs.start p ++ front :=
    walk_of_plain fun hm => h.no_dots (hfront.subset hm)
  refine locate_eq_ok_iff.mpr ⟨h.fits _ (List.prefix_refl _), ⟨fun front hfront hne => ?_,
    fun name hm _ => h.short name hm⟩, (hwalk (List.prefix_refl _)).symm⟩
  rw [hwalk hfront]
  exact hparent front (prefix_dropLast hfront hne)

theorem Open.isDirectory_of_paved (h : fs.Open p) (hpaved : fs.Paved p) :
    fs.isDirectory p = true := by
  have hparent : fs.Paved p.parent :=
    fun front hfront => hpaved front (hfront.trans (List.dropLast_prefix _))
  have hstat : fs.stat p = .ok (fs.start p ++ p.names, .directory) := by
    rw [FileSystem.stat, h.locate_of_paved hparent]
    simp only [hpaved p.names (List.prefix_refl _)]
  simp [FileSystem.isDirectory, hstat, h.no_zero]

end FileSystem

namespace FileAction

open FileSystem Program

variable {p : Path} {fs : FileSystem} {tolerant : Bool}

/-- Making a directory at the end of an open way: it is made, or is there, or the way is not. -/
theorem run_makeDirectory_of_open (h : fs.Open p) :
    (∃ fs', makeDirectory p fs = (.ok (), fs') ∧ fs'.Paved p ∧
        fs.node? (fs.start p ++ p.names) = none) ∨
      makeDirectory p fs = (.error (.refused .alreadyExists p), fs) ∧ fs.Paved p ∨
      makeDirectory p fs = (.error (.refused .notFound p), fs) ∧
        fs.locate p = .error .notFound := by
  rw [run_makeDirectory, run_place, h.no_zero]
  rcases h.locate with ⟨hlocate, hway⟩ | hmissing
  · simp only [hlocate, Bool.false_eq_true, if_false]
    rcases h.node?_end with hnone | hdirectory
    · left
      have hroot : fs.start p ++ p.names ≠ [] := by
        intro hnil
        rw [hnil] at hnone
        cases hnone
      refine ⟨fs.put (fs.start p ++ p.names) .directory, by simp [hnone], ?_, hnone⟩
      intro front hfront
      change (fs.put _ _).node? (fs.start p ++ front) = _
      rw [node?_put hroot]
      by_cases heq : front = p.names
      · simp [heq]
      · rw [if_neg (by simpa using heq), hway front hfront heq]
    · right
      left
      refine ⟨by simp [hdirectory], fun front hfront => ?_⟩
      by_cases heq : front = p.names
      · rw [heq, hdirectory]
      · exact hway front hfront heq
  · right
    right
    simp [hmissing]

/-- Directories are made along an open way. If one is at its end already, the caller has to
tolerate that. -/
theorem makeDirectories_of_open (h : fs.Open p)
    (hend : tolerant = true ∨ fs.node? (fs.start p ++ p.names) = none) :
    ∃ fs', makeDirectories tolerant p fs = (.ok (), fs') ∧ fs'.Paved p := by
  induction tolerant, p using makeDirectories.induct generalizing fs with
  | case1 tolerant p ih =>
    have hthere {fs : FileSystem} (h : fs.Open p) (hpaved : fs.Paved p)
        (htolerant : tolerant = true) :
        unlessDirectory tolerant p (.refused .alreadyExists p) fs = (.ok (), fs) := by
      simp [unlessDirectory, run_bind, FileFault.isRefusal, htolerant,
        h.isDirectory_of_paved hpaved]
    have hpaved_none {fs : FileSystem} (hpaved : fs.Paved p) :
        fs.node? (fs.start p ++ p.names) ≠ none := by
      rw [hpaved _ (List.prefix_refl _)]
      exact nofun
    rw [makeDirectories, run_tryCatch]
    rcases run_makeDirectory_of_open h with ⟨fs', hmade, hpaved, -⟩ | ⟨hmade, hpaved⟩ |
      ⟨hmade, hmissing⟩
    · exact ⟨fs', by rw [hmade], hpaved⟩
    · have htolerant := hend.resolve_right (hpaved_none hpaved)
      exact ⟨fs, by simp [hmade, hthere h hpaved htolerant], hpaved⟩
    · have hnames : p.names ≠ [] := by
        intro hnil
        have hlocate := h.locate_of_paved fun front hfront => ?_
        · rw [hmissing] at hlocate
          cases hlocate
        · have hfront' : front = [] :=
            List.prefix_nil.mp (by simpa [Path.parent, hnil] using hfront)
          subst hfront'
          change fs.node? (fs.start p ++ []) = _
          rw [List.append_nil]
          exact h.start
      obtain ⟨fs₁, hparent, hpaved⟩ := ih hnames h.parent (.inl rfl)
      have hextends := (extends_makeDirectories true p.parent).of_eq hparent
      have hopen : fs₁.Open p := h.extends hextends
      have hlocate := hopen.locate_of_paved hpaved
      simp only [hmade, if_true, hnames, dif_neg, not_false_eq_true]
      rw [run_bind_of_ok hparent, run_tryCatch]
      rcases run_makeDirectory_of_open hopen with ⟨fs', hmade', hpaved', -⟩ | ⟨hmade', hpaved'⟩ |
        ⟨-, hmissing'⟩
      · exact ⟨fs', by rw [hmade'], hpaved'⟩
      · refine ⟨fs₁, ?_, hpaved'⟩
        have htolerant : tolerant = true := by
          refine hend.resolve_right fun hnone => ?_
          have hstart : fs₁.start p = fs.start p := by simp [FileSystem.start, hextends.cwd]
          rcases hextends.nodes (fs.start p ++ p.names) with hsame | ⟨-, -, front, hfront, hwalk⟩
          · exact hpaved_none hpaved' (by rw [hstart, hsame, hnone])
          · have hdots : ".." ∉ front := fun hm =>
              h.no_dots (List.dropLast_subset _ (hfront.subset hm))
            rw [walk_of_plain hdots] at hwalk
            have heq : p.names = front := List.append_cancel_left hwalk
            have hlength := hfront.length_le
            have hpos := List.length_pos_iff.mpr hnames
            simp only [Path.parent, ← heq, List.length_dropLast] at hlength
            omega
        simp [hmade', hthere hopen hpaved' htolerant]
      · rw [hlocate] at hmissing'
        cases hmissing'

end FileAction

end GroovyRounds
