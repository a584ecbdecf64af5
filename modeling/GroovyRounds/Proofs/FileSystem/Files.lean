import GroovyRounds.Proofs.FileSystem.Walks

/-!
# Files where paths lead

A path from the root that leads down to a file is the path by which the file is
read (`readBytes_below_iff`). A file that was written is found under the path it
was written to (`stat_of_writeBytes`), also under a fresh name
(`stat_of_createFresh`).
-/

namespace GroovyRounds

open FileSystem

-- ---------------------------------------------------------------------------
-- Places of files
-- ---------------------------------------------------------------------------

/-- A place that a path from the root can lead down to. -/
structure Path.Leads (place : Location) : Prop where
  ne_root : place ≠ []
  plain : ∀ name ∈ place, IsPlain name
  no_zero : hasZero (.below place) = false

namespace Path.Leads

variable {place : Location} (h : Path.Leads place)
include h

theorem no_dots : ".." ∉ place :=
  fun hm => (h.plain _ hm).ne_dots rfl

theorem endsInDots : FileAction.endsInDots (.below place) = false := by
  obtain ⟨last, hlast⟩ := Option.isSome_iff_exists.mp (List.getLast?_isSome.mpr h.ne_root)
  have hplain := h.plain last (List.mem_of_getLast? hlast)
  have hname : (Path.below place).name = last := by
    simp [Path.name, Path.below, List.getLastD_eq_getLast?, hlast]
  simp [FileAction.endsInDots, hname, hplain.ne_empty, hplain.ne_dots]

end Path.Leads

/-- A file with this content lies at the place, and a path leads there. -/
structure FileSystem.HoldsFile (fs : FileSystem) (place : Location) (content : List UInt8) :
    Prop where
  leads : Path.Leads place
  reachable : fs.Reachable place
  file : ∃ executable, fs.node? place = some (.file content executable)

theorem FileSystem.HoldsFile.stat {fs : FileSystem} {place : Location} {content : List UInt8}
    (h : fs.HoldsFile place content) :
    ∃ executable, fs.stat (.below place) = .ok (place, .file content executable) := by
  obtain ⟨executable, hfile⟩ := h.file
  exact ⟨executable, (stat_below_iff h.leads.no_dots).mpr ⟨h.reachable, rfl, hfile⟩⟩

namespace FileAction

open Program

variable {fs fs' : FileSystem} {p : Path} {content : List UInt8}

-- ---------------------------------------------------------------------------
-- Reading
-- ---------------------------------------------------------------------------

theorem run_readBytes (p : Path) (fs : FileSystem) :
    readBytes p fs = match (entry p fs).1 with
      | .ok (_, .file content _) => (.ok content, fs)
      | .ok (_, .directory) => (.error (.refused .isDirectory p), fs)
      | .error fault => (.error fault, fs) := by
  unfold readBytes
  rw [run_entry_bind]
  cases (entry p fs).1 with
  | error fault => rfl
  | ok found =>
    obtain ⟨place, node⟩ := found
    cases node <;> rfl

/-- What is read under a path from the root is the file at its place. -/
theorem readBytes_below_iff {place : Location} (hplain : ∀ name ∈ place, Path.IsPlain name) :
    readBytes (.below place) fs = (.ok content, fs') ↔ fs' = fs ∧ fs.HoldsFile place content := by
  have hdots : ".." ∉ place := fun hm => (hplain _ hm).ne_dots rfl
  constructor
  · intro h
    rw [run_readBytes, run_entry] at h
    cases hzero : hasZero (.below place) with
    | true =>
      simp only [hzero, if_true] at h
      cases h
    | false =>
      simp only [hzero, Bool.false_eq_true, if_false] at h
      cases hstat : fs.stat (.below place) with
      | error refusal =>
        simp only [hstat] at h
        cases h
      | ok found =>
        obtain ⟨goal, node⟩ := found
        obtain ⟨hreach, rfl, hnode⟩ := (stat_below_iff hdots).mp hstat
        simp only [hstat] at h
        cases node with
        | directory => cases h
        | file found executable =>
          cases h
          refine ⟨rfl, ⟨?_, hplain, hzero⟩, hreach, executable, hnode⟩
          rintro rfl
          cases hnode
  · rintro ⟨rfl, h⟩
    obtain ⟨executable, hstat⟩ := h.stat
    rw [run_readBytes, run_entry, h.leads.no_zero, hstat]
    rfl

-- ---------------------------------------------------------------------------
-- Writing
-- ---------------------------------------------------------------------------

/-- A node that is put where a path leads is found there, unless a directory was there. -/
theorem locate_put {place : Location} {node : Node} (h : fs.locate p = .ok place)
    (hnode : fs.node? place ≠ some .directory) : (fs.put place node).locate p = .ok place := by
  have hroot : place ≠ [] := by
    rintro rfl
    exact hnode rfl
  obtain ⟨hfits, ⟨hdirectories, hshort⟩, hgoal⟩ := locate_eq_ok_iff.mp h
  refine locate_eq_ok_iff.mpr ⟨hfits, ⟨fun front hfront hne => ?_, hshort⟩, hgoal⟩
  have hdirectory := hdirectories front hfront hne
  change (fs.put place node).node? (walk (fs.start p) front) = _
  rw [node?_put hroot, if_neg, hdirectory]
  intro heq
  exact hnode (heq ▸ hdirectory)

/-- What was written is found under the path it was written to. -/
theorem stat_of_writeBytes (h : writeBytes p content fs = (.ok (), fs')) :
    hasZero p = false ∧ ∃ place executable, fs'.stat p = .ok (place, .file content executable) := by
  have hput {place : Location} {executable : Bool} (hlocate : fs.locate p = .ok place)
      (hnode : fs.node? place ≠ some .directory) :
      (fs.put place (.file content executable)).stat p =
        .ok (place, .file content executable) := by
    have hroot : place ≠ [] := by
      rintro rfl
      exact hnode rfl
    rw [stat, locate_put hlocate hnode]
    simp only [node?_put hroot, if_true]
  unfold writeBytes at h
  obtain ⟨⟨place, there⟩, s, hslot, h⟩ := bind_eq_ok_iff.mp h
  rw [run_slot, run_place] at hslot
  cases hzero : hasZero p with
  | true =>
    simp only [hzero, if_true] at hslot
    cases hslot
  | false =>
    simp only [hzero, Bool.false_eq_true, if_false] at hslot
    cases hlocate : fs.locate p with
    | error refusal =>
      simp only [hlocate] at hslot
      cases hslot
    | ok goal =>
      simp only [hlocate] at hslot
      cases hslot
      cases hnode : fs.node? place with
      | none =>
        simp only [hnode] at h
        cases h
        exact ⟨rfl, place, false, hput hlocate (by simp [hnode])⟩
      | some node =>
        cases node with
        | directory =>
          simp only [hnode] at h
          cases h
        | file old executable =>
          simp only [hnode] at h
          cases h
          exact ⟨rfl, place, executable, hput hlocate (by simp [hnode])⟩

/-- Whether a file can be written does not depend on what is to be written. -/
theorem result_writeBytes (p : Path) (content other : List UInt8) (fs : FileSystem) :
    (writeBytes p content fs).1 = (writeBytes p other fs).1 := by
  unfold writeBytes
  rw [run_bind, run_bind]
  cases slot p fs with
  | mk result after =>
    cases result with
    | error fault => rfl
    | ok found =>
      obtain ⟨place, there⟩ := found
      rcases there with _ | (_ | _) <;> rfl

-- ---------------------------------------------------------------------------
-- Fresh names
-- ---------------------------------------------------------------------------

theorem no_slash_serial (n : Nat) : '/' ∉ (serial n).toList := by
  simp only [serial, String.toList_ofList, List.mem_append, not_or]
  refine ⟨fun hm => ?_, fun hm => ?_⟩
  · exact absurd (List.eq_of_mem_replicate hm) (by decide)
  · exact absurd (Nat.isDigit_of_mem_toDigits (by decide) (by decide) hm) (by decide)

theorem valid_child {directory : Path} {name : String} (h : directory.Valid)
    (hname : Path.IsComponent name) : (directory.child name).Valid := by
  have hempty : name.toList ≠ [] := fun heq => hname.ne_empty (String.toList_inj.mp heq)
  have hhead : name.toList.head? ≠ some '/' := by
    intro hslash
    exact hname.no_slash (List.mem_of_head? hslash)
  have hchild : directory.child name = { directory with names := directory.names ++ [name] } := by
    have hread : Path.ofString name = ⟨.relative, [name]⟩ := by
      rw [Path.ofString, Path.anchorOf_relative hhead, Path.namesOf_component hname]
    rw [Path.child, hread]
    rfl
  rw [hchild]
  intro other hother
  rcases List.mem_append.mp hother with hm | hm
  · exact h other hm
  · rw [List.mem_singleton.mp hm]
    exact hname

/-- A fresh file is written under one of the names that are tried, whatever its content. -/
theorem exists_candidate (directory : Path) (front back : String) (fs : FileSystem) :
    ∃ n, ∀ content, createFresh directory front back content fs = (do
      writeBytes (directory.child (front ++ serial n ++ back)) content
      return directory.child (front ++ serial n ++ back) : FileAction Path) fs := by
  refine ⟨((List.range (fs.nodes.length + 1)).find? fun n =>
    !fs.holdsSomething (directory.child (front ++ serial n ++ back))).getD 0, fun content => ?_⟩
  unfold createFresh
  rw [run_bind_of_ok (run_get fs)]

section
variable {directory : Path} {front back : String}

theorem createFresh_cases (h : createFresh directory front back content fs = (.ok p, fs')) :
    ∃ n, p = directory.child (front ++ serial n ++ back) ∧
      writeBytes p content fs = (.ok (), fs') := by
  obtain ⟨n, hcreate⟩ := exists_candidate directory front back fs
  rw [hcreate] at h
  obtain ⟨_, _, hwrite, h⟩ := bind_eq_ok_iff.mp h
  cases h
  exact ⟨n, rfl, hwrite⟩

/-- A file of a fresh name is found under its path, which can be spelled. -/
theorem stat_of_createFresh (hdirectory : directory.Valid)
    (hname : ∀ n, Path.IsComponent (front ++ serial n ++ back))
    (h : createFresh directory front back content fs = (.ok p, fs')) :
    p.Valid ∧ ∃ place executable, fs'.stat p = .ok (place, .file content executable) := by
  obtain ⟨n, rfl, hwrite⟩ := createFresh_cases h
  exact ⟨valid_child hdirectory (hname n), (stat_of_writeBytes hwrite).2⟩

theorem holdsSomething_of_createFresh
    (h : createFresh directory front back content fs = (.ok p, fs')) :
    fs'.holdsSomething p = true := by
  obtain ⟨n, -, hwrite⟩ := createFresh_cases h
  obtain ⟨hzero, place, executable, hstat⟩ := stat_of_writeBytes hwrite
  simp [holdsSomething, hstat, hzero]

/-- Whether a fresh file can be created does not depend on its content, nor does its name. -/
theorem result_createFresh (directory : Path) (front back : String)
    (content other : List UInt8) (fs : FileSystem) :
    (createFresh directory front back content fs).1 =
      (createFresh directory front back other fs).1 := by
  obtain ⟨n, hcreate⟩ := exists_candidate directory front back fs
  have hsame := result_writeBytes (directory.child (front ++ serial n ++ back)) content other fs
  rw [hcreate, hcreate, run_bind, run_bind]
  generalize writeBytes _ content fs = first at hsame ⊢
  generalize writeBytes _ other fs = second at hsame ⊢
  obtain ⟨result, after⟩ := first
  obtain ⟨_, after'⟩ := second
  cases hsame
  cases result <;> rfl

end

end FileAction

end GroovyRounds
