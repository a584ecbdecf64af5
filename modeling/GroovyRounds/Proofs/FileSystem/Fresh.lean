import GroovyRounds.Proofs.FileSystem.Vacancy
import Mathlib.Data.List.Nodup
import Mathlib.Data.List.Perm.Subperm

/-!
# Fresh files

Serial numbers are spelled differently, so of the names that are tried for a
fresh file one is not taken, and the file is created where nothing was
(`createFresh_of_free`). It can be removed again (`run_removeFileIfPresent`), and
a removal that did not fail leaves nothing (`removeFileIfPresent_cases`).
-/

namespace GroovyRounds.FileAction

open FileSystem Path Program

-- ---------------------------------------------------------------------------
-- Serial numbers
-- ---------------------------------------------------------------------------

/-- A serial number is read back from its digits. -/
theorem ofDigitChars_serial (n : Nat) : Nat.ofDigitChars 10 (serial n).toList 0 = n := by
  simp only [serial, String.toList_ofList, Nat.ofDigitChars_append,
    Nat.ofDigitChars_replicate_zero, Nat.mul_zero]
  exact Nat.ofDigitChars_ten_toDigits

theorem serial_inj {m n : Nat} (h : serial m = serial n) : m = n := by
  rw [← ofDigitChars_serial m, h, ofDigitChars_serial]

-- ---------------------------------------------------------------------------
-- Candidates
-- ---------------------------------------------------------------------------

/-- Where a fresh file may be put in a directory. -/
def freshPlace (directory : Location) (front back : String) (n : Nat) : Location :=
  directory ++ [front ++ serial n ++ back]

variable {directory : Location} {front back : String} {content : List UInt8}
variable {fs : FileSystem} {place : Location} {limit m n : Nat}

theorem freshPlace_inj (h : freshPlace directory front back m = freshPlace directory front back n) :
    m = n := by
  have hname : front ++ serial m ++ back = front ++ serial n ++ back :=
    List.singleton_inj.mp (List.append_cancel_left h)
  rw [String.append_assoc, String.append_assoc, String.append_right_inj,
    String.append_left_inj] at hname
  exact serial_inj hname

/-- Not all of so many candidates are taken. -/
theorem exists_free (fs : FileSystem) (directory : Location) (front back : String) :
    ∃ n ≤ fs.nodes.length, fs.node? (freshPlace directory front back n) = none := by
  by_contra htaken
  push Not at htaken
  have hmem : (List.range (fs.nodes.length + 1)).map (freshPlace directory front back) ⊆
      fs.nodes.map (·.1) := by
    intro place hplace
    obtain ⟨n, hn, rfl⟩ := List.mem_map.mp hplace
    have hnode := htaken n (Nat.le_of_lt_succ (List.mem_range.mp hn))
    rw [node?_of_ne_root (by simp [freshPlace]), ne_eq, List.lookup_eq_none_iff] at hnode
    push Not at hnode
    obtain ⟨entry, hentry, hkey⟩ := hnode
    have hplace : freshPlace directory front back n = entry.1 := by simpa using hkey
    exact hplace ▸ List.mem_map_of_mem hentry
  have hnodup : ((List.range (fs.nodes.length + 1)).map
      (freshPlace directory front back)).Nodup :=
    List.nodup_range.map fun _ _ => freshPlace_inj
  have hlength := (List.subperm_of_subset hnodup hmem).length_le
  simp only [List.length_map, List.length_range] at hlength
  omega

/-- A candidate in a directory that is there can be reached. -/
theorem reachable_freshPlace
    (hpaved : ∀ above, above <+: directory → fs.node? above = some .directory)
    (hadmissible : Admissible (freshPlace directory front back n)) :
    fs.Reachable (freshPlace directory front back n) where
  fits := hadmissible.fits
  short := hadmissible.short
  directories above habove hne := by
    have hup := prefix_dropLast habove hne
    rw [freshPlace, List.dropLast_concat] at hup
    exact hpaved above hup

section
variable (hdirectory : ∀ name ∈ directory, IsPlain name)
variable (hname : ∀ n, IsPlain (front ++ serial n ++ back))
include hdirectory hname

theorem plain_freshPlace (n : Nat) : ∀ name ∈ freshPlace directory front back n, IsPlain name := by
  intro name hm
  rcases List.mem_append.mp hm with hm | hm
  · exact hdirectory name hm
  · rw [List.mem_singleton.mp hm]
    exact hname n

variable (hpaved : ∀ above, above <+: directory → fs.node? above = some .directory)
include hpaved

theorem holdsSomething_freshPlace (hadmissible : Admissible (freshPlace directory front back n)) :
    fs.holdsSomething (below (freshPlace directory front back n)) =
      (fs.node? (freshPlace directory front back n)).isSome := by
  have hdots : ".." ∉ freshPlace directory front back n :=
    fun hm => (plain_freshPlace hdirectory hname n _ hm).ne_dots rfl
  have hlocate := (locate_below_iff hdots).mpr
    ⟨reachable_freshPlace hpaved hadmissible, rfl⟩
  cases hnode : fs.node? (freshPlace directory front back n) <;>
    simp [holdsSomething, stat, hlocate, hnode, hadmissible.no_zero]

variable (content) in
/-- A fresh file is created where nothing was, as long as there is a name for it that the system
takes. -/
theorem createFresh_of_free (hfree : fs.node? (freshPlace directory front back limit) = none)
    (hadmissible : ∀ n ≤ limit, Admissible (freshPlace directory front back n)) :
    ∃ n ≤ limit, ∃ executable, fs.node? (freshPlace directory front back n) = none ∧
      createFresh (below directory) front back content fs =
        (.ok (below (freshPlace directory front back n)),
          fs.put (freshPlace directory front back n) (.file content executable)) := by
  have hcandidate (n : Nat) : (below directory).child (front ++ serial n ++ back) =
      below (freshPlace directory front back n) := by
    rw [child_eq (hname n).toIsComponent]
    rfl
  have hholds {n : Nat} (hn : n ≤ limit) :=
    holdsSomething_freshPlace hdirectory hname hpaved (hadmissible n hn)
  obtain ⟨free, hlength, hnone⟩ := exists_free fs directory front back
  -- The number that is chosen is that of the first name not taken.
  obtain ⟨n, hfound, hn, hnode⟩ : ∃ n,
      (List.range (fs.nodes.length + 1)).find? (fun n =>
        !fs.holdsSomething (below (freshPlace directory front back n))) = some n ∧ n ≤ limit ∧
      fs.node? (freshPlace directory front back n) = none := by
    cases hfind : (List.range (fs.nodes.length + 1)).find? (fun n =>
        !fs.holdsSomething (below (freshPlace directory front back n))) with
    | none =>
      rw [List.find?_eq_none] at hfind
      have htaken {n : Nat} (hlength : n ≤ fs.nodes.length) (hn : n ≤ limit) :
          fs.node? (freshPlace directory front back n) ≠ none := by
        have hheld := hfind n (List.mem_range.mpr (Nat.lt_succ_of_le hlength))
        rw [hholds hn] at hheld
        simpa [Option.ne_none_iff_isSome] using hheld
      rcases Nat.le_total limit fs.nodes.length with hshort | hlong
      · exact absurd hfree (htaken hshort (Nat.le_refl _))
      · exact absurd hnone (htaken hlength (hlength.trans hlong))
    | some n =>
      obtain ⟨hnot, -, hfirst⟩ := List.find?_range_eq_some.mp hfind
      have hn : n ≤ limit := by
        by_contra hlate
        have hheld := hfirst limit (Nat.lt_of_not_le hlate)
        rw [hholds (Nat.le_refl _), hfree] at hheld
        cases hheld
      rw [hholds hn] at hnot
      exact ⟨n, rfl, hn, by simpa using hnot⟩
  have hleads : Leads (freshPlace directory front back n) :=
    ⟨by simp [freshPlace], plain_freshPlace hdirectory hname n, (hadmissible n hn).no_zero⟩
  obtain ⟨executable, hwrite⟩ := run_writeBytes_of_reachable content hleads
    (reachable_freshPlace hpaved (hadmissible n hn)) (by simp [hnode])
  refine ⟨n, hn, executable, hnode, ?_⟩
  unfold createFresh
  simp only [hcandidate, run_bind, run_get, hfound, Option.getD_some, hwrite, run_pure]

end

-- ---------------------------------------------------------------------------
-- Removing
-- ---------------------------------------------------------------------------

/-- A file that was put where nothing was lies there. -/
theorem holdsFile_put {executable : Bool} (hleads : Leads place) (hreach : fs.Reachable place) :
    (fs.put place (.file content executable)).HoldsFile place content where
  leads := hleads
  reachable := hreach.congr fun above _ hne => by rw [node?_put hleads.ne_root, if_neg hne]
  file := ⟨executable, by rw [node?_put hleads.ne_root, if_pos rfl]⟩

theorem run_removeFile (p : Path) (fs : FileSystem) :
    removeFile p fs = match (entry p fs).1 with
      | .ok (place, .file ..) => (.ok (), fs.prune place)
      | .ok (_, .directory) => (.error (.refused .isDirectory p), fs)
      | .error fault => (.error fault, fs) := by
  unfold removeFile
  rw [run_entry_bind]
  cases (entry p fs).1 with
  | error fault => rfl
  | ok found =>
    obtain ⟨place, node⟩ := found
    cases node <;> rfl

/-- A file that is there is removed. -/
theorem run_removeFileIfPresent (h : fs.HoldsFile place content) :
    removeFileIfPresent (.below place) fs = (.ok (), fs.prune place) := by
  obtain ⟨executable, hstat⟩ := h.stat
  have hremove : removeFile (.below place) fs = (.ok (), fs.prune place) := by
    rw [run_removeFile, run_entry, h.leads.no_zero, hstat]
    rfl
  unfold removeFileIfPresent
  rw [run_tryCatch, hremove]

/-- Where a file was removed, its path leads to nothing. -/
theorem holdsSomething_prune {p : Path} {executable : Bool}
    (h : fs.stat p = .ok (place, .file content executable)) :
    (fs.prune place).holdsSomething p = false := by
  obtain ⟨hlocate, hnode⟩ := stat_eq_ok_iff.mp h
  have hroot : place ≠ [] := by
    rintro rfl
    cases hnode
  cases hagain : (fs.prune place).locate p with
  | error refusal => simp [holdsSomething, stat, hagain]
  | ok goal =>
    -- If the path still leads somewhere, it leads to the place that was cleared.
    have hgoal : goal = place :=
      (locate_eq_ok_iff.mp hagain).2.2.trans (locate_eq_ok_iff.mp hlocate).2.2.symm
    rw [hgoal] at hagain
    simp [holdsSomething, stat, hagain, node?_prune_of_below (List.prefix_refl place) hroot]

/-- A removal leaves nothing under the path, or it fails and changes nothing. -/
theorem removeFileIfPresent_cases {p : Path} {result : Except FileFault Unit} {fs' : FileSystem}
    (h : removeFileIfPresent p fs = (result, fs')) :
    result = .ok () ∧ fs'.holdsSomething p = false ∨
      (∃ fault, result = .error fault) ∧ fs' = fs := by
  unfold removeFileIfPresent at h
  rw [run_tryCatch, run_removeFile, run_entry] at h
  cases hzero : hasZero p with
  | true =>
    simp only [hzero, if_true, reduceCtorEq, if_false] at h
    cases h
    exact .inr ⟨⟨_, rfl⟩, rfl⟩
  | false =>
    simp only [hzero, Bool.false_eq_true, if_false] at h
    cases hstat : fs.stat p with
    | error refusal =>
      simp only [hstat] at h
      split at h
      · cases h
        exact .inl ⟨rfl, by simp [holdsSomething, hstat]⟩
      · cases h
        exact .inr ⟨⟨_, rfl⟩, rfl⟩
    | ok found =>
      obtain ⟨place, node⟩ := found
      cases node with
      | directory =>
        simp only [hstat, FileFault.refused.injEq, reduceCtorEq, false_and, if_false] at h
        cases h
        exact .inr ⟨⟨_, rfl⟩, rfl⟩
      | file content executable =>
        simp only [hstat] at h
        cases h
        exact .inl ⟨rfl, holdsSomething_prune hstat⟩

end GroovyRounds.FileAction
