import GroovyRounds.Proofs.FileSystem.Walks

/-!
# Canonical forms

Reading a text always gives a path whose names are names (`valid_ofString`), and
of the text's characters only. Double dots are resolved against the names before
them: as many as there are take that many names from the end
(`canonical_climbing`). So a path that climbs out of a directory leads into it
again only if what is left of it spells the names it lost
(`isWithin_climbing_iff`).
-/

namespace GroovyRounds

-- ---------------------------------------------------------------------------
-- Pieces of a text
-- ---------------------------------------------------------------------------

/-- A piece between separators holds no separator, and nothing that the text does not hold. -/
theorem Text.of_mem_splitOn {sep : Char} {cs piece : List Char} (h : piece ∈ splitOn sep cs) :
    sep ∉ piece ∧ piece ⊆ cs := by
  induction cs generalizing piece with
  | nil =>
    rw [splitOn_nil, List.mem_singleton] at h
    subst h
    exact ⟨nofun, List.Subset.refl _⟩
  | cons c cs ih =>
    rw [splitOn] at h
    by_cases hc : c = sep
    · rw [if_pos hc, List.mem_cons] at h
      rcases h with rfl | h
      · exact ⟨nofun, List.nil_subset _⟩
      · exact ⟨(ih h).1, List.subset_cons_of_subset c (ih h).2⟩
    · rw [if_neg hc] at h
      cases hpieces : splitOn sep cs with
      | nil => exact absurd hpieces (splitOn_ne_nil sep cs)
      | cons first pieces =>
        rw [hpieces, List.mem_cons] at h
        rcases h with rfl | h
        · obtain ⟨hsep, hsub⟩ := ih (hpieces ▸ List.mem_cons_self)
          refine ⟨fun hm => ?_, List.cons_subset_cons c hsub⟩
          rcases List.mem_cons.mp hm with heq | hm
          · exact hc heq.symm
          · exact hsep hm
        · obtain ⟨hsep, hsub⟩ := ih (hpieces ▸ List.mem_cons_of_mem _ h)
          exact ⟨hsep, List.subset_cons_of_subset c hsub⟩

namespace Path

theorem mem_namesOf {cs : List Char} {name : String} (h : name ∈ namesOf cs) :
    IsComponent name ∧ name.toList ⊆ cs := by
  rw [namesOf, List.mem_map] at h
  obtain ⟨piece, hpiece, rfl⟩ := h
  obtain ⟨hpiece, hname⟩ := List.mem_filter.mp hpiece
  obtain ⟨hslash, hsub⟩ := Text.of_mem_splitOn hpiece
  simp only [isName, Bool.and_eq_true, Bool.not_eq_true', List.isEmpty_eq_false_iff, ne_eq,
    decide_eq_true_eq] at hname
  refine ⟨⟨fun hempty => hname.1 ?_, fun hdot => hname.2 ?_, ?_⟩, ?_⟩
  · simpa using congrArg String.toList hempty
  · simpa using congrArg String.toList hdot
  · rwa [String.toList_ofList]
  · rwa [String.toList_ofList]

theorem valid_ofString (s : String) : (ofString s).Valid :=
  fun _ hname => (mem_namesOf hname).1

/-- A path read from a text holds the zero character only if the text does. -/
theorem hasZero_ofString {s : String} (h : Char.ofNat 0 ∉ s.toList) :
    FileSystem.hasZero (ofString s) = false :=
  FileSystem.hasZero_eq_false_iff.mpr fun _ hname hm => h ((mem_namesOf hname).2 hm)

-- ---------------------------------------------------------------------------
-- Climbing
-- ---------------------------------------------------------------------------

/-- Double dots at the end take as many names away. -/
theorem climb_append_ups (names : List String) (ups : Nat) :
    climb (names ++ List.replicate ups "..") =
      (climb names).take ((climb names).length - ups) := by
  have hfold (above : List String) (ups : Nat) :
      (List.replicate ups "..").foldl climb.step above = above.drop ups := by
    induction ups generalizing above with
    | zero => rfl
    | succ ups ih =>
      rw [List.replicate_succ, List.foldl_cons, ih, climb.step, if_pos rfl, List.drop_tail]
  rw [climb, List.foldl_append, hfold, List.reverse_drop, climb, List.length_reverse]

/-- The canonical form of what double dots and then names lead to from a directory. -/
theorem canonical_climbing (directory cwd : Path) (ups : Nat) {names : List String}
    (h : ".." ∉ names) :
    (directory.inside (List.replicate ups ".." ++ names)).canonical cwd =
      { directory.canonical cwd with
        names := (directory.canonical cwd).names.take
          ((directory.canonical cwd).names.length - ups) ++ names } := by
  have hjoin (more : List String) : cwd ++ directory.inside more =
      (cwd ++ directory).inside more := by
    show cwd.append (directory.inside more) = (cwd.append directory).inside more
    unfold append
    by_cases habsolute : directory.isAbsolute
    · rw [if_pos habsolute, if_pos (by exact habsolute)]
    · rw [if_neg habsolute, if_neg (by exact habsolute)]
      simp [inside, List.append_assoc]
  unfold canonical
  rw [hjoin]
  simp only [inside]
  rw [← List.append_assoc, climb_append _ h, climb_append_ups]

/-- Such a path is inside the directory if the names spell those that were left. -/
theorem isWithin_climbing_iff (directory cwd : Path) (ups : Nat) {names : List String}
    (h : ".." ∉ names) :
    (directory.canonical cwd).isWithin
        ((directory.inside (List.replicate ups ".." ++ names)).canonical cwd) = true ↔
      (directory.canonical cwd).names.drop ((directory.canonical cwd).names.length - ups) <+:
        names := by
  rw [canonical_climbing directory cwd ups h]
  generalize directory.canonical cwd = root
  simp only [isWithin, decide_true, Bool.true_and, List.isPrefixOf_iff_prefix]
  calc root.names <+: root.names.take (root.names.length - ups) ++ names
      ↔ root.names.take (root.names.length - ups) ++ root.names.drop (root.names.length - ups) <+:
          root.names.take (root.names.length - ups) ++ names := by rw [List.take_append_drop]
    _ ↔ root.names.drop (root.names.length - ups) <+: names := List.prefix_append_right_inj _

-- ---------------------------------------------------------------------------
-- From one path to another
-- ---------------------------------------------------------------------------

theorem commonPrefix_le (as bs : List String) : commonPrefix as bs ≤ as.length := by
  induction as generalizing bs with
  | nil => simp [commonPrefix]
  | cons a as ih =>
    cases bs with
    | nil => simp [commonPrefix]
    | cons b bs =>
      rw [commonPrefix]
      split
      · simpa using ih bs
      · simp

theorem commonPrefix_eq_length_iff {as bs : List String} :
    commonPrefix as bs = as.length ↔ as <+: bs := by
  constructor
  · intro h
    induction as generalizing bs with
    | nil => exact List.nil_prefix
    | cons a as ih =>
      cases bs with
      | nil => simp [commonPrefix] at h
      | cons b bs =>
        rw [commonPrefix] at h
        split at h
        · rename_i hab
          exact List.cons_prefix_cons.mpr ⟨hab, ih (by simpa using h)⟩
        · simp at h
  · rintro ⟨rest, rfl⟩
    exact commonPrefix_append as rest

/-- The names of a canonical path are names that lead down. -/
theorem isPlain_canonical {p cwd : Path} (hp : p.Valid) (hcwd : cwd.Valid) :
    ∀ name ∈ (p.canonical cwd).names, IsPlain name :=
  isPlain_resolve hp hcwd

theorem hasZero_canonical {p cwd : Path} (hp : FileSystem.hasZero p = false)
    (hcwd : FileSystem.hasZero cwd = false) : FileSystem.hasZero (p.canonical cwd) = false := by
  rw [FileSystem.hasZero_eq_false_iff] at hp hcwd ⊢
  intro name hname
  have hmem : name ∈ (cwd.append p).names := (mem_climb hname).1
  unfold append at hmem
  split at hmem
  · exact hp name hmem
  · rcases List.mem_append.mp hmem with hm | hm
    · exact hcwd name hm
    · exact hp name hm

end Path

end GroovyRounds
