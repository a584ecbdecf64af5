import GroovyRounds.Build.Sources
import GroovyRounds.Build.Reconcile
import Mathlib.Tactic.MkIffOfInductiveProp

/-!
# Spelled paths

Paths travel through a build as texts and are read again and again. A path
whose names are names is read back from its text as it was (`ofString_toString`).
Below a folder, spelled with a slash at its end, texts of files are cut and put
together as the lists of their names are.
-/

namespace GroovyRounds

-- ---------------------------------------------------------------------------
-- Cutting texts
-- ---------------------------------------------------------------------------

theorem Text.splitOn_eq (sep : Char) (cs : List Char) : splitOn sep cs = cs.splitOn sep := by
  induction cs with
  | nil => rfl
  | cons c cs ih =>
    rw [splitOn, List.splitOn_cons_eq_if_modifyHead, ih]
    by_cases h : c = sep
    · simp [h]
    · simp only [h, if_false, beq_iff_eq]
      cases hs : cs.splitOn sep with
      | nil => exact absurd hs (List.splitOn_ne_nil sep cs)
      | cons piece pieces => rfl

namespace Path

-- ---------------------------------------------------------------------------
-- Names
-- ---------------------------------------------------------------------------

/-- A name that a path may hold. -/
@[mk_iff] structure IsComponent (name : String) : Prop where
  ne_empty : name ≠ ""
  ne_dot : name ≠ "."
  no_slash : '/' ∉ name.toList

/-- A name that leads down. -/
@[mk_iff] structure IsPlain (name : String) : Prop extends IsComponent name where
  ne_dots : name ≠ ".."

/-- The path is one that reading a text can give. -/
def Valid (p : Path) : Prop :=
  ∀ name ∈ p.names, IsComponent name

instance (name : String) : Decidable (IsComponent name) :=
  decidable_of_iff _ (isComponent_iff name).symm

instance (name : String) : Decidable (IsPlain name) :=
  decidable_of_iff _ (isPlain_iff name).symm

instance (p : Path) : Decidable p.Valid :=
  inferInstanceAs (Decidable (∀ name ∈ p.names, IsComponent name))

/-- A longer name than two dots leads down. -/
theorem isPlain_of_length {name : String} (hlength : 2 < name.length)
    (hslash : '/' ∉ name.toList) : IsPlain name where
  ne_empty := by
    rintro rfl
    exact absurd hlength (by decide)
  ne_dot := by
    rintro rfl
    exact absurd hlength (by decide)
  no_slash := hslash
  ne_dots := by
    rintro rfl
    exact absurd hlength (by decide)

theorem isName_toList {name : String} (h : IsComponent name) : isName name.toList = true := by
  have hdot : name.toList ≠ ['.'] := fun heq => h.ne_dot (String.toList_inj.mp heq)
  have hempty : name.toList ≠ [] := fun heq => h.ne_empty (String.toList_inj.mp heq)
  simp [isName, hdot, hempty]

/-- Reading goes piece by piece between slashes. -/
theorem namesOf_append (as bs : List Char) :
    namesOf (as ++ '/' :: bs) = namesOf as ++ namesOf bs := by
  simp only [namesOf, Text.splitOn_eq, List.splitOn_append_cons_self, List.filter_append,
    List.map_append]

@[simp] theorem namesOf_nil : namesOf [] = [] := rfl

theorem namesOf_slash (cs : List Char) : namesOf ('/' :: cs) = namesOf cs :=
  namesOf_append [] cs

theorem namesOf_component {name : String} (h : IsComponent name) :
    namesOf name.toList = [name] := by
  rw [namesOf, Text.splitOn_eq, List.splitOn_eq_singleton h.no_slash]
  simp [isName_toList h]

theorem namesOf_spellNames {names : List String} (h : ∀ name ∈ names, IsComponent name) :
    namesOf (spellNames names).toList = names := by
  induction names with
  | nil => rfl
  | cons name names ih =>
    have hname := h name List.mem_cons_self
    have hrest := fun other hother => h other (List.mem_cons_of_mem name hother)
    cases names with
    | nil => simpa [spellNames] using namesOf_component hname
    | cons other names =>
      have hspell : (spellNames (name :: other :: names)).toList =
          name.toList ++ '/' :: (spellNames (other :: names)).toList := by
        simp [spellNames]
      rw [hspell, namesOf_append, namesOf_component hname, ih hrest]
      rfl

-- ---------------------------------------------------------------------------
-- Reading back
-- ---------------------------------------------------------------------------

/-- Names are spelled without a slash at the front. -/
theorem head_spellNames {names : List String} (h : ∀ name ∈ names, IsComponent name) :
    (spellNames names).toList.head? ≠ some '/' := by
  cases names with
  | nil => simp [spellNames]
  | cons name names =>
    have hname := h name List.mem_cons_self
    have hempty : name.toList ≠ [] := fun heq => hname.ne_empty (String.toList_inj.mp heq)
    obtain ⟨c, rest, hc⟩ := List.exists_cons_of_ne_nil hempty
    have hslash : c ≠ '/' := by
      rintro rfl
      exact hname.no_slash (by simp [hc])
    cases names <;> simpa [spellNames, hc] using hslash

/-- Names are spelled without a slash at the end. -/
theorem getLast_spellNames {names : List String} (h : ∀ name ∈ names, IsComponent name)
    (hnames : names ≠ []) : ∃ c, (spellNames names).toList.getLast? = some c ∧ c ≠ '/' := by
  induction names with
  | nil => exact absurd rfl hnames
  | cons name names ih =>
    have hname := h name List.mem_cons_self
    cases names with
    | nil =>
      cases hlast : name.toList.getLast? with
      | none =>
        exact absurd (String.toList_inj.mp (List.getLast?_eq_none_iff.mp hlast)) hname.ne_empty
      | some c =>
        refine ⟨c, by simpa [spellNames] using hlast, ?_⟩
        rintro rfl
        exact hname.no_slash (List.mem_of_getLast? hlast)
    | cons other names =>
      obtain ⟨c, hlast, hslash⟩ := ih (fun n hn => h n (List.mem_cons_of_mem _ hn)) (by simp)
      have hspell : (spellNames (name :: other :: names)).toList =
          (name.toList ++ ['/']) ++ (spellNames (other :: names)).toList := by
        simp [spellNames]
      refine ⟨c, ?_, hslash⟩
      rw [hspell, List.getLast?_append, hlast]
      rfl

section
variable {cs : List Char} (h : cs.head? ≠ some '/')
include h

theorem anchorOf_relative : anchorOf cs = .relative := by
  unfold anchorOf
  split <;> simp_all

theorem anchorOf_root : anchorOf ('/' :: cs) = .root := by
  unfold anchorOf
  split <;> simp_all

theorem anchorOf_doubleRoot : anchorOf ('/' :: '/' :: cs) = .doubleRoot := by
  unfold anchorOf
  split
  · simp_all
  · rfl
  · rename_i hother heq
    simp only [List.cons.injEq, true_and] at heq
    exact absurd heq.symm (hother cs)
  · rename_i hother
    exact absurd rfl (hother ('/' :: cs))

end

theorem toString_of_slashes {anchor : Anchor} (h : anchor ≠ .relative) (names : List String) :
    toString ⟨anchor, names⟩ = anchor.slashes ++ spellNames names := by
  cases anchor with
  | relative => exact absurd rfl h
  | root => rfl
  | doubleRoot => rfl

theorem ofString_toString {p : Path} (h : p.Valid) : ofString p.toString = p := by
  obtain ⟨anchor, names⟩ := p
  have hhead := head_spellNames h
  have hnames := namesOf_spellNames h
  cases anchor with
  | relative =>
    cases names with
    | nil => decide
    | cons name names => simp [toString, Anchor.slashes, ofString, anchorOf_relative hhead, hnames]
  | root =>
    rw [toString_of_slashes (show Anchor.root ≠ .relative by decide)]
    simp [Anchor.slashes, ofString, anchorOf_root hhead, namesOf_slash, hnames]
  | doubleRoot =>
    rw [toString_of_slashes (show Anchor.doubleRoot ≠ .relative by decide)]
    simp [Anchor.slashes, ofString, anchorOf_doubleRoot hhead, namesOf_slash, hnames]

-- ---------------------------------------------------------------------------
-- Canonical paths
-- ---------------------------------------------------------------------------

/-- The path with a single slash at the front that leads down these names. -/
def below (names : List String) : Path where
  anchor := .root
  names

theorem foldl_step_of_plain {names : List String} (h : ".." ∉ names) (above : List String) :
    names.foldl climb.step above = names.reverse ++ above := by
  induction names generalizing above with
  | nil => rfl
  | cons name names ih =>
    rw [List.mem_cons, not_or] at h
    rw [List.foldl_cons, climb.step, if_neg (Ne.symm h.1), ih h.2]
    simp

/-- Names that lead down stay as they are. -/
theorem climb_append (names : List String) {rest : List String} (h : ".." ∉ rest) :
    climb (names ++ rest) = climb names ++ rest := by
  simp [climb, foldl_step_of_plain h]

theorem mem_climb {names : List String} {name : String} (h : name ∈ climb names) :
    name ∈ names ∧ name ≠ ".." := by
  have hfold (above : List String) (hm : name ∈ names.foldl climb.step above) :
      name ∈ above ∨ name ∈ names ∧ name ≠ ".." := by
    clear h
    induction names generalizing above with
    | nil => exact .inl hm
    | cons other names ih =>
      rcases ih _ hm with hm | ⟨hm, hne⟩
      · unfold climb.step at hm
        split at hm
        · exact .inl (List.mem_of_mem_tail hm)
        · rcases List.mem_cons.mp hm with rfl | hm
          · exact .inr ⟨List.mem_cons_self, ‹_›⟩
          · exact .inl hm
      · exact .inr ⟨List.mem_cons_of_mem _ hm, hne⟩
  rcases hfold [] (List.mem_reverse.mp h) with hm | hm
  · cases hm
  · exact hm

/-- A canonical form leads down only. -/
theorem isPlain_resolve {p cwd : Path} (hp : p.Valid) (hcwd : cwd.Valid) :
    ∀ name ∈ (p.resolve cwd).names, IsPlain name := by
  intro name hm
  obtain ⟨hmem, hne⟩ := mem_climb hm
  refine ⟨?_, hne⟩
  have happend : (cwd ++ p).names = p.names ∨ (cwd ++ p).names = cwd.names ++ p.names := by
    show (cwd.append p).names = _ ∨ (cwd.append p).names = _
    unfold append
    split
    · exact .inl rfl
    · exact .inr rfl
  rcases happend with heq | heq
  · exact hp name (heq ▸ hmem)
  · rw [heq] at hmem
    rcases List.mem_append.mp hmem with hm | hm
    · exact hcwd name hm
    · exact hp name hm

theorem commonPrefix_append (names rest : List String) :
    commonPrefix names (names ++ rest) = names.length := by
  induction names with
  | nil => simp [commonPrefix]
  | cons name names ih => simp [commonPrefix, ih]

-- ---------------------------------------------------------------------------
-- Inside a directory
-- ---------------------------------------------------------------------------

/-- What these names lead to from a directory. -/
def inside (directory : Path) (names : List String) : Path :=
  { directory with names := directory.names ++ names }

theorem append_relative (p : Path) (names : List String) :
    p ++ (⟨.relative, names⟩ : Path) = p.inside names := rfl

theorem inside_inside (p : Path) (names rest : List String) :
    (p.inside names).inside rest = p.inside (names ++ rest) := by
  simp only [inside, List.append_assoc]

theorem ofString_component {name : String} (h : IsComponent name) :
    ofString name = ⟨.relative, [name]⟩ := by
  have hvalid : (⟨.relative, [name]⟩ : Path).Valid := by
    intro other hm
    rwa [List.mem_singleton.mp hm]
  simpa [toString, Anchor.slashes, spellNames] using ofString_toString hvalid

theorem child_eq {name : String} (h : IsComponent name) (p : Path) :
    p.child name = p.inside [name] := by
  rw [child, ofString_component h, append_relative]

theorem valid_inside {p : Path} {names : List String} (hp : p.Valid)
    (hnames : ∀ name ∈ names, IsComponent name) : (p.inside names).Valid := by
  intro name hm
  rcases List.mem_append.mp hm with hm | hm
  · exact hp name hm
  · exact hnames name hm

/-- The way from a directory to what lies inside, wherever the directory leads. -/
theorem relativeTo_inside (p : Path) {rest : List String} (h : ".." ∉ rest) (cwd : Path) :
    (p.inside rest).relativeTo p cwd = ⟨.relative, rest⟩ := by
  have hnames : ((p.inside rest).canonical cwd).names = (p.canonical cwd).names ++ rest := by
    change climb (cwd.append (p.inside rest)).names = climb (cwd.append p).names ++ rest
    rw [← climb_append _ h]
    by_cases hanchor : p.anchor = .relative
    · simp [append, isAbsolute, inside, hanchor, List.append_assoc]
    · simp [append, isAbsolute, inside, hanchor]
  simp [relativeTo, hnames, commonPrefix_append]

-- ---------------------------------------------------------------------------
-- Folders
-- ---------------------------------------------------------------------------

/-- The folder that these names lead down to, with a slash at its end. -/
def spellFolder (names : List String) : String :=
  names.foldl (fun folder name => folder ++ name ++ "/") "/"

theorem spellNames_append {names rest : List String} (hnames : names ≠ []) (hrest : rest ≠ []) :
    spellNames (names ++ rest) = spellNames names ++ "/" ++ spellNames rest :=
  String.intercalate_append_of_ne_nil hnames hrest

theorem spellFolder_eq {names : List String} (h : names ≠ []) :
    spellFolder names = "/" ++ spellNames names ++ "/" := by
  have hfold (above : String) (names : List String) (h : names ≠ []) :
      names.foldl (fun folder name => folder ++ name ++ "/") above =
        above ++ spellNames names ++ "/" := by
    induction names generalizing above with
    | nil => exact absurd rfl h
    | cons name names ih =>
      cases names with
      | nil => simp [spellNames]
      | cons other names =>
        rw [List.foldl_cons, ih _ (by simp)]
        simp [spellNames, String.append_assoc]
  exact hfold "/" names h

/-- What lies inside a directory is spelled after the directory. -/
theorem toString_inside {p : Path} {rest : List String} (hnames : p.names ≠ [])
    (hrest : rest ≠ []) : (p.inside rest).toString = p.toString ++ "/" ++ spellNames rest := by
  have hspell {names : List String} (h : names ≠ []) :
      (⟨p.anchor, names⟩ : Path).toString = p.anchor.slashes ++ spellNames names := by
    obtain ⟨name, names, rfl⟩ := List.exists_cons_of_ne_nil h
    cases p.anchor <;> rfl
  change (⟨p.anchor, p.names ++ rest⟩ : Path).toString =
    (⟨p.anchor, p.names⟩ : Path).toString ++ "/" ++ spellNames rest
  rw [hspell (by simp [hnames]), hspell hnames, spellNames_append hnames hrest]
  simp [String.append_assoc]

/-- A path below a folder is spelled after the folder. -/
theorem toString_below_append (names : List String) {rest : List String} (h : rest ≠ []) :
    (below (names ++ rest)).toString = spellFolder names ++ spellNames rest := by
  rw [below, toString_of_slashes (show Anchor.root ≠ .relative by decide)]
  by_cases hnames : names = []
  · subst hnames
    simp [spellFolder, Anchor.slashes]
  · rw [spellFolder_eq hnames, spellNames_append hnames h]
    simp [Anchor.slashes, String.append_assoc]

theorem ofString_below {names rest : List String} (hnames : ∀ name ∈ names, IsComponent name)
    (hrest : ∀ name ∈ rest, IsComponent name) (h : rest ≠ []) :
    ofString (spellFolder names ++ spellNames rest) = below (names ++ rest) := by
  rw [← toString_below_append names h]
  refine ofString_toString fun name hm => ?_
  rcases List.mem_append.mp hm with hm | hm
  · exact hnames name hm
  · exact hrest name hm

theorem ofString_spellFolder {names : List String} (h : ∀ name ∈ names, IsComponent name) :
    ofString (spellFolder names) = below names := by
  by_cases hnames : names = []
  · subst hnames
    decide
  · have hspell : (spellFolder names).toList = '/' :: ((spellNames names).toList ++ ['/']) := by
      simp [spellFolder_eq hnames]
    have hhead : ((spellNames names).toList ++ ['/']).head? ≠ some '/' := by
      have hfirst := head_spellNames h
      cases hs : (spellNames names).toList with
      | nil =>
        have hback := namesOf_spellNames h
        rw [hs, namesOf_nil] at hback
        exact absurd hback.symm hnames
      | cons c cs =>
        rw [hs] at hfirst
        simpa using hfirst
    rw [ofString, hspell, anchorOf_root hhead, namesOf_slash, namesOf_append,
      namesOf_spellNames h]
    simp [below]

/-- A name does not end with a slash, so a folder but the root gets one. -/
theorem withTrailingSlash_below {names : List String} (h : ∀ name ∈ names, IsComponent name) :
    Build.withTrailingSlash (below names).toString = spellFolder names := by
  rw [below, toString_of_slashes (show Anchor.root ≠ .relative by decide)]
  by_cases hnames : names = []
  · subst hnames
    decide
  · obtain ⟨c, hlast, hslash⟩ := getLast_spellNames h hnames
    have hspell : (Anchor.root.slashes ++ spellNames names).toList.getLast? ≠ some '/' := by
      simpa [List.getLast?_append, hlast] using hslash
    rw [Build.withTrailingSlash, if_neg hspell, spellFolder_eq hnames]
    rfl

/-- Without backslashes there is nothing to turn. -/
theorem withSlashes_eq {s : String} (h : '\\' ∉ s.toList) : withSlashes s = s := by
  have hmap : s.toList.map (fun c => if c = '\\' then '/' else c) = s.toList.map id := by
    refine List.map_congr_left fun c hc => if_neg ?_
    rintro rfl
    exact h hc
  rw [withSlashes, hmap, List.map_id, String.ofList_toList]

theorem mem_spellNames {names : List String} {c : Char} (h : c ∈ (spellNames names).toList) :
    c = '/' ∨ ∃ name ∈ names, c ∈ name.toList := by
  induction names with
  | nil => simp [spellNames] at h
  | cons name names ih =>
    cases names with
    | nil => exact .inr ⟨name, List.mem_cons_self, by simpa [spellNames] using h⟩
    | cons other names =>
      have hspell : (spellNames (name :: other :: names)).toList =
          name.toList ++ '/' :: (spellNames (other :: names)).toList := by
        simp [spellNames]
      rw [hspell, List.mem_append, List.mem_cons] at h
      rcases h with hc | rfl | hc
      · exact .inr ⟨name, List.mem_cons_self, hc⟩
      · exact .inl rfl
      · rcases ih hc with hslash | ⟨found, hfound, hc⟩
        · exact .inl hslash
        · exact .inr ⟨found, List.mem_cons_of_mem _ hfound, hc⟩

/-- A folder is spelled with the characters of its path and slashes. -/
theorem mem_spellFolder {names : List String} {c : Char} (h : c ∈ (spellFolder names).toList) :
    c = '/' ∨ c ∈ (below names).toString.toList := by
  by_cases hnames : names = []
  · subst hnames
    exact .inl (by simpa [spellFolder] using h)
  · rw [spellFolder_eq hnames, String.toList_append, List.mem_append] at h
    rcases h with hc | hc
    · right
      rw [below, toString_of_slashes (show Anchor.root ≠ .relative by decide)]
      exact hc
    · exact .inl (by simpa using hc)

-- ---------------------------------------------------------------------------
-- Class files below a folder
-- ---------------------------------------------------------------------------

/-- A class file below a directory gives back what the directory and the suffix were put
around. -/
theorem classNameBelow?_append (directory file : String) :
    classNameBelow? directory (directory ++ file ++ classSuffix) =
      some (String.ofList (ClassFile.dotted file.toList)) := by
  have hsuffix : classSuffix.toList.isSuffixOf (directory ++ file ++ classSuffix).toList := by
    rw [String.toList_append, List.isSuffixOf_iff_suffix]
    exact List.suffix_append _ _
  have hbelow : directory.toList.isPrefixOf (directory ++ file ++ classSuffix).toList := by
    simp [List.isPrefixOf_iff_prefix, List.append_assoc]
  have hinner : (((directory ++ file ++ classSuffix).toList.drop directory.length).take
      ((directory ++ file ++ classSuffix).toList.length - directory.length -
        classSuffix.length)) = file.toList := by
    simp only [String.toList_append, List.append_assoc, ← String.length_toList, List.drop_left,
      List.length_append, Nat.add_sub_cancel_left, Nat.add_sub_cancel, List.take_left]
  simp only [classNameBelow?, hsuffix, hbelow, Bool.and_true, if_true, hinner]

theorem dotted_append (as bs : List Char) :
    ClassFile.dotted (as ++ bs) = ClassFile.dotted as ++ ClassFile.dotted bs :=
  List.map_append

theorem dotted_component {name : String} (h : IsComponent name) :
    ClassFile.dotted name.toList = name.toList := by
  have hmap : ClassFile.dotted name.toList = name.toList.map id := by
    refine List.map_congr_left fun c hc => if_neg ?_
    rintro rfl
    exact h.no_slash hc
  rw [hmap, List.map_id]

/-- The dotted name of names with slashes between them. -/
theorem dotted_spellNames {names : List String} (h : ∀ name ∈ names, IsComponent name) :
    String.ofList (ClassFile.dotted (spellNames names).toList) = ".".intercalate names := by
  rw [← String.toList_inj, String.toList_ofList]
  induction names with
  | nil => rfl
  | cons name names ih =>
    have hname := dotted_component (h name List.mem_cons_self)
    have hrest := ih fun other hother => h other (List.mem_cons_of_mem name hother)
    cases names with
    | nil => simpa [spellNames] using hname
    | cons other names =>
      have hspell : (spellNames (name :: other :: names)).toList =
          name.toList ++ ('/' :: (spellNames (other :: names)).toList) := by
        simp [spellNames]
      have hslash (cs : List Char) : ClassFile.dotted ('/' :: cs) = '.' :: ClassFile.dotted cs :=
        rfl
      rw [hspell, dotted_append, hname, hslash, hrest]
      simp

end Path

end GroovyRounds
