import GroovyRounds.Proofs.Build.Owners
import GroovyRounds.Proofs.FileSystem.Effects
import GroovyRounds.Proofs.FileSystem.Growth

/-!
# Sources in a tree

What sources are found below a root depends on the tree below the root, and on
nothing else (`rootSources_congr`). The order in which a tree lists its places does
not matter, since what is found is sorted. It is all Groovy files below the root
(`listsGroovy_groovyBelow`).
-/

namespace GroovyRounds

open FileSystem Path

-- ---------------------------------------------------------------------------
-- Sorted paths
-- ---------------------------------------------------------------------------

namespace Path

variable {p q r : Path}

theorem le_iff : p.le q = true ↔ ¬ q.names < p.names := by
  simp [le]

theorem le_total (p q : Path) : (p.le q || q.le p) = true := by
  rw [Bool.or_eq_true, le_iff, le_iff]
  exact List.le_total p.names q.names

theorem le_trans (h : p.le q = true) (h' : q.le r = true) : p.le r = true :=
  le_iff.mpr (List.le_trans (le_iff.mp h) (le_iff.mp h'))

theorem names_eq_of_le (h : p.le q = true) (h' : q.le p = true) : p.names = q.names :=
  List.le_antisymm (le_iff.mp h) (le_iff.mp h')

/-- The same paths of one anchor are sorted in the same way. -/
theorem mergeSort_congr {ps qs : List Path} {anchor : Anchor} (h : ps.Perm qs)
    (hanchor : ∀ p ∈ ps, p.anchor = anchor) : ps.mergeSort le = qs.mergeSort le := by
  have hsorted (ps : List Path) : (ps.mergeSort le).Pairwise fun p q => p.le q = true :=
    @List.pairwise_mergeSort Path le (fun _ _ _ => le_trans) le_total ps
  have hsame (ps : List Path) : (ps.mergeSort le).Perm ps := List.mergeSort_perm ps le
  refine List.Perm.eq_of_pairwise (fun p q hp hq hle hle' => ?_) (hsorted ps) (hsorted qs)
    ((hsame ps).trans (h.trans (hsame qs).symm))
  have hanchors : p.anchor = q.anchor := by
    rw [hanchor p ((hsame ps).subset hp), hanchor q (h.symm.subset ((hsame qs).subset hq))]
  have hnames := names_eq_of_le hle hle'
  obtain ⟨_, _⟩ := p
  obtain ⟨_, _⟩ := q
  exact congr (congrArg Path.mk hanchors) hnames

end Path

-- ---------------------------------------------------------------------------
-- Files below a directory
-- ---------------------------------------------------------------------------

namespace Project

variable {root : Path} {place : Location} {a b : FileSystem}

/-- The path of what lies below a root. -/
def pathBelow (root : Path) (place other : Location) : Path :=
  { root with names := root.names ++ other.drop place.length }

/-- The files below a directory as paths, in the order of the tree. -/
def listedBelow (fs : FileSystem) (root : Path) (place : Location) : List Path :=
  (fs.below place).filterMap fun (p, node) =>
    match node with
    | .file .. => some (pathBelow root place p)
    | .directory => none

theorem filesBelow_eq (fs : FileSystem) (root : Path) (place : Location) :
    filesBelow fs root place = (listedBelow fs root place).mergeSort Path.le :=
  rfl

theorem mem_below_iff {fs : FileSystem} {entry : Location × Node} :
    entry ∈ fs.below place ↔ entry ∈ fs.nodes ∧ place <+: entry.1 ∧ entry.1 ≠ place := by
  simp [FileSystem.below, List.mem_filter]

/-- A path is listed if a file lies there. -/
theorem mem_listedBelow_iff {fs : FileSystem} (h : fs.Tidy) {p : Path} :
    p ∈ listedBelow fs root place ↔ ∃ other content, place <+: other ∧ other ≠ place ∧
      fs.sight other = .file content ∧ p = pathBelow root place other := by
  unfold listedBelow
  rw [List.mem_filterMap]
  constructor
  · rintro ⟨⟨other, node⟩, hentry, hpath⟩
    obtain ⟨hmem, hbelow, hne⟩ := mem_below_iff.mp hentry
    have hroot : other ≠ [] := by
      rintro rfl
      exact hne (List.prefix_nil.mp hbelow).symm
    have hnode := h.node?_of_mem hmem hroot
    cases node with
    | directory => cases hpath
    | file content executable =>
      cases hpath
      exact ⟨other, content, hbelow, hne, sight_eq_file_iff.mpr ⟨executable, hnode⟩, rfl⟩
  · rintro ⟨other, content, hbelow, hne, hsight, rfl⟩
    obtain ⟨executable, hnode⟩ := sight_eq_file_iff.mp hsight
    have hroot : other ≠ [] := by
      rintro rfl
      cases hnode
    rw [node?_of_ne_root hroot] at hnode
    exact ⟨(other, .file content executable),
      mem_below_iff.mpr ⟨mem_of_lookup hnode, hbelow, hne⟩, rfl⟩

/-- No path is listed twice. -/
theorem nodup_listedBelow {fs : FileSystem} (h : fs.Tidy) : (listedBelow fs root place).Nodup := by
  have hlisted : (listedBelow fs root place).Sublist
      ((fs.below place).map fun entry => pathBelow root place entry.1) := by
    unfold listedBelow
    induction fs.below place with
    | nil => exact .slnil
    | cons entry entries ih =>
      obtain ⟨other, node⟩ := entry
      cases node with
      | directory => exact ih.cons _
      | file content executable => exact ih.cons_cons _
  refine hlisted.nodup ?_
  have honce : ((fs.below place).map (·.1)).Nodup :=
    h.once.sublist (List.filter_sublist.map _)
  refine List.Nodup.map_on (fun entry hentry entry' hentry' heq => ?_) (List.Nodup.of_map _ honce)
  refine List.inj_on_of_nodup_map honce hentry hentry' ?_
  obtain ⟨-, ⟨rest, hrest⟩, -⟩ := mem_below_iff.mp hentry
  obtain ⟨-, ⟨rest', hrest'⟩, -⟩ := mem_below_iff.mp hentry'
  simp only [pathBelow, ← hrest, ← hrest', List.drop_left, Path.mk.injEq,
    List.append_cancel_left_eq, true_and] at heq
  rw [← hrest, ← hrest', heq]

/-- Files are found below a directory where they are seen. -/
theorem filesBelow_congr (ha : a.Tidy) (hb : b.Tidy)
    (h : ∀ other, place <+: other → b.sight other = a.sight other) :
    filesBelow b root place = filesBelow a root place := by
  rw [filesBelow_eq, filesBelow_eq]
  refine mergeSort_congr ?_ fun p hp => (?_ : p.anchor = root.anchor)
  · refine (List.perm_ext_iff_of_nodup (nodup_listedBelow hb) (nodup_listedBelow ha)).mpr
      fun p => ?_
    rw [mem_listedBelow_iff hb, mem_listedBelow_iff ha]
    refine exists_congr fun other => exists_congr fun content => and_congr_right fun hbelow => ?_
    rw [h other hbelow]
  · obtain ⟨other, content, -, -, -, rfl⟩ := (mem_listedBelow_iff hb).mp hp
    rfl

-- ---------------------------------------------------------------------------
-- Sources below a root
-- ---------------------------------------------------------------------------

/-- An open way is seen to its end, or nothing is. -/
theorem rootSources_of_open {fs : FileSystem} {extensions : List String} (hopen : fs.Open root)
    (hrooted : fs.Rooted) : rootSources fs extensions root =
      if fs.node? (fs.start root ++ root.names) = some .directory then
        .ok ((filesBelow fs root (fs.start root ++ root.names)).filter (hasExtension extensions))
      else .ok [] := by
  rcases hopen.probe_of_rooted hrooted with ⟨hnone, hprobe⟩ | ⟨hnode, hlocate, hprobe⟩
  · rw [if_neg (by simp [hnone])]
    simp only [rootSources, hprobe]
    rfl
  · rw [if_pos hnode]
    simp only [rootSources, hprobe, hlocate]
    rfl

/-- The sources below a root depend on what is seen at the root and below. -/
theorem rootSources_congr {extensions : List String} (ha : a.Tidy) (hb : b.Tidy)
    (hopen : a.Open root) (hopen' : b.Open root) (hcwd : b.cwd = a.cwd)
    (h : ∀ other, a.start root ++ root.names <+: other → b.sight other = a.sight other) :
    rootSources b extensions root = rootSources a extensions root := by
  have hstart : b.start root = a.start root := by simp [FileSystem.start, hcwd]
  rw [rootSources_of_open hopen' hb.rooted, rootSources_of_open hopen ha.rooted, hstart]
  have hend := h _ (List.prefix_refl _)
  by_cases hdirectory : a.node? (a.start root ++ root.names) = some .directory
  · have hdirectory' : b.node? (a.start root ++ root.names) = some .directory := by
      rw [← sight_eq_directory_iff] at hdirectory ⊢
      rw [hend, hdirectory]
    rw [if_pos hdirectory, if_pos hdirectory', filesBelow_congr ha hb h]
  · have hdirectory' : b.node? (a.start root ++ root.names) ≠ some .directory := fun hnode =>
      hdirectory (sight_eq_directory_iff.mp (hend.symm.trans (sight_eq_directory_iff.mpr hnode)))
    rw [if_neg hdirectory, if_neg hdirectory']

/-- The sources of a target depend on what is seen at its roots and below. -/
theorem sources_congr {project : Project} {target : TargetId} {extensions : List String}
    (h : ∀ root ∈ project.roots target,
      rootSources b extensions root = rootSources a extensions root) :
    project.sources b target extensions = project.sources a target extensions := by
  have hroots : (project.roots target).mapM (rootSources b extensions) =
      (project.roots target).mapM (rootSources a extensions) := by
    generalize project.roots target = roots at h
    induction roots with
    | nil => rfl
    | cons root roots ih =>
      obtain ⟨hroot, hroots⟩ := List.forall_mem_cons.mp h
      rw [List.mapM_cons, List.mapM_cons, hroot, ih hroots]
  rw [sources_eq, sources_eq, hroots]

-- ---------------------------------------------------------------------------
-- All Groovy files
-- ---------------------------------------------------------------------------

section
variable {fs : FileSystem} {p : Path}

/-- The path is that of a file below the root, which is a directory. -/
def FileBelow (fs : FileSystem) (root p : Path) : Prop :=
  ∃ place names content, fs.isDirectory root = true ∧ fs.locate root = .ok place ∧ names ≠ [] ∧
    fs.sight (place ++ names) = .file content ∧ p = root.inside names

/-- The list is that of the Groovy files below a root, name by name in their order. -/
structure ListsGroovy (fs : FileSystem) (root : Path) (listed : List Path) : Prop where
  sorted : listed.Pairwise fun p q => p.names < q.names
  mem_iff : ∀ p, p ∈ listed ↔ FileBelow fs root p ∧ p.HasGroovySuffix

/-- The Groovy files found below a root. -/
def groovyBelow (fs : FileSystem) (root : Path) : List Path :=
  (rootSources fs groovyExtensions root).toOption.getD []

theorem FileBelow.isWithin (h : FileBelow fs root p) : root.isWithin p = true := by
  obtain ⟨_, names, _, -, -, -, -, rfl⟩ := h
  exact isWithin_iff.mpr ⟨rfl, List.prefix_append _ _⟩

theorem mem_filesBelow_iff (h : fs.Tidy) : p ∈ filesBelow fs root place ↔
    ∃ names content, names ≠ [] ∧ fs.sight (place ++ names) = .file content ∧
      p = root.inside names := by
  rw [filesBelow_eq, List.mem_mergeSort, mem_listedBelow_iff h]
  constructor
  · rintro ⟨_, content, ⟨names, rfl⟩, hne, hsight, rfl⟩
    refine ⟨names, content, fun hnil => hne (by simp [hnil]), hsight, ?_⟩
    rw [pathBelow, List.drop_left]
    rfl
  · rintro ⟨names, content, hne, hsight, rfl⟩
    refine ⟨place ++ names, content, List.prefix_append _ _, by simpa using hne, hsight, ?_⟩
    rw [pathBelow, List.drop_left]
    rfl

/-- The files of one root differ in their names, so none is listed beside itself. -/
theorem sorted_filesBelow (h : fs.Tidy) :
    (filesBelow fs root place).Pairwise fun p q => p.names < q.names := by
  have hle : (filesBelow fs root place).Pairwise fun p q => p.le q = true :=
    @List.pairwise_mergeSort Path le (fun _ _ _ => le_trans) le_total _
  have hnodup : (filesBelow fs root place).Nodup :=
    (List.mergeSort_perm _ _).nodup_iff.mpr (nodup_listedBelow h)
  refine (hle.and hnodup).imp_of_mem fun {p q} hp hq ⟨hpq, hne⟩ => ?_
  by_contra hlt
  have hnames := names_eq_of_le hpq (le_iff.mpr hlt)
  obtain ⟨_, _, -, -, rfl⟩ := (mem_filesBelow_iff h).mp hp
  obtain ⟨_, _, -, -, rfl⟩ := (mem_filesBelow_iff h).mp hq
  exact hne (congrArg (Path.mk root.anchor) hnames)

/-- What is found below a root is all Groovy files there. -/
theorem listsGroovy_groovyBelow (h : fs.Tidy) (root : Path) :
    ListsGroovy fs root (groovyBelow fs root) := by
  by_cases hdirectory : fs.isDirectory root = true
  · obtain ⟨hzero, place, hstat⟩ := isDirectory_iff.mp hdirectory
    obtain ⟨hlocate, -⟩ := stat_eq_ok_iff.mp hstat
    have hfound : groovyBelow fs root =
        (filesBelow fs root place).filter (hasExtension groovyExtensions) := by
      have hprobe : fs.probe root = .ok (some .directory) := by simp [probe, hzero, hstat]
      simp only [groovyBelow, rootSources, hprobe, hlocate]
      rfl
    rw [hfound]
    refine ⟨(sorted_filesBelow h).filter _, fun p => ?_⟩
    rw [List.mem_filter, mem_filesBelow_iff h, hasExtension_groovy_iff]
    refine and_congr_left fun _ => ⟨?_, ?_⟩
    · rintro ⟨names, content, hbelow⟩
      exact ⟨place, names, content, hdirectory, hlocate, hbelow⟩
    · rintro ⟨other, names, content, -, hother, hbelow⟩
      cases hlocate.symm.trans hother
      exact ⟨names, content, hbelow⟩
  · have hnone : groovyBelow fs root = [] := by
      unfold groovyBelow rootSources
      cases hprobe : fs.probe root with
      | error fault => rfl
      | ok node =>
        cases node with
        | none => rfl
        | some node =>
          cases node with
          | file => rfl
          | directory => exact absurd (isDirectory_of_probe hprobe) hdirectory
    rw [hnone]
    refine ⟨.nil, fun p => iff_of_false (List.not_mem_nil) ?_⟩
    rintro ⟨⟨_, _, _, hthere, -⟩, -⟩
    exact hdirectory hthere

/-- A traversal that succeeds gives what its steps give. -/
theorem eq_map_of_mapM {ε α β : Type} {f : α → Except ε β} {as : List α} {bs : List β}
    (h : as.mapM f = .ok bs) (default : β) : bs = as.map fun a => (f a).toOption.getD default := by
  induction as generalizing bs with
  | nil =>
    cases h
    rfl
  | cons a as ih =>
    rw [List.mapM_cons] at h
    cases hfirst : f a with
    | error e =>
      rw [hfirst] at h
      cases h
    | ok b =>
      cases hrest : as.mapM f with
      | error e =>
        rw [hfirst, hrest] at h
        cases h
      | ok rest =>
        rw [hfirst, hrest] at h
        cases h
        rw [List.map_cons, hfirst, ← ih hrest]
        rfl

/-- The Groovy sources of a target are what is found below its roots, root by root. -/
theorem eq_groovyBelow_of_sources {project : Project} {target : TargetId} {found : List Path}
    (h : project.sources fs target groovyExtensions = .ok found) :
    found = (project.roots target).flatMap (groovyBelow fs) := by
  rw [sources_eq] at h
  cases hroots : (project.roots target).mapM (rootSources fs groovyExtensions) with
  | error fault =>
    rw [hroots] at h
    cases h
  | ok lists =>
    rw [hroots] at h
    cases h
    rw [eq_map_of_mapM hroots [], List.flatMap_def]
    rfl

end

end Project

end GroovyRounds
