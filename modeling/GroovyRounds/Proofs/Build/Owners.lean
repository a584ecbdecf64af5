import GroovyRounds.Build.ChunkBuild
import GroovyRounds.Proofs.Build.Frame
import GroovyRounds.Proofs.Build.Sources
import GroovyRounds.Proofs.OrderedMap

/-!
# Owners of sources

Every source of a chunk was found below a root of one of its targets
(`mem_chunkFiles`). If no root of one target contains a root of another, that
target is the one that owns the source (`owner?_of_root`).
-/

namespace GroovyRounds

open Path Program

-- ---------------------------------------------------------------------------
-- Extensions
-- ---------------------------------------------------------------------------

/-- A suffix is the end of a name, from its last dot on. -/
theorem Path.suffix_cases (p : Path) :
    p.suffix = [] ∨ ∃ extension, p.suffix = '.' :: extension ∧ '.' ∉ extension ∧
      p.suffix <:+ p.name.toList := by
  obtain ⟨cs, hcs⟩ : ∃ cs, cs = p.name.toList := ⟨_, rfl⟩
  unfold suffix
  simp only [← hcs]
  split
  · exact .inl rfl
  rename_i hopen
  simp only [Bool.or_eq_true, not_or, Bool.not_eq_true, Bool.not_eq_false'] at hopen
  -- The name read from its end: the extension, the dot, and the rest.
  obtain ⟨back, rest, hsplit, hback⟩ :=
    List.eq_append_cons_of_mem (show '.' ∈ cs.reverse by simpa using hopen.2)
  have hname : cs = rest.reverse ++ '.' :: back.reverse := by
    rw [← cs.reverse_reverse, hsplit]
    simp
  have hfront : (cs.reverse.dropWhile (· ≠ '.')).reverse.dropLast = rest.reverse := by
    rw [hsplit, List.dropWhile_append_of_pos fun c hc => by
      have hne : c ≠ '.' := fun heq => hback (heq ▸ hc)
      simpa using hne]
    simp
  refine .inr ⟨back.reverse, ?_, by simpa using hback, List.drop_suffix _ _⟩
  rw [hfront, hname, List.drop_left]

/-- The suffix of the path is a Groovy extension. -/
def Path.HasGroovySuffix (p : Path) : Prop :=
  ∃ extension ∈ groovyExtensions, p.suffix = '.' :: extension.toList

/-- No extension has a dot, so the dots before it are one. -/
theorem hasExtension_groovy_iff {p : Path} :
    Project.hasExtension groovyExtensions p = true ↔ p.HasGroovySuffix := by
  unfold Project.hasExtension HasGroovySuffix
  rcases p.suffix_cases with hnil | ⟨extension, hsuffix, hdot, -⟩
  · rw [hnil]
    simp only [List.dropWhile_nil, reduceCtorEq, and_false, exists_false, iff_false]
    decide
  · have hdrop : p.suffix.dropWhile (· = '.') = extension := by
      rw [hsuffix, List.dropWhile_cons_of_pos (by simp)]
      cases extension with
      | nil => rfl
      | cons c cs =>
        have hne : c ≠ '.' := fun heq => hdot (heq ▸ List.mem_cons_self)
        exact List.dropWhile_cons_of_neg (by simpa using hne)
    rw [hdrop, hsuffix, List.contains_iff_mem]
    constructor
    · intro hm
      exact ⟨_, hm, by simp⟩
    · rintro ⟨found, hm, heq⟩
      obtain ⟨-, rfl⟩ := List.cons.inj heq
      simpa using hm

/-- A name with a Groovy suffix ends like the name of a Groovy file. -/
theorem Path.HasGroovySuffix.isGroovy {p : Path} (h : p.HasGroovySuffix) :
    isGroovy p.name = true := by
  obtain ⟨extension, hm, hsuffix⟩ := h
  have hname : p.suffix <:+ p.name.toList := by
    rcases p.suffix_cases with hnil | ⟨-, -, -, hname⟩
    · rw [hnil]
      exact List.nil_suffix
    · exact hname
  refine List.any_eq_true.mpr ⟨extension, hm, List.isSuffixOf_iff_suffix.mpr ?_⟩
  rw [String.toList_append]
  rwa [hsuffix] at hname

-- ---------------------------------------------------------------------------
-- Roots
-- ---------------------------------------------------------------------------

namespace Project

variable {project : Project} {target : TargetId} {root p : Path}

/-- The source roots of a target. -/
def roots (project : Project) (target : TargetId) : List Path :=
  (project.sourceRoots.find? target).getD []

/-- No root of one target equals or contains a root of another. -/
def RootsApart (project : Project) : Prop :=
  ∀ entry ∈ project.sourceRoots.entries, ∀ other ∈ project.sourceRoots.entries,
    entry.1 ≠ other.1 → ∀ root ∈ entry.2, ∀ root' ∈ other.2, root.isWithin root' = false

instance (project : Project) : Decidable project.RootsApart :=
  inferInstanceAs (Decidable (∀ _ ∈ _, _))

theorem isWithin_iff :
    root.isWithin p = true ↔ p.anchor = root.anchor ∧ root.names <+: p.names := by
  simp [isWithin]

theorem exists_entry_of_mem_roots (h : root ∈ project.roots target) :
    ∃ found, (target, found) ∈ project.sourceRoots.entries ∧ root ∈ found := by
  unfold roots at h
  cases hfound : project.sourceRoots.find? target with
  | none =>
    rw [hfound] at h
    cases h
  | some found =>
    rw [hfound] at h
    exact ⟨found, mem_of_lookup hfound, h⟩

/-- Of two roots at or above one path, one is at or above the other. -/
theorem isWithin_or_isWithin {root' : Path} (h : root.isWithin p = true)
    (h' : root'.isWithin p = true) : root.isWithin root' = true ∨ root'.isWithin root = true := by
  obtain ⟨hanchor, hbelow⟩ := isWithin_iff.mp h
  obtain ⟨hanchor', hbelow'⟩ := isWithin_iff.mp h'
  refine (List.prefix_or_prefix_of_prefix hbelow hbelow').imp ?_ ?_
  · exact fun hover => isWithin_iff.mpr ⟨hanchor'.symm.trans hanchor, hover⟩
  · exact fun hover => isWithin_iff.mpr ⟨hanchor.symm.trans hanchor', hover⟩

/-- What lies below a root belongs to the target of the root, whatever roots there are for a
time. -/
theorem owner?_of_root (h : project.RootsApart) (hroot : root ∈ project.roots target)
    (hp : root.isWithin p = true) (temp : TempRoots) : project.owner? temp p = some target := by
  obtain ⟨found, hentry, hin⟩ := exists_entry_of_mem_roots hroot
  rw [owner?, List.findSome?_append]
  generalize hfirst : project.sourceRoots.entries.findSome? _ = first
  cases first with
  | none =>
    have hnone := List.findSome?_eq_none_iff.mp hfirst _ hentry
    simp only [ite_eq_right_iff, reduceCtorEq, imp_false] at hnone
    exact absurd (List.any_eq_true.mpr ⟨root, hin, hp⟩) hnone
  | some owner =>
    obtain ⟨⟨other, others⟩, hother, hsome⟩ := List.exists_of_findSome?_eq_some hfirst
    simp only [Option.ite_none_right_eq_some, Option.some.injEq] at hsome
    obtain ⟨hany, rfl⟩ := hsome
    obtain ⟨root', hin', hp'⟩ := List.any_eq_true.mp hany
    rw [Option.some_or]
    by_contra hne
    have hne : other ≠ target := fun heq => hne (heq ▸ rfl)
    rcases isWithin_or_isWithin hp hp' with hwithin | hwithin
    · rw [h _ hentry _ hother (Ne.symm hne) root hin root' hin'] at hwithin
      cases hwithin
    · rw [h _ hother _ hentry hne root' hin' root hin] at hwithin
      cases hwithin

-- ---------------------------------------------------------------------------
-- Sources
-- ---------------------------------------------------------------------------

variable {files : FileSystem} {extensions : List String}

/-- The sources below one root. -/
def rootSources (files : FileSystem) (extensions : List String) (root : Path) :
    Except FileFault (List Path) := do
  match ← files.probe root with
  | some .directory =>
    match files.locate root with
    | .ok place => return (filesBelow files root place).filter (hasExtension extensions)
    | .error refusal => throw (.refused refusal root)
  | _ => return []

theorem sources_eq (project : Project) (files : FileSystem) (target : TargetId)
    (extensions : List String) : project.sources files target extensions =
      (do return (← (project.roots target).mapM (rootSources files extensions)).flatten) :=
  rfl

theorem locate_of_probe {node : Node} (h : files.probe p = .ok (some node)) :
    ∃ place, files.locate p = .ok place := by
  cases hlocate : files.locate p with
  | ok place => exact ⟨place, rfl⟩
  | error refusal =>
    unfold FileSystem.probe FileSystem.stat at h
    simp only [hlocate] at h
    split at h
    · cases h
    · split at h <;> cases h

/-- Below a root that can be looked at, sources are found that lie there. -/
theorem exists_rootSources (extensions : List String) (h : ∃ found, files.probe root = .ok found) :
    ∃ found, rootSources files extensions root = .ok found ∧
      ∀ p ∈ found, root.isWithin p = true ∧ hasExtension extensions p = true := by
  obtain ⟨node, hprobe⟩ := h
  cases node with
  | none =>
    refine ⟨[], ?_, nofun⟩
    simp only [rootSources, hprobe]
    rfl
  | some node =>
    cases node with
    | file content executable =>
      refine ⟨[], ?_, nofun⟩
      simp only [rootSources, hprobe]
      rfl
    | directory =>
      obtain ⟨place, hplace⟩ := locate_of_probe hprobe
      refine ⟨(filesBelow files root place).filter (hasExtension extensions), ?_, fun p hp => ?_⟩
      · simp only [rootSources, hprobe, hplace]
        rfl
      · obtain ⟨hfound, hextension⟩ := List.mem_filter.mp hp
        refine ⟨?_, hextension⟩
        rw [filesBelow, List.mem_mergeSort, List.mem_filterMap] at hfound
        obtain ⟨⟨other, node⟩, -, hfile⟩ := hfound
        cases node with
        | directory => cases hfile
        | file content executable =>
          cases hfile
          exact isWithin_iff.mpr ⟨rfl, List.prefix_append _ _⟩

/-- A traversal whose steps all succeed succeeds. -/
theorem mapM_ok {ε α β : Type} {f : α → Except ε β} {P : α → β → Prop} {as : List α}
    (h : ∀ a ∈ as, ∃ b, f a = .ok b ∧ P a b) :
    ∃ bs, as.mapM f = .ok bs ∧ ∀ b ∈ bs, ∃ a ∈ as, P a b := by
  induction as with
  | nil => exact ⟨[], rfl, nofun⟩
  | cons a as ih =>
    obtain ⟨⟨b, hb, hfirst⟩, hrest⟩ := List.forall_mem_cons.mp h
    obtain ⟨bs, hbs, hothers⟩ := ih hrest
    refine ⟨b :: bs, ?_, List.forall_mem_cons.mpr ⟨⟨a, List.mem_cons_self, hfirst⟩, fun c hc => ?_⟩⟩
    · rw [List.mapM_cons, hb, hbs]
      rfl
    · obtain ⟨d, hd, hcd⟩ := hothers c hc
      exact ⟨d, List.mem_cons_of_mem _ hd, hcd⟩

/-- The sources of a target are found if its roots can be looked at. -/
theorem exists_sources (extensions : List String)
    (h : ∀ root ∈ project.roots target, ∃ found, files.probe root = .ok found) :
    ∃ found, project.sources files target extensions = .ok found ∧
      ∀ p ∈ found, ∃ root ∈ project.roots target,
        root.isWithin p = true ∧ hasExtension extensions p = true := by
  obtain ⟨found, hfound, hin⟩ := mapM_ok (P := fun root (ps : List Path) => ∀ p ∈ ps,
      root.isWithin p = true ∧ hasExtension extensions p = true)
    fun root hroot => exists_rootSources extensions (h root hroot)
  refine ⟨found.flatten, ?_, fun p hp => ?_⟩
  · rw [sources_eq, hfound]
    rfl
  · obtain ⟨ps, hps, hp⟩ := List.mem_flatten.mp hp
    obtain ⟨root, hroot, hall⟩ := hin ps hps
    exact ⟨root, hroot, hall p hp⟩

end Project

namespace Build

variable {ctx : Context} {chunk : Chunk} {target : TargetId} {p : Path} {w : World}
variable {settings : Settings} {role : Role}

/-- The Groovy sources that a chunk's targets have in these files. -/
def chunkFiles (ctx : Context) (chunk : Chunk) (files : FileSystem) : DirtyFiles :=
  chunk.ids.flatMap fun target =>
    ((ctx.project.sources files target groovyExtensions).toOption.getD []).map fun source =>
      (target, source)

section
variable (hlook : ∀ target ∈ chunk.ids, ∀ root ∈ ctx.project.roots target,
  ∃ found, w.files.probe root = .ok found)
include hlook

/-- The sources of a chunk are found if all roots can be looked at. -/
theorem run_chunkSources : chunkSources ctx chunk w = (.ok (chunkFiles ctx chunk w.files), w) := by
  rw [chunkSources, run_bind_of_ok (run_get w), chunkFiles, List.flatMap_def]
  refine run_bind_of_ok ?_
  generalize chunk.ids = targets at hlook
  induction targets with
  | nil => rfl
  | cons target targets ih =>
    obtain ⟨found, hfound, -⟩ := Project.exists_sources groovyExtensions
      (hlook target List.mem_cons_self)
    simp only [List.mapM_cons, run_bind, hfound, run_pure, List.map_cons, Except.toOption,
      Option.getD_some, ih fun other ho => hlook other (List.mem_cons_of_mem _ ho)]

/-- A source of a chunk is a Groovy file, and its target owns it. -/
theorem mem_chunkFiles (hroots : ctx.project.RootsApart)
    (h : (target, p) ∈ chunkFiles ctx chunk w.files) :
    target ∈ chunk.ids ∧ isGroovy p.name = true ∧
      ∀ temp, ctx.project.owner? temp p = some target := by
  obtain ⟨owner, howner, hm⟩ := List.mem_flatMap.mp h
  obtain ⟨source, hsource, heq⟩ := List.mem_map.mp hm
  obtain ⟨rfl, rfl⟩ := Prod.mk.inj heq
  obtain ⟨found, hfound, hall⟩ := Project.exists_sources groovyExtensions
    (hlook owner howner)
  rw [hfound] at hsource
  obtain ⟨root, hroot, hwithin, hextension⟩ := hall source hsource
  exact ⟨howner, (hasExtension_groovy_iff.mp hextension).isGroovy,
    ctx.project.owner?_of_root hroots hroot hwithin⟩

end

end Build

end GroovyRounds
