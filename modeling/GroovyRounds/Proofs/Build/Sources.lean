import GroovyRounds.Proofs.Path
import Mathlib.Data.List.Nodup

/-!
# Sources of a round

The sources that a round compiles are told to the compiler as texts, each once.
A text stands for the file whose path it spells (`exists_of_mem_pathsToCompile`),
and is that of a Groovy source (`isGroovy_of_mem_changedFiles`).
-/

namespace GroovyRounds

theorem nodup_eraseDups {α : Type} [BEq α] [LawfulBEq α] (as : List α) : as.eraseDups.Nodup := by
  cases as with
  | nil => simp
  | cons a as =>
    rw [List.eraseDups_cons, List.nodup_cons]
    refine ⟨fun hm => ?_, nodup_eraseDups (as.filter fun b => !b == a)⟩
    have hfilter := (List.mem_filter.mp (List.mem_eraseDups.mp hm)).2
    simp at hfilter
termination_by as.length
decreasing_by
  have hle := List.length_filter_le (fun b => !b == a) as
  simp only [List.length_cons]
  omega

namespace Path

variable {p : Path}

/-- The spelling of a path ends with its last name. -/
theorem name_suffix (h : p.names ≠ []) : p.name.toList <:+ p.toString.toList := by
  obtain ⟨anchor, names⟩ := p
  obtain ⟨front, last, rfl⟩ := (List.eq_nil_or_concat names).resolve_left h
  have hspell : last.toList <:+ (spellNames (front ++ [last])).toList := by
    by_cases hfront : front = []
    · subst hfront
      simp [spellNames]
    · rw [spellNames_append hfront (by simp)]
      simp only [String.toList_append, spellNames, String.intercalate_singleton]
      exact List.suffix_append _ _
  have hname : (⟨anchor, front ++ [last]⟩ : Path).name = last := by
    simp [name]
  have htext : toString ⟨anchor, front ++ [last]⟩ =
      anchor.slashes ++ spellNames (front ++ [last]) := by
    cases anchor with
    | relative => cases front <;> rfl
    | root => rfl
    | doubleRoot => rfl
  rw [List.concat_eq_append, hname, htext, String.toList_append]
  exact hspell.trans (List.suffix_append _ _)

end Path

section
variable {project : Project} {settings : Settings} {role : Role} {dirty : DirtyFiles}
variable {files : List Path} {p : Path} {source : String}

theorem isGroovy_of_mem_changedFiles (h : p ∈ changedFiles project settings role dirty) :
    isGroovy p.toString := by
  have hcompiled := (List.mem_filter.mp (List.mem_eraseDups.mp h)).2
  simp only [isCompiled, Bool.and_eq_true] at hcompiled
  obtain ⟨extension, hextension, hname⟩ := List.any_eq_true.mp hcompiled.1.1
  have hsuffix := List.isSuffixOf_iff_suffix.mp hname
  have hnames : p.names ≠ [] := by
    intro hnil
    have hempty : p.name.toList = [] := by simp [Path.name, hnil]
    rw [hempty, List.suffix_nil] at hsuffix
    have hdot : '.' ∈ ("." ++ extension).toList := by simp
    rw [hsuffix] at hdot
    cases hdot
  refine List.any_eq_true.mpr ⟨extension, hextension, ?_⟩
  exact List.isSuffixOf_iff_suffix.mpr (hsuffix.trans (Path.name_suffix hnames))

/-- Of Groovy files that are no resources, those are left out that get no stubs. -/
theorem changedFiles_of_isGroovy
    (h : ∀ source ∈ dirty, isGroovy source.2.name = true ∧ source.2 ∉ project.resources) :
    changedFiles project settings role dirty = ((dirty.map (·.2)).filter fun p =>
      !(role = .stubs && settings.excludesStub p)).eraseDups := by
  refine congrArg List.eraseDups (List.filter_congr fun p hp => ?_)
  obtain ⟨source, hsource, rfl⟩ := List.mem_map.mp hp
  obtain ⟨hgroovy, hresource⟩ := h source hsource
  simp [isCompiled, hgroovy, hresource]

theorem nodup_pathsToCompile (files : List Path) : (pathsToCompile files).Nodup :=
  nodup_eraseDups _

/-- Without backslashes, the compiler is told the paths as they are spelled. -/
theorem exists_of_mem_pathsToCompile
    (hslashes : ∀ p ∈ files, '\\' ∉ p.toString.toList)
    (h : source ∈ pathsToCompile files) : ∃ p ∈ files, source = p.toString := by
  obtain ⟨p, hp, rfl⟩ := List.mem_map.mp (List.mem_eraseDups.mp h)
  exact ⟨p, hp, Path.withSlashes_eq (hslashes p hp)⟩

end

end GroovyRounds
