import GroovyRounds.Proofs.Build.KnownStubs
import GroovyRounds.Proofs.Build.MakingRuns
import GroovyRounds.Proofs.Build.Moving

/-!
# Where the files of a round belong

A round of stubs and a round of classes differ in where their files belong: in
the stub directories of the targets, or in their output directories. If none of
these lies in another (`Orderly`), the file of a source in either round is in no
way of the file of another source (`filesApart_making`).
-/

namespace GroovyRounds

open FileSystem Path

-- ---------------------------------------------------------------------------
-- Directories of a role
-- ---------------------------------------------------------------------------

/-- Where a target's files of a round belong. -/
def Role.place (role : Role) (project : Project) (cwd : Path) (target : TargetId) : Location :=
  match role with
  | .stubs => (project.stubPlace target).names
  | .classes => outputPlace cwd target

/-- The modules of a chunk have different plain names, and no directory that its rounds write to
lies in another or holds the directory for temporary files of the stubs. -/
@[mk_iff] structure Orderly (ctx : Context) (chunk : Chunk) (cwd : Path) (data temp : Location) :
    Prop where
  data_root : ctx.project.dataRoot = below data
  temp_root : ctx.tempDirectory = below temp
  data_plain : ∀ name ∈ data, IsPlain name
  temp_plain : ∀ name ∈ temp, IsPlain name
  separate : Separate chunk cwd
  texts : ∀ target ∈ chunk.ids, ∃ name, target.name = .text name
  names : (chunk.ids.map (·.name.display)).Nodup
  names_plain : ∀ target ∈ chunk.ids, IsPlain target.name.display
  inline : ∀ role : Role, ∀ target ∈ chunk.ids,
    IsInline (below (role.place ctx.project cwd target)).toString
  no_backslash : ∀ target ∈ chunk.ids, '\\' ∉ (ctx.project.stubPlace target).toString.toList
  aside : ∀ target ∈ chunk.ids, Aside (data ++ ["groovyStubs"]) (outputPlace cwd target)
  temp_outside : ∀ target ∈ chunk.ids, ¬ (ctx.project.stubPlace target).names <+: temp

instance {P : Role → Prop} [DecidablePred P] : Decidable (∀ role, P role) :=
  decidable_of_iff (P .stubs ∧ P .classes)
    ⟨fun h role => by cases role; exacts [h.1, h.2], fun h => ⟨h _, h _⟩⟩

instance (scalar : Scalar) : Decidable (∃ name, scalar = .text name) :=
  match scalar with
  | .text name => .isTrue ⟨name, rfl⟩
  | .null | .boolean _ | .integer _ | .double _ => .isFalse nofun

instance (ctx : Context) (chunk : Chunk) (cwd : Path) (data temp : Location) :
    Decidable (Orderly ctx chunk cwd data temp) :=
  decidable_of_iff _ (orderly_iff ctx chunk cwd data temp).symm

namespace Orderly

variable {ctx : Context} {chunk : Chunk} {cwd : Path} {data temp : Location} {target : TargetId}
variable {other : TargetId} (h : Orderly ctx chunk cwd data temp)
include h

theorem stubPlace_names (target : TargetId) : (ctx.project.stubPlace target).names =
    data ++ ["groovyStubs"] ++ [target.name.display, target.kind.directory] := by
  rw [Project.stubPlace, h.data_root, inside, List.append_assoc]
  rfl

theorem stubPlace_eq (target : TargetId) :
    ctx.project.stubPlace target = below (ctx.project.stubPlace target).names := by
  rw [Project.stubPlace, h.data_root]
  rfl

theorem apart (role : Role) : Apart chunk (role.place ctx.project cwd) := by
  cases role with
  | classes => exact h.separate.apart
  | stubs =>
    refine ⟨.of_map Scalar.display (by simpa [Function.comp_def] using h.names), ?_, ?_, ?_⟩
    · intro target ht name hm
      rw [Role.place, h.stubPlace_names] at hm
      simp only [List.append_assoc, List.mem_append, List.mem_cons, List.not_mem_nil, or_false]
        at hm
      rcases hm with hm | rfl | rfl | rfl
      · exact h.data_plain name hm
      · decide
      · exact h.names_plain target ht
      · cases target.kind <;> decide
    · intro target ht
      rw [Role.place, ← h.stubPlace_eq]
      exact h.no_backslash target ht
    · intro target ht other ho hne hbelow
      rw [Role.place, Role.place, h.stubPlace_names, h.stubPlace_names,
        List.prefix_append_right_inj, List.cons_prefix_cons] at hbelow
      exact hne (List.inj_on_of_nodup_map h.names ht ho hbelow.1)

/-- The stub directory of a target lies beside the output directory of any. -/
theorem stubs_aside (ho : other ∈ chunk.ids) :
    Aside (ctx.project.stubPlace target).names (outputPlace cwd other) := by
  rw [h.stubPlace_names]
  simpa using (h.aside other ho).append [target.name.display, target.kind.directory] []

theorem stubDirectory_eq (ht : target ∈ chunk.ids) :
    ctx.project.stubDirectory target = .ok (below (ctx.project.stubPlace target).names) := by
  rw [← h.stubPlace_eq]
  obtain ⟨name, hname⟩ := h.texts target ht
  cases hfound : ctx.project.stubDirectory target with
  | ok directory =>
    rw [ctx.project.stubDirectory_eq (h.names_plain target ht) hfound]
  | error failure =>
    rw [Project.stubDirectory, hname] at hfound
    cases hfound

theorem stubs_apart : StubsApart ctx.project chunk where
  root_valid := by
    rw [h.data_root]
    exact fun name hm => (h.data_plain name hm).toIsComponent
  names := (h.apart .classes).names
  plain := h.names_plain
  no_backslash := h.no_backslash

end Orderly

-- ---------------------------------------------------------------------------
-- Files of sources
-- ---------------------------------------------------------------------------

/-- The suffix of the files that a round makes. -/
def Role.suffix : Role → String
  | .stubs => ".java"
  | .classes => ".class"

/-- The names that lead from a directory to the file that is made of a source. -/
def Role.fileNames (role : Role) (p : Path) : List String :=
  ["pkg", p.stem ++ role.suffix]

/-- Sources of different stems, with paths that can be spelled on a line. -/
@[mk_iff] structure Spellable (files : List Path) : Prop where
  valid : ∀ p ∈ files, p.Valid
  inline : ∀ p ∈ files, IsInline p.toString
  no_backslash : ∀ p ∈ files, '\\' ∉ p.toString.toList
  stems : ∀ p ∈ files, ∀ q ∈ files, p.stem = q.stem → p = q

instance (files : List Path) : Decidable (Spellable files) :=
  decidable_of_iff _ (spellable_iff files).symm

theorem Spellable.mono {files files' : List Path} (h : Spellable files) (hsub : files' ⊆ files) :
    Spellable files' where
  valid p hp := h.valid p (hsub hp)
  inline p hp := h.inline p (hsub hp)
  no_backslash p hp := h.no_backslash p (hsub hp)
  stems p hp q hq := h.stems p (hsub hp) q (hsub hq)

section
variable {role : Role} {p q : Path} {name : String} {c : Char}

/-- A character of a file's name is one of the source's or of the suffix. -/
theorem mem_fileName (h : c ∈ (p.stem ++ role.suffix).toList) :
    p.names ≠ [] ∧ c ∈ p.name.toList ∨ c ∈ role.suffix.toList := by
  rw [String.toList_append, List.mem_append] at h
  exact h.imp_left mem_stem

theorem length_fileName (role : Role) (p : Path) : 2 < (p.stem ++ role.suffix).length := by
  have hsuffix : 2 < role.suffix.length := by cases role <;> decide
  rw [String.length_append]
  omega

/-- What is in no source's path and in no suffix is in no file's name. -/
theorem not_mem_fileNames (hp : c ∉ p.toString.toList) (hpackage : c ∉ "pkg".toList)
    (hsuffix : c ∉ role.suffix.toList) : ∀ name ∈ role.fileNames p, c ∉ name.toList := by
  rw [Role.fileNames]
  simp only [List.forall_mem_cons, List.not_mem_nil, false_implies, implies_true, and_true]
  refine ⟨hpackage, fun hm => ?_⟩
  rcases mem_fileName hm with ⟨hnames, hm⟩ | hm
  · exact hp ((name_suffix hnames).subset hm)
  · exact hsuffix hm

theorem isPlain_fileNames (hp : p.Valid) : ∀ name ∈ role.fileNames p, IsPlain name := by
  have hlong := length_fileName role p
  rw [Role.fileNames]
  simp only [List.forall_mem_cons, List.not_mem_nil, false_implies, implies_true, and_true]
  refine ⟨by decide, ⟨⟨?_, ?_, fun hslash => ?_⟩, ?_⟩⟩
  · intro heq
    rw [heq] at hlong
    exact absurd hlong (by decide)
  · intro heq
    rw [heq] at hlong
    exact absurd hlong (by decide)
  · rcases mem_fileName hslash with ⟨hnames, hm⟩ | hm
    · exact (hp _ (name_mem hnames)).no_slash hm
    · cases role <;> exact absurd hm (by decide)
  · intro heq
    rw [heq] at hlong
    exact absurd hlong (by decide)

theorem fileNames_ne_nil : role.fileNames p ≠ [] := by simp [Role.fileNames]

/-- Files of different stems are in no way of each other. -/
theorem stem_eq_of_below (h : role.fileNames p <+: role.fileNames q) : p.stem = q.stem := by
  simp only [Role.fileNames, List.cons_prefix_cons, List.prefix_nil, and_true, true_and] at h
  simpa using h

end

-- ---------------------------------------------------------------------------
-- What a round makes
-- ---------------------------------------------------------------------------

namespace Role

/-- What the compiler of a round makes of a source, below the directory it is told. -/
def made (role : Role) (content : Path → List UInt8) (directory : Location) (p : Path) :
    MadeFile where
  place := directory ++ role.fileNames p
  content := content p
  source := p.toString

/-- What a round makes of the sources of a chunk, by their spelling. -/
def making (role : Role) (owner : Path → TargetId) (content : Path → List UInt8) : Making where
  file source := role.fileNames (.ofString source)
  owner source := owner (.ofString source)
  content source := content (.ofString source)

variable {role : Role} {content : Path → List UInt8} {owner : Path → TargetId}
variable {directory : Location} {p : Path} {files : List Path}

theorem file_making (hp : p.Valid) :
    (role.making owner content).file p.toString = role.fileNames p := by
  simp only [making, ofString_toString hp]

theorem item_made (hp : p.Valid) :
    (role.made content directory p).item =
      (role.making owner content).item directory p.toString := by
  simp only [MadeFile.item, made, Making.item, making, ofString_toString hp, spellBelow,
    toString_below_append directory fileNames_ne_nil]

/-- A file is reported on one line if its directory and its source can be spelled on one. -/
theorem reportable_made (hdirectory : IsInline (below directory).toString)
    (hp : IsInline p.toString) : (role.made content directory p).item.Reportable := by
  have hspelled : (role.made content directory p).item.output =
      spellFolder directory ++ spellNames (role.fileNames p) :=
    toString_below_append directory fileNames_ne_nil
  have hfree {c : Char} (hc : c ∉ (below directory).toString.toList) (hc' : c ∉ p.toString.toList)
      (hslash : c ≠ '/') (hpackage : c ∉ "pkg".toList) (hsuffix : c ∉ role.suffix.toList) :
      c ∉ (role.made content directory p).item.output.toList := by
    rw [hspelled, String.toList_append, List.mem_append]
    rintro (hm | hm)
    · exact (mem_spellFolder hm).elim hslash hc
    · rcases mem_spellNames hm with hm | ⟨name, hname, hm⟩
      · exact hslash hm
      · exact not_mem_fileNames hc' hpackage hsuffix name hname hm
  refine ⟨⟨?_, ?_, ?_, ?_⟩, hp⟩
  · intro hempty
    have hlength := congrArg String.length (hspelled.symm.trans hempty)
    rw [String.length_append, fileNames, spellNames] at hlength
    simp at hlength
  · exact hfree hdirectory.no_tab hp.no_tab (by decide) (by decide) (by cases role <;> decide)
  · exact hfree hdirectory.no_feed hp.no_feed (by decide) (by decide) (by cases role <;> decide)
  · exact hfree hdirectory.no_return hp.no_return (by decide) (by decide)
      (by cases role <;> decide)

/-- The files of different sources are in no way of each other. -/
theorem filesApart_making (h : Spellable files) :
    FilesApart (role.making owner content).file (files.map Path.toString) where
  ne_nil _ _ := fileNames_ne_nil
  plain source hm := by
    obtain ⟨p, hp, rfl⟩ := List.mem_map.mp hm
    rw [file_making (h.valid p hp)]
    exact isPlain_fileNames (h.valid p hp)
  apart source hm other ho hbelow := by
    obtain ⟨p, hp, rfl⟩ := List.mem_map.mp hm
    obtain ⟨q, hq, rfl⟩ := List.mem_map.mp ho
    rw [file_making (h.valid p hp), file_making (h.valid q hq)] at hbelow
    rw [h.stems p hp q hq (stem_eq_of_below hbelow)]

theorem nodup_toString (h : Spellable files) (hnodup : files.Nodup) :
    (files.map Path.toString).Nodup := by
  refine hnodup.map_on fun p hp q hq heq => ?_
  rw [← ofString_toString (h.valid p hp), heq, ofString_toString (h.valid q hq)]

end Role

end GroovyRounds
