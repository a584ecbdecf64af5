import GroovyRounds.Proofs.Build.Reconcile
import GroovyRounds.Proofs.Build.Registration
import Mathlib.Data.Set.Function

/-!
# The map of earlier classes

A class of many parts lies in a file below an output directory. What the index
knows is exact if it has that file for every source that was compiled, under
one of the targets, and has nothing else (`Indexed`). The map of a round then
holds just the classes of the sources that the round leaves alone
(`mem_classMap`).
-/

namespace GroovyRounds

open Path

-- ---------------------------------------------------------------------------
-- Names of classes
-- ---------------------------------------------------------------------------

/-- The parts of a class's name. -/
@[mk_iff] structure IsQualified (parts : List String) : Prop where
  ne_nil : parts ≠ []
  ne_empty : ∀ part ∈ parts, part ≠ ""
  no_dot : ∀ part ∈ parts, '.' ∉ part.toList
  no_slash : ∀ part ∈ parts, '/' ∉ part.toList
  no_backslash : ∀ part ∈ parts, '\\' ∉ part.toList

instance (parts : List String) : Decidable (IsQualified parts) :=
  decidable_of_iff _ (isQualified_iff parts).symm

/-- The dotted name of a class. -/
def dottedName (parts : List String) : String :=
  ".".intercalate parts

/-- The names that lead from an output directory to the file of a class. -/
def classFile (parts : List String) : List String :=
  parts.dropLast ++ [parts.getLastD "" ++ classSuffix]

theorem dottedName_inj {parts other : List String} (h : IsQualified parts)
    (h' : IsQualified other) (heq : dottedName parts = dottedName other) : parts = other := by
  have hsplit {names : List String} (hq : IsQualified names) :
      (dottedName names).toList.splitOn '.' = names.map String.toList := by
    have hdots : ∀ piece ∈ names.map String.toList, '.' ∉ piece := by
      intro piece hm
      obtain ⟨part, hpart, rfl⟩ := List.mem_map.mp hm
      exact hq.no_dot part hpart
    rw [dottedName, String.toList_intercalate]
    exact List.splitOn_intercalate '.' hdots (by simpa using hq.ne_nil)
  have hmap : parts.map String.toList = other.map String.toList := by
    rw [← hsplit h, ← hsplit h', heq]
  exact List.map_injective_iff.mpr (fun _ _ => String.toList_inj.mp) hmap

namespace IsQualified

variable {parts other : List String} (h : IsQualified parts)
include h

theorem isPlain {part : String} (hm : part ∈ parts) : IsPlain part where
  ne_empty := h.ne_empty part hm
  ne_dot := by
    rintro rfl
    exact h.no_dot _ hm (by decide)
  no_slash := h.no_slash part hm
  ne_dots := by
    rintro rfl
    exact h.no_dot _ hm (by decide)

theorem dropLast_append : parts.dropLast ++ [parts.getLastD ""] = parts := by
  rw [List.getLastD_eq_getLast?, List.getLast?_eq_some_getLast h.ne_nil]
  exact List.dropLast_append_getLast h.ne_nil

theorem last_mem : parts.getLastD "" ∈ parts := by
  rw [List.getLastD_eq_getLast?, List.getLast?_eq_some_getLast h.ne_nil]
  exact List.getLast_mem h.ne_nil

theorem isPlain_classFile : ∀ name ∈ classFile parts, IsPlain name := by
  intro name hm
  rcases List.mem_append.mp hm with hm | hm
  · exact h.isPlain ((List.dropLast_subset parts) hm)
  · rw [List.mem_singleton.mp hm]
    refine isPlain_of_length ?_ ?_
    · have hsuffix : 2 < classSuffix.length := by decide
      rw [String.length_append]
      omega
    · rw [String.toList_append, List.mem_append, not_or]
      exact ⟨h.no_slash _ h.last_mem, by decide⟩

theorem no_backslash_classFile : ∀ name ∈ classFile parts, '\\' ∉ name.toList := by
  intro name hm
  rcases List.mem_append.mp hm with hm | hm
  · exact h.no_backslash name ((List.dropLast_subset parts) hm)
  · rw [List.mem_singleton.mp hm, String.toList_append, List.mem_append, not_or]
    exact ⟨h.no_backslash _ h.last_mem, by decide⟩

omit h in
theorem classFile_ne_nil (parts : List String) : classFile parts ≠ [] := by
  simp [classFile]

/-- The file is spelled as the class, with the suffix at the end. -/
theorem spellNames_classFile : spellNames (classFile parts) = spellNames parts ++ classSuffix := by
  by_cases hfront : parts.dropLast = []
  · have hone : parts = [parts.getLastD ""] := by
      rw [← h.dropLast_append, hfront]
      rfl
    rw [classFile, hfront, hone]
    simp [spellNames]
  · have hparts : spellNames parts =
        spellNames parts.dropLast ++ "/" ++ spellNames [parts.getLastD ""] := by
      rw [← spellNames_append hfront (by simp), h.dropLast_append]
    rw [classFile, spellNames_append hfront (by simp), hparts]
    simp [spellNames, String.append_assoc]

/-- Only the last name of a class file has a dot, so no class file is on the way to another. -/
theorem eq_of_prefix_classFile (h' : IsQualified other)
    (hbelow : classFile parts <+: classFile other) : parts = other := by
  rcases List.prefix_concat_iff.mp hbelow with heq | hfront
  · obtain ⟨hfront, hlast⟩ := List.append_inj' heq rfl
    have hlast : parts.getLastD "" = other.getLastD "" := by
      have hchars := congrArg String.toList (List.cons.inj hlast).1
      rw [String.toList_append, String.toList_append] at hchars
      exact String.toList_inj.mp (List.append_cancel_right hchars)
    rw [← h.dropLast_append, ← h'.dropLast_append, hfront, hlast]
  · have hmem : parts.getLastD "" ++ classSuffix ∈ other.dropLast :=
      hfront.subset (by simp [classFile])
    have hdot : '.' ∈ (parts.getLastD "" ++ classSuffix).toList := by
      rw [String.toList_append]
      exact List.mem_append_right _ (by decide)
    exact absurd hdot (h'.no_dot _ ((List.dropLast_subset other) hmem))

end IsQualified

/-- Different classes lie in different files, none on the way to another. -/
theorem filesApart_classFile {classOf : String → List String} {sources : List String}
    (hclass : ∀ source ∈ sources, IsQualified (classOf source))
    (hinj : Set.InjOn classOf {source | source ∈ sources}) :
    FilesApart (fun source => classFile (classOf source)) sources where
  ne_nil source _ := IsQualified.classFile_ne_nil (classOf source)
  plain source hm := (hclass source hm).isPlain_classFile
  apart source hm other hother hbelow :=
    hinj hm hother ((hclass source hm).eq_of_prefix_classFile (hclass other hother) hbelow)

-- ---------------------------------------------------------------------------
-- What the index knows
-- ---------------------------------------------------------------------------

/-- The index knows just these sources, each with its class below the output of a target. -/
structure Indexed (chunk : Chunk) (cwd : Path) (classOf : String → List String)
    (index : SourceIndex) (compiled : Set String) : Prop where
  sound : ∀ target ∈ chunk.ids, ∀ source outputs,
    index.outputs? target source = some outputs →
      source ∈ compiled ∧ outputs = [spellBelow (outputPlace cwd target) (classFile (classOf source))]
  complete : ∀ source ∈ compiled, ∃ target ∈ chunk.ids, index.outputs? target source ≠ none

namespace Indexed

variable {chunk : Chunk} {cwd : Path} {classOf : String → List String} {index : SourceIndex}
variable {compiled : Set String} {owner : TargetId} {source : String}

theorem empty (chunk : Chunk) (cwd : Path) (classOf : String → List String) :
    Indexed chunk cwd classOf {} ∅ where
  sound _ _ _ _ h := by cases h
  complete := nofun

/-- A class that is entered again, or entered for the first time, is known once. -/
theorem addOutput (h : Indexed chunk cwd classOf index compiled) (howner : owner ∈ chunk.ids) :
    Indexed chunk cwd classOf
      (index.addOutput owner source (spellBelow (outputPlace cwd owner) (classFile (classOf source))))
      (insert source compiled) where
  sound target ht other outputs hfound := by
    rw [SourceIndex.outputs?_addOutput] at hfound
    split at hfound
    · rename_i heq
      obtain ⟨rfl, rfl⟩ := heq
      refine ⟨Set.mem_insert _ _, ?_⟩
      cases hold : index.outputs? target other with
      | none =>
        rw [hold] at hfound
        simpa using hfound.symm
      | some known =>
        rw [hold, (h.sound target ht other known hold).2] at hfound
        simpa using hfound.symm
    · obtain ⟨hmem, houtputs⟩ := h.sound target ht other outputs hfound
      exact ⟨Set.mem_insert_of_mem _ hmem, houtputs⟩
  complete other hother := by
    rcases hother with rfl | hother
    · refine ⟨owner, howner, ?_⟩
      rw [SourceIndex.outputs?_addOutput, if_pos ⟨rfl, rfl⟩]
      simp
    · obtain ⟨target, ht, hknown⟩ := h.complete other hother
      refine ⟨target, ht, ?_⟩
      rw [SourceIndex.outputs?_addOutput]
      split
      · simp
      · exact hknown

theorem addAll {items : List (TargetId × OutputItem)}
    (h : Indexed chunk cwd classOf index compiled)
    (hitems : ∀ item ∈ items, item.1 ∈ chunk.ids ∧
      item.2.output = spellBelow (outputPlace cwd item.1) (classFile (classOf item.2.source))) :
    Indexed chunk cwd classOf
      (items.foldl (fun index item => index.addOutput item.1 item.2.source item.2.output) index)
      (compiled ∪ {source | ∃ item ∈ items, item.2.source = source}) := by
  induction items generalizing index compiled with
  | nil => simpa using h
  | cons item items ih =>
    obtain ⟨howner, houtput⟩ := hitems item List.mem_cons_self
    have hfirst := @addOutput _ _ _ _ _ _ item.2.source h howner
    have hall := ih hfirst fun other hother => hitems other (List.mem_cons_of_mem _ hother)
    rw [← houtput] at hall
    have hset : insert item.2.source compiled ∪ {source | ∃ item ∈ items, item.2.source = source} =
        compiled ∪ {source | ∃ other ∈ item :: items, other.2.source = source} := by
      ext source
      simp only [Set.mem_union, Set.mem_insert_iff, Set.mem_ofPred_eq, List.exists_mem_cons_iff,
        @eq_comm _ source]
      tauto
    rwa [hset] at hall

end Indexed

-- ---------------------------------------------------------------------------
-- The map of a round
-- ---------------------------------------------------------------------------

variable {project : Project} {index : SourceIndex} {chunk : Chunk} {changed : List String}
variable {outputs : OrderedMap TargetId String}

/-- The classes of a target that a round does not recompile, with their sources. -/
def classPairs (project : Project) (index : SourceIndex) (changed : List String)
    (directory : String) (target : TargetId) : List (String × String) :=
  ((index.sources target).filter (isUnchanged project changed)).flatMap fun source =>
    (((index.outputs? target source).getD []).filterMap (classNameBelow? directory)).map (·, source)

theorem addTargetClasses_eq (directory : String) (classes : ClassMap) (target : TargetId) :
    addTargetClasses project index changed directory classes target =
      classes.insertAll (classPairs project index changed directory target) := by
  simp only [addTargetClasses, classPairs, OrderedMap.insertAll, List.foldl_flatMap,
    List.foldl_map]

/-- The map is made of the classes of all targets. -/
theorem classMap_eq {folder : TargetId → String}
    (houtputs : ∀ target ∈ chunk.ids, outputs.find? target = some (folder target)) :
    classMap project index chunk changed outputs =
      .ok (OrderedMap.empty.insertAll (chunk.ids.flatMap fun target =>
        classPairs project index changed (folder target) target)) := by
  unfold classMap
  generalize chunk.ids = targets at houtputs
  generalize (OrderedMap.empty : ClassMap) = classes
  induction targets generalizing classes with
  | nil => rfl
  | cons target targets ih =>
    rw [List.foldlM_cons, houtputs target List.mem_cons_self]
    refine (ih (fun _ hm => houtputs _ (List.mem_cons_of_mem _ hm)) _).trans ?_
    rw [addTargetClasses_eq, List.flatMap_cons, OrderedMap.insertAll, OrderedMap.insertAll,
      OrderedMap.insertAll, List.foldl_append]

theorem classNameBelow?_spellBelow {cwd : Path} {target : TargetId} {parts : List String}
    (h : IsQualified parts) :
    classNameBelow? (spellFolder (outputPlace cwd target))
      (spellBelow (outputPlace cwd target) (classFile parts)) = some (dottedName parts) := by
  have hcomponents : ∀ part ∈ parts, IsComponent part := fun part hm => (h.isPlain hm).toIsComponent
  rw [spellBelow, h.spellNames_classFile, ← String.append_assoc, classNameBelow?_append,
    dotted_spellNames hcomponents]
  rfl

/-- The map of a round holds just the classes of earlier sources that the round leaves alone. -/
theorem mem_classMap {cwd : Path} {classOf : String → List String} {compiled : Set String}
    {classes : ClassMap} (hindexed : Indexed chunk cwd classOf index compiled)
    (hclass : ∀ source ∈ compiled, IsQualified (classOf source))
    (hinj : Set.InjOn classOf compiled) (hgroovy : ∀ source ∈ compiled, isGroovy source)
    (hexcluded : ∀ source ∈ compiled, Path.ofString source ∉ project.excluded)
    (houtputs : ∀ target ∈ chunk.ids,
      outputs.find? target = some (spellFolder (outputPlace cwd target)))
    (h : classMap project index chunk changed outputs = .ok classes) :
    classes.keys.Nodup ∧ ∀ name source, (name, source) ∈ classes.entries ↔
      source ∈ compiled ∧ source ∉ changed ∧ name = dottedName (classOf source) := by
  rw [classMap_eq houtputs] at h
  cases h
  have hpairs (name source : String) :
      (name, source) ∈ (chunk.ids.flatMap fun target =>
        classPairs project index changed (spellFolder (outputPlace cwd target)) target) ↔
      source ∈ compiled ∧ source ∉ changed ∧ name = dottedName (classOf source) := by
    constructor
    · intro hm
      obtain ⟨target, ht, hm⟩ := List.mem_flatMap.mp hm
      obtain ⟨found, hfound, hm⟩ := List.mem_flatMap.mp hm
      obtain ⟨known, hknown, heq⟩ := List.mem_map.mp hm
      cases heq
      obtain ⟨hin, hunchanged⟩ := List.mem_filter.mp hfound
      obtain ⟨files, hfiles⟩ :=
        Option.ne_none_iff_exists'.mp (SourceIndex.mem_sources_iff.mp hin)
      obtain ⟨hcompiled, rfl⟩ := hindexed.sound target ht source files hfiles
      obtain ⟨output, houtput, hname⟩ := List.mem_filterMap.mp hknown
      rw [hfiles, Option.getD_some, List.mem_singleton] at houtput
      subst houtput
      rw [classNameBelow?_spellBelow (hclass source hcompiled)] at hname
      cases hname
      have hchanged : source ∉ changed := by
        simp only [isUnchanged, Bool.and_eq_true, Bool.not_eq_true', List.contains_eq_mem,
          decide_eq_false_iff_not] at hunchanged
        exact hunchanged.1.1
      exact ⟨hcompiled, hchanged, rfl⟩
    · rintro ⟨hcompiled, hchanged, rfl⟩
      obtain ⟨target, ht, hknown⟩ := hindexed.complete source hcompiled
      refine List.mem_flatMap.mpr ⟨target, ht, List.mem_flatMap.mpr ⟨source, ?_, ?_⟩⟩
      · refine List.mem_filter.mpr ⟨SourceIndex.mem_sources_iff.mpr hknown, ?_⟩
        simp [isUnchanged, hchanged, hgroovy source hcompiled, hexcluded source hcompiled]
      · obtain ⟨known, hknown⟩ := Option.ne_none_iff_exists'.mp hknown
        obtain ⟨-, rfl⟩ := hindexed.sound target ht source known hknown
        refine List.mem_map.mpr ⟨_, List.mem_filterMap.mpr ⟨_, ?_,
          classNameBelow?_spellBelow (hclass source hcompiled)⟩, rfl⟩
        simp [hknown]
  have hempty : (OrderedMap.empty : ClassMap).keys.Nodup := List.nodup_nil
  refine ⟨OrderedMap.nodup_keys_insertAll hempty _, fun name source => ?_⟩
  rw [OrderedMap.mem_entries_insertAll, hpairs]
  intro pair hpair other hother heq
  obtain ⟨hone, -, hname⟩ := (hpairs pair.1 pair.2).mp hpair
  obtain ⟨htwo, -, hname'⟩ := (hpairs other.1 other.2).mp hother
  rw [hname, hname'] at heq
  exact hinj hone htwo (dottedName_inj (hclass _ hone) (hclass _ htwo) heq)

end GroovyRounds
