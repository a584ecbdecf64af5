import GroovyRounds.Proofs.Build.ClassMap
import GroovyRounds.Proofs.Build.Grouped
import GroovyRounds.Proofs.Build.Preparation
import GroovyRounds.Proofs.Build.Unregistered

/-!
# Settled jobs

When the compiler has made one class of every source of a job, and the classes
can be moved where they belong, settling the job makes all its sources known to
the index, or none if it is to be compiled again (`indexed_settleJob`).
-/

namespace GroovyRounds

open Path FileSystem

/-- The name of the class that a file holds. -/
def FileSystem.className? (files : FileSystem) (p : Path) : Option String :=
  (FileAction.readBytes p files).1.toOption.bind fun content =>
    (ClassFile.className content).toOption

theorem FileSystem.holdsFile_of_className? {files : FileSystem} {place : Location} {name : String}
    (hplain : ∀ part ∈ place, IsPlain part) (h : files.className? (.below place) = some name) :
    ∃ content, files.HoldsFile place content ∧ ClassFile.className content = .ok name := by
  unfold className? at h
  cases hread : FileAction.readBytes (.below place) files with
  | mk result after =>
    rw [hread] at h
    cases result with
    | error fault => cases h
    | ok content =>
      exact ⟨content, ((FileAction.readBytes_below_iff hplain).mp hread).2,
        Program.ok_of_toOption h⟩

namespace Build

open Program

/-- The compiler made of every source it was given the one class that the source is to be
compiled to, below the output it was told. -/
@[mk_iff] structure MakesClasses (classOf : String → List String) (sources : List String)
    (output : String) (reported : List OutputItem) (files : FileSystem) : Prop where
  reported : reported.Perm (sources.map fun source =>
    { output := output ++ spellNames (classOf source) ++ classSuffix, source })
  written : ∀ source ∈ sources,
    files.className? (.ofString (output ++ spellNames (classOf source) ++ classSuffix)) ≠ none

instance (classOf : String → List String) (sources : List String) (output : String)
    (reported : List OutputItem) (files : FileSystem) :
    Decidable (MakesClasses classOf sources output reported files) :=
  decidable_of_iff _ (makesClasses_iff classOf sources output reported files).symm

variable {ctx : Context} {builder : Builder} {chunk : Chunk} {cwd : Path}
variable {classOf : String → List String} {sources : List String} {compiled : Set String}
variable {v w : World}

-- ---------------------------------------------------------------------------
-- What a settled job registers
-- ---------------------------------------------------------------------------

/-- A job is settled without registering anything, or all its items are registered at last. -/
theorem settleJob_parts {job : Job} {reported : CompilerOutput}
    {result : Except Failure Verdict} (hrole : builder.role = .classes)
    (h : settleJob ctx builder chunk job reported w = (result, v)) :
    Unregistered w v ∧ result ≠ .ok .ok ∧ result ≠ .ok .additionalPassRequired ∨
      ∃ grouped u t name registered,
        reconcileAll ctx builder.name chunk job.generationOutputs job.compilerOutput
          reported.compiled .empty w = (.ok grouped, u) ∧
        chunk.name = .ok name ∧ SameFiles u t ∧ Unregistered u t ∧
        registerRound ctx builder.name job.files grouped t = (registered, v) ∧
        (registered = .ok () → result = .ok .ok ∨ result = .ok .additionalPassRequired) := by
  unfold settleJob at h
  have hquiet := quiet_reconcileRun ctx builder.name chunk job.generationOutputs
    job.compilerOutput reported.compiled w
  cases hreconcile : reconcileRun ctx builder.name chunk job.generationOutputs
      job.compilerOutput reported.compiled w with
  | mk reconciled u =>
    rw [hreconcile] at hquiet
    have hbefore : Unregistered w u := hquiet.idle.toUnregistered
    cases reconciled with
    | error failure =>
      rw [run_bind_of_error hreconcile] at h
      cases h
      exact .inl ⟨hbefore, nofun, nofun⟩
    | ok grouped =>
      rw [run_bind_of_ok hreconcile, run_bind_of_ok (run_orderRebuild _ u)] at h
      have hordered : Unregistered u (escalated chunk reported.shouldRetry u) :=
        (idle_escalated _ u).toUnregistered
      split at h
      · cases h
        exact .inl ⟨hbefore.trans hordered, nofun, nofun⟩
      · have htold := quiet_tellAll ctx
          (reported.messages chunk.representative.name.display)
          (escalated chunk reported.shouldRetry u)
        have hfiles : Keeps SameFiles ((reported.messages
            chunk.representative.name.display).forM (tell ctx)) :=
          Keeps.forM fun message _ => sameFiles_tell ctx message
        simp only [announce, hrole, run_bind] at h
        cases htell : (reported.messages chunk.representative.name.display).forM (tell ctx)
            (escalated chunk reported.shouldRetry u) with
        | mk told t =>
          rw [htell] at h htold
          have hmessages : Unregistered u t := hordered.trans htold.idle.toUnregistered
          cases told with
          | error failure =>
            cases h
            exact .inl ⟨hbefore.trans hmessages, nofun, nofun⟩
          | ok _ =>
            right
            obtain ⟨_, u', hall, hend⟩ := bind_eq_ok_iff.mp hreconcile
            obtain ⟨name, _, hspelled, hreturn⟩ := bind_eq_ok_iff.mp hend
            cases hreturn
            obtain ⟨hname, rfl⟩ := chunkName_eq_ok_iff.mp hspelled
            have hsame : SameFiles (escalated chunk reported.shouldRetry u) t :=
              hfiles.of_eq htell
            cases hregister : registerRound ctx builder.name job.files grouped t with
            | mk registered t' =>
              simp only [hregister] at h
              cases registered with
              | error failure =>
                cases h
                exact ⟨grouped, u, t, name, _, hall, hname, hsame, hmessages, hregister, nofun⟩
              | ok _ =>
                simp only [run_verdictOr] at h
                obtain ⟨hresult, rfl⟩ := Prod.mk.inj h
                refine ⟨grouped, u, t, name, _, hall, hname, hsame, hmessages, hregister,
                  fun _ => ?_⟩
                rw [← hresult]
                split
                · exact .inr rfl
                · exact .inl rfl

/-- What the compiler made of its sources, as it is found when it has ended. -/
theorem exists_making {output : String} {reported : List OutputItem}
    (hsep : Separate chunk cwd)
    (houtput : output = spellFolder (outputPlace cwd chunk.representative.toTargetId))
    (hclass : ∀ source ∈ sources, IsQualified (classOf source))
    (hinj : Set.InjOn classOf {source | source ∈ sources})
    (hspelled : ∀ source ∈ sources,
      (Path.ofString source).toString = source ∧ '\\' ∉ source.toList)
    (howned : ∀ source ∈ sources, ∃ target ∈ chunk.ids,
      ctx.project.owner? w.tempRoots (.ofString source) = some target)
    (hmakes : MakesClasses classOf sources output reported w.files) :
    ∃ making : Making, (making.file = fun source => classFile (classOf source)) ∧
      making.Fits chunk sources ∧
      (∀ source ∈ sources, ctx.project.owner? w.tempRoots (.ofString source) =
        some (making.owner source)) ∧
      (∀ source ∈ sources, w.files.HoldsFile
        (outputPlace cwd chunk.representative.toTargetId ++ making.file source)
        (making.content source)) ∧
      reported.Perm
        (sources.map (making.item (outputPlace cwd chunk.representative.toTargetId))) := by
  have hrep : chunk.representative.toTargetId ∈ chunk.ids := List.mem_cons_self
  have hitem {source : String} (hm : source ∈ sources) :
      output ++ spellNames (classOf source) ++ classSuffix =
        spellBelow (outputPlace cwd chunk.representative.toTargetId)
          (classFile (classOf source)) := by
    rw [houtput, String.append_assoc, ← (hclass source hm).spellNames_classFile, spellBelow]
  have hread : ∀ source ∈ sources, ∃ content name,
      w.files.HoldsFile (outputPlace cwd chunk.representative.toTargetId ++
        classFile (classOf source)) content ∧ ClassFile.className content = .ok name := by
    intro source hm
    obtain ⟨name, hname⟩ := Option.ne_none_iff_exists'.mp (hmakes.written source hm)
    rw [hitem hm, hsep.apart.ofString_spellBelow hrep (hclass source hm).isPlain_classFile
      (IsQualified.classFile_ne_nil _)] at hname
    obtain ⟨content, hholds, hclassName⟩ := holdsFile_of_className?
      (hsep.apart.plain_append hrep (hclass source hm).isPlain_classFile) hname
    exact ⟨content, name, hholds, hclassName⟩
  have : Nonempty TargetId := ⟨chunk.representative.toTargetId⟩
  choose! content name hcontent hname using hread
  choose! owner hids howner using howned
  refine ⟨⟨fun source => classFile (classOf source), owner, content⟩, rfl, ?_, howner, hcontent, ?_⟩
  · exact
      { owner := hids
        apart := filesApart_classFile hclass hinj
        no_backslash := fun source hm => (hclass source hm).no_backslash_classFile
        source_no_backslash := fun source hm => (hspelled source hm).2
        source_spelled := fun source hm => (hspelled source hm).1
        class_name := fun source hm => ⟨name source, hname source hm⟩ }
  · refine hmakes.reported.trans (.of_eq (List.map_congr_left fun source hm => ?_))
    rw [hitem hm]
    rfl

theorem eq_map_of_perm {making : Making} {directory : Location} {items : List OutputItem}
    (h : items.Perm (sources.map (making.item directory))) :
    items = (items.map (·.source)).map (making.item directory) ∧
      (items.map (·.source)).Perm sources := by
  constructor
  · have hmap : items.map (making.item directory ∘ (·.source)) = items.map id := by
      refine List.map_congr_left fun item hm => ?_
      obtain ⟨source, -, rfl⟩ := List.mem_map.mp (h.subset hm)
      rfl
    rw [List.map_map, hmap, List.map_id]
  · have hsources := h.map (·.source)
    simpa [List.map_map, Making.item, Function.comp_def] using hsources

/-- A job is settled without registering anything, or all sources are known after it. -/
theorem indexed_settleJob {job : Job} {reported : CompilerOutput}
    {result : Except Failure Verdict} (hrole : builder.role = .classes)
    (hsep : Separate chunk cwd)
    (houtputs : ∀ target ∈ chunk.ids,
      job.generationOutputs.find? target = some (spellFolder (outputPlace cwd target)))
    (houtput : job.compilerOutput =
      spellFolder (outputPlace cwd chunk.representative.toTargetId))
    (hnodup : sources.Nodup) (hclass : ∀ source ∈ sources, IsQualified (classOf source))
    (hinj : Set.InjOn classOf {source | source ∈ sources})
    (hspelled : ∀ source ∈ sources,
      (Path.ofString source).toString = source ∧ '\\' ∉ source.toList)
    (howned : ∀ source ∈ sources, ∃ target ∈ chunk.ids,
      ctx.project.owner? w.tempRoots (.ofString source) = some target)
    (hmakes : MakesClasses classOf sources job.compilerOutput reported.compiled w.files)
    (hfree : ∀ source ∈ sources, ∀ target,
      ctx.project.owner? w.tempRoots (.ofString source) = some target →
        w.files.node? (outputPlace cwd target ++ classFile (classOf source)) ≠ some .directory)
    (hindexed : Indexed chunk cwd classOf w.index compiled)
    (h : settleJob ctx builder chunk job reported w = (result, v))
    (hmoved : AllMoved builder.name w v) :
    Unregistered w v ∧ result ≠ .ok .ok ∧ result ≠ .ok .additionalPassRequired ∨
      Indexed chunk cwd classOf v.index (compiled ∪ {source | source ∈ sources}) ∧
        (∃ name, chunk.name = .ok name) ∧
        (result = .ok .ok ∨ result = .ok .additionalPassRequired) := by
  rcases settleJob_parts hrole h with hleft | ⟨grouped, u, t, name, registered, hall, hname,
    hfiles, hframe, hregister, hresult⟩
  · exact .inl hleft
  right
  obtain ⟨making, hfile, hfits, howner, hmade, hperm⟩ :=
    exists_making hsep houtput hclass hinj hspelled howned hmakes
  obtain ⟨htodo, hsame⟩ := eq_map_of_perm hperm
  have hquiet := (quiet_reconcileAll _ _ _ _ _ _ _).of_eq hall
  have hsteady := (steady_registerRound _ _ _ _).of_eq hregister
  rw [htodo] at hall
  have hcompiler : Path.ofString job.compilerOutput =
      below (outputPlace cwd chunk.representative.toTargetId) := by
    rw [houtput]
    exact ofString_spellFolder fun name hm =>
      (hsep.apart.plain _ List.mem_cons_self name hm).toIsComponent
  obtain ⟨rfl, hreconciled⟩ := reconcileAll_cases hsep.apart hfits.apart
    (spells_of_folders hsep.apart houtputs) hcompiler hsame.subset (hsame.nodup_iff.mpr hnodup)
    (fun source hm => ⟨howner source (hsame.subset hm), hfits.owner source (hsame.subset hm)⟩)
    (fun source hm => hmade source (hsame.subset hm))
    (fun source hm => by
      rw [Making.place, hfile]
      exact hfree source (hsame.subset hm) _ (howner source (hsame.subset hm)))
    hall (hmoved.within (List.prefix_refl _) (hframe.messages.trans hsteady.messages))
  have hthere : ∀ source ∈ reported.compiled.map (·.source),
      t.files.HoldsFile (making.place (outputPlace cwd) source) (making.content source) := by
    intro source hm
    have hsamefiles : t.files = u.files := hfiles
    rw [hsamefiles]
    exact hreconciled.there source hm
  rw [run_registerRound_group hsep.apart hfits hsame.subset hthere] at hregister
  obtain ⟨rfl, rfl⟩ := Prod.mk.inj hregister
  refine ⟨?_, ⟨name, hname⟩, hresult rfl⟩
  rw [index_registeredRound_group hsep.apart hfits hsame.subset, hframe.index, hquiet.index]
  have hset : {source | source ∈ sources} = {source | ∃ element ∈
      (making.group (outputPlace cwd) (reported.compiled.map (·.source)) .empty).elements,
        element.2.source = source} := by
    ext source
    constructor
    · intro hm
      exact ⟨_, mem_elements_group.mpr ⟨source, hsame.mem_iff.mpr hm, rfl⟩, rfl⟩
    · rintro ⟨element, hm, rfl⟩
      obtain ⟨source, hsource, rfl⟩ := mem_elements_group.mp hm
      exact hsame.subset hsource
  rw [hset]
  refine hindexed.addAll fun element hm => ?_
  obtain ⟨source, hsource, rfl⟩ := mem_elements_group.mp hm
  exact ⟨hfits.owner source (hsame.subset hsource), by rw [Making.item, hfile]⟩

end Build

end GroovyRounds
