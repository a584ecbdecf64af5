import GroovyRounds.Proofs.Build.Round
import GroovyRounds.Proofs.FileSystem.Files

/-!
# What the compiler is told

A round that was prepared has written its argument file: the compiler finds
under its third parameter what the round made out (`prepare_cases`).
-/

namespace GroovyRounds.Build

open Program FileSystem

variable {ctx : Context} {builder : Builder} {chunk : Chunk} {v w : World}

theorem withFiles_eq_ok_iff {α : Type} {action : FileAction α} {a : α} :
    withFiles action w = (.ok a, v) ↔
      ∃ files, action w.files = (.ok a, files) ∧ v = { w with files } := by
  rw [run_withFiles]
  constructor
  · intro h
    obtain ⟨hresult, rfl⟩ := Prod.mk.inj h
    cases hrun : action w.files with
    | mk result files =>
      rw [hrun] at hresult
      cases result with
      | ok b =>
        cases hresult
        exact ⟨files, rfl, rfl⟩
      | error fault => cases hresult
  · rintro ⟨files, hrun, rfl⟩
    rw [hrun]
    rfl

theorem isPlain_parameterName (n : Nat) :
    Path.IsPlain (parameterFront ++ FileAction.serial n ++ ".txt") := by
  refine Path.isPlain_of_length ?_ ?_
  · have hfront : 2 < parameterFront.length := by decide
    rw [String.length_append, String.length_append]
    omega
  · intro hm
    simp only [String.toList_append, List.mem_append] at hm
    rcases hm with (hm | hm) | hm
    · exact absurd hm (by decide)
    · exact FileAction.no_slash_serial n hm
    · exact absurd hm (by decide)

/-- An argument file that was written is what a compiler finds that gets its path. -/
theorem writeArgumentFile_cases {directory p : Path} {file : ArgumentFile} {encoding : Json}
    (hdirectory : directory.Valid)
    (h : writeArgumentFile directory file encoding w = (.ok p, v)) :
    ∃ encoding, ∀ parameters : List String, parameters[2]? = some p.toString →
      Invocation.parameterContent v.files parameters = some { file with encoding }.bytes := by
  unfold writeArgumentFile at h
  cases hfailure : encodingFailure? file encoding with
  | some failure =>
    simp only [hfailure] at h
    obtain ⟨_, _, _, h⟩ := bind_eq_ok_iff.mp h
    cases h
  | none =>
    simp only [hfailure] at h
    obtain ⟨files, hcreate, rfl⟩ := withFiles_eq_ok_iff.mp h
    obtain ⟨hvalid, place, executable, hstat⟩ :=
      FileAction.stat_of_createFresh hdirectory
        (fun n => (isPlain_parameterName n).toIsComponent) hcreate
    refine ⟨if encoding.isVoid then none else encoding.display, fun parameters hparameter => ?_⟩
    simp only [Invocation.parameterContent, hparameter, Option.bind_eq_bind, Option.bind_some,
      Path.ofString_toString hvalid, hstat]

/-- A round that was prepared has decided how classes are loaded, knows its outputs, its classes and
its classpath, and has written them down. -/
theorem prepare_parts {job : Job} {files : List Path} {finals : OrderedMap TargetId String}
    (h : prepare ctx builder chunk files finals w = (.ok job, v)) :
    ∃ classes u,
      shouldOptimize builder.settings chunk (pathsToCompile files).length = .ok job.optimize ∧
      classMap ctx.project w.index chunk (pathsToCompile files) finals = .ok classes ∧
      generationOutputs ctx builder.role chunk finals w = (.ok job.generationOutputs, u) ∧
      job.generationOutputs.find? chunk.representative.toTargetId = some job.compilerOutput ∧
      job.files = files ∧
      job.classpath =
        fullClasspath u.cwd ctx.project builder.settings builder.extensions chunk ∧
      writeArgumentFile ctx.tempDirectory
        { output := job.compilerOutput, sources := pathsToCompile files
          finalOutputs := finals.values, classToSource := classes.entries, encoding := none
          patchers := extensionPatchers builder.extensions
          classpath := if job.optimize then joinClasspath job.classpath else "" }
        ctx.project.encoding u = (.ok job.argumentFile, v) := by
  unfold prepare at h
  obtain ⟨optimize, _, hoptimize, h⟩ := bind_eq_ok_iff.mp h
  rw [run_ofExcept] at hoptimize
  obtain ⟨hdecided, rfl⟩ := Prod.mk.inj hoptimize
  obtain ⟨_, _, hget, h⟩ := bind_eq_ok_iff.mp h
  cases hget
  obtain ⟨classes, _, hclasses, h⟩ := bind_eq_ok_iff.mp h
  rw [run_ofExcept] at hclasses
  obtain ⟨hmap, rfl⟩ := Prod.mk.inj hclasses
  obtain ⟨outputs, u, houtputs, h⟩ := bind_eq_ok_iff.mp h
  obtain ⟨output, u', houtput, hrest⟩ := bind_eq_ok_iff.mp h
  have hfound : outputs.find? chunk.representative.toTargetId = some output ∧ u' = u := by
    cases hlook : outputs.find? chunk.representative.toTargetId with
    | none =>
      simp only [compilerOutput, hlook] at houtput
      cases houtput
    | some found =>
      simp only [compilerOutput, hlook] at houtput
      cases houtput
      exact ⟨rfl, rfl⟩
  obtain ⟨hfound, rfl⟩ := hfound
  obtain ⟨_, _, hget, hrest⟩ := bind_eq_ok_iff.mp hrest
  cases hget
  obtain ⟨argumentFile, v', hwrite, hjob⟩ := bind_eq_ok_iff.mp hrest
  cases hjob
  exact ⟨classes, u', hdecided, hmap, houtputs, hfound, rfl, rfl, hwrite⟩

/-- A round that was prepared knows its outputs and its classes, and has told the compiler. -/
theorem prepare_cases {job : Job} {files : List Path} {finals : OrderedMap TargetId String}
    (htemp : ctx.tempDirectory.Valid)
    (h : prepare ctx builder chunk files finals w = (.ok job, v)) :
    ∃ classes u, ∃ file : ArgumentFile,
      classMap ctx.project w.index chunk (pathsToCompile files) finals = .ok classes ∧
      generationOutputs ctx builder.role chunk finals w = (.ok job.generationOutputs, u) ∧
      job.generationOutputs.find? chunk.representative.toTargetId = some job.compilerOutput ∧
      job.files = files ∧
      Invocation.parameterContent v.files (programParameters job.optimize builder.role
        job.argumentFile builder.settings.invokeDynamic) = some file.bytes ∧
      file.output = job.compilerOutput ∧ file.sources = pathsToCompile files ∧
      file.classToSource = classes.entries := by
  obtain ⟨classes, u, -, hmap, houtputs, hfound, hfiles, -, hwrite⟩ := prepare_parts h
  obtain ⟨_, hcontent⟩ := writeArgumentFile_cases htemp hwrite
  exact ⟨classes, u, _, hmap, houtputs, hfound, hfiles, hcontent _ rfl, rfl, rfl, rfl⟩

end GroovyRounds.Build
