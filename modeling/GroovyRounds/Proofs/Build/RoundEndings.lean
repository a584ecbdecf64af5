import GroovyRounds.Proofs.Build.Preparation
import GroovyRounds.Proofs.Build.Scheduling
import GroovyRounds.Proofs.FileSystem.Fresh

/-!
# How a round ends

Whatever a round fails at, it ends with a verdict, with a failure of the round
or with the interrupt it met, and it has tidied up (`round_ends`): what it has
to remove and whose marker it clears is known from how far it came
(`startRound_cases`). The argument file is removed only if it could be written.
One that was created and then not written stays.
-/

namespace GroovyRounds

open Program

-- ---------------------------------------------------------------------------
-- Markers
-- ---------------------------------------------------------------------------

/-- The chunk is marked as it was before. -/
def SameMarker (chunk : Chunk) (before after : World) : Prop :=
  (after.session.state chunk).marked = (before.session.state chunk).marked

instance (chunk : Chunk) : Std.Refl (SameMarker chunk) := ⟨fun _ => rfl⟩

instance (chunk : Chunk) : IsTrans World (SameMarker chunk) := ⟨fun _ _ _ h h' => h'.trans h⟩

theorem Steady.sameMarker {v w : World} (h : Steady v w) (chunk : Chunk) :
    SameMarker chunk v w := by
  rw [SameMarker, h.session]

-- ---------------------------------------------------------------------------
-- Lone halves
-- ---------------------------------------------------------------------------

/-- Nothing is found in a text of characters only. -/
theorem LoneHalves.find?_eq_none_iff {before : Nat} {points : List CodePoint} :
    find? before points = none ↔ ∀ point ∈ points, point.char? ≠ none := by
  induction points generalizing before with
  | nil => simp [find?]
  | cons point points ih => cases point <;> simp [find?, ih, CodePoint.char?]

namespace Build

variable {ctx : Context} {builder : Builder} {chunk : Chunk} {dirty : DirtyFiles} {v w : World}

-- ---------------------------------------------------------------------------
-- After the run
-- ---------------------------------------------------------------------------

/-- After its run, a round of stubs leaves the marker alone. -/
theorem sameMarker_settleJob (hrole : builder.role = .stubs) (job : Job)
    (reported : CompilerOutput) :
    Keeps (SameMarker chunk) (settleJob ctx builder chunk job reported) := by
  have hquiet {α : Type} {action : Build α} (h : Keeps Quiet action) :
      Keeps (SameMarker chunk) action :=
    h.mono fun _ _ hstep => hstep.sameMarker chunk
  have horder : Keeps (SameMarker chunk) (orderRebuild chunk reported.shouldRetry) := by
    intro w
    rw [run_orderRebuild, SameMarker, escalated, Session.state_setState]
    exact marked_escalate _ _ _
  have hannounce (compiled : CompiledItems) : Keeps (SameMarker chunk) (announce ctx builder chunk
      job (reported.messages chunk.representative.name.display) compiled) := by
    unfold announce
    rw [hrole]
    refine Keeps.bind (fun w => ?_) fun _ => hquiet (quiet_tellAll ctx _)
    rw [run_registerStubs, SameMarker, withStubs, Session.state_setState]
    exact marked_rememberStubs _ _
  unfold settleJob
  refine Keeps.bind (hquiet (quiet_reconcileRun _ _ _ _ _ _)) fun compiled => ?_
  refine Keeps.bind horder fun ordered => ?_
  split
  · exact Keeps.pure _
  · exact Keeps.bind (hannounce compiled) fun _ => keeps_verdictOr _ _ _

-- ---------------------------------------------------------------------------
-- The stages of a round
-- ---------------------------------------------------------------------------

/-- What a round does before its run: it is decided, or it has a job. -/
def startRound (ctx : Context) (builder : Builder) (chunk : Chunk) (dirty : DirtyFiles) :
    Build (Verdict ⊕ Job) := do
  match ← openRound ctx builder chunk dirty with
  | .decided verdict => return .inl verdict
  | .due files finals => return .inr (← prepare ctx builder chunk files finals)

/-- All that a round does but to tidy up after itself. -/
def attemptRound (ctx : Context) (builder : Builder) (chunk : Chunk) (dirty : DirtyFiles) :
    Build Verdict := do
  match ← startRound ctx builder chunk dirty with
  | .inl verdict => return verdict
  | .inr job => runJob ctx builder chunk job

/-- The world as the compiler run of a round left it, or the one before a round that came to
no run. -/
def leftByCompiler (ctx : Context) (builder : Builder) (chunk : Chunk) (dirty : DirtyFiles)
    (w : World) : World :=
  match startRound ctx builder chunk dirty (stated chunk w) with
  | (.ok (.inr job), s) => (compileJob ctx builder chunk job s).2
  | _ => w

/-- An argument file to be written, and the job once it is known where the file lies. -/
structure Draft where
  file : ArgumentFile
  job : Path → Job
  argumentFile_job : ∀ p, (job p).argumentFile = p

/-- What a round does before it creates its argument file. -/
def draft (ctx : Context) (builder : Builder) (chunk : Chunk) (files : List Path)
    (finals : OrderedMap TargetId String) : Build Draft := do
  let paths := pathsToCompile files
  let optimize ← ofExcept (shouldOptimize builder.settings chunk paths.length)
  let classes ← ofExcept (classMap ctx.project (← get).index chunk paths finals)
  let outputs ← generationOutputs ctx builder.role chunk finals
  let output ← compilerOutput chunk outputs
  let classpath :=
    fullClasspath (← get).cwd ctx.project builder.settings builder.extensions chunk
  return {
    file := {
      output, sources := paths, finalOutputs := finals.values
      classToSource := classes.entries, encoding := none
      patchers := extensionPatchers builder.extensions
      classpath := if optimize then joinClasspath classpath else "" }
    job argumentFile := {
      files, finalOutputs := finals, generationOutputs := outputs, compilerOutput := output
      optimize, classpath, argumentFile }
    argumentFile_job _ := rfl }

theorem prepare_eq (ctx : Context) (builder : Builder) (chunk : Chunk) (files : List Path)
    (finals : OrderedMap TargetId String) :
    prepare ctx builder chunk files finals = (do
      let draft ← draft ctx builder chunk files finals
      return draft.job
        (← writeArgumentFile ctx.tempDirectory draft.file ctx.project.encoding)) := by
  simp only [prepare, draft, bind_assoc, pure_bind]

/-- Creates an argument file with this content. -/
def createArgumentFile (directory : Path) (content : List UInt8) : FileAction Path :=
  FileAction.createFresh directory parameterFront ".txt" content

theorem writeArgumentFile_eq (directory : Path) (file : ArgumentFile) (encoding : Json) :
    writeArgumentFile directory file encoding =
      match encodingFailure? file encoding with
      | some failure => do
        let _ ← withFiles (createArgumentFile directory [])
        throw failure
      | none => withFiles (createArgumentFile directory { file with
          encoding := if encoding.isVoid then none else encoding.display }.bytes) := by
  unfold writeArgumentFile
  cases encodingFailure? file encoding <;> rfl

/-- The argument file that is created in a directory, if one can be. -/
def createdIn? (directory : Path) (fs : FileSystem) : Option Path :=
  (createArgumentFile directory [] fs).1.toOption

/-- The argument file that a round creates, whether it gets to write it or not. -/
def createdFile? (ctx : Context) (builder : Builder) (chunk : Chunk) (dirty : DirtyFiles)
    (w : World) : Option Path :=
  match openRound ctx builder chunk dirty (stated chunk w) with
  | (.ok (.due files finals), u) =>
    match draft ctx builder chunk files finals u with
    | (.ok _, s) => createdIn? ctx.tempDirectory s.files
    | _ => none
  | _ => none

-- ---------------------------------------------------------------------------
-- How far a round comes
-- ---------------------------------------------------------------------------

/-- Whether an encoding can be written does not depend on the rest of the file. -/
theorem encodingFailure?_eq_none_iff {file other : ArgumentFile} {encoding : Json} :
    encodingFailure? file encoding = none ↔ encodingFailure? other encoding = none := by
  unfold encodingFailure?
  split
  · rw [Option.map_eq_none_iff, Option.map_eq_none_iff, LoneHalves.find?_eq_none_iff,
      LoneHalves.find?_eq_none_iff]
  · split <;> simp

/-- An argument file is not created, or it is created and written, or it is created and stays as
its encoding cannot be written. -/
theorem writeArgumentFile_endings (directory : Path) (file : ArgumentFile) (encoding : Json)
    (w : World) :
    (∃ failure v, writeArgumentFile directory file encoding w = (.error failure, v) ∧
        createdIn? directory w.files = none) ∨
      (∃ failure v p, writeArgumentFile directory file encoding w = (.error failure, v) ∧
        createdIn? directory w.files = some p ∧ v.files.holdsSomething p = true ∧
        encodingFailure? file encoding ≠ none) ∨
      ∃ p v, writeArgumentFile directory file encoding w = (.ok p, v) ∧
        createdIn? directory w.files = some p ∧ encodingFailure? file encoding = none := by
  have hrun (content : List UInt8) : withFiles (createArgumentFile directory content) w =
      ((createArgumentFile directory [] w.files).1.mapError .files,
        { w with files := (createArgumentFile directory content w.files).2 }) := by
    have hsame : (createArgumentFile directory content w.files).1 =
        (createArgumentFile directory [] w.files).1 := FileAction.result_createFresh _ _ _ _ _ _
    rw [run_withFiles, hsame]
  have hempty := hrun []
  have hfull := hrun { file with
    encoding := if encoding.isVoid then none else encoding.display }.bytes
  rw [writeArgumentFile_eq, createdIn?]
  cases hcreate : createArgumentFile directory [] w.files with
  | mk result files =>
    rw [hcreate] at hempty hfull
    cases result with
    | error fault =>
      left
      cases encodingFailure? file encoding with
      | some failure => exact ⟨_, _, run_bind_of_error hempty, rfl⟩
      | none => exact ⟨_, _, hfull, rfl⟩
    | ok p =>
      right
      cases encodingFailure? file encoding with
      | some failure =>
        refine .inl ⟨failure, _, p, run_bind_of_ok hempty, rfl, ?_, nofun⟩
        exact FileAction.holdsSomething_of_createFresh hcreate
      | none => exact .inr ⟨p, _, hfull, rfl, rfl⟩

/-- A round is decided or fails before it creates an argument file, or it fails to write the one
it has created, or it comes to a job. -/
theorem startRound_cases (ctx : Context) (builder : Builder) (chunk : Chunk) (dirty : DirtyFiles)
    (w : World) :
    (∃ started u, startRound ctx builder chunk dirty (stated chunk w) = (started, u) ∧
        (∀ job, started ≠ .ok (.inr job)) ∧ createdFile? ctx builder chunk dirty w = none) ∨
      (∃ failure u p, startRound ctx builder chunk dirty (stated chunk w) = (.error failure, u) ∧
        createdFile? ctx builder chunk dirty w = some p ∧ u.files.holdsSomething p = true ∧
        ∃ file, encodingFailure? file ctx.project.encoding ≠ none) ∨
      ∃ job s, startRound ctx builder chunk dirty (stated chunk w) = (.ok (.inr job), s) ∧
        createdFile? ctx builder chunk dirty w = some job.argumentFile ∧
        ∀ file, encodingFailure? file ctx.project.encoding = none := by
  unfold startRound createdFile?
  rw [run_bind]
  cases openRound ctx builder chunk dirty (stated chunk w) with
  | mk opened u =>
    rcases opened with failure | ⟨verdict⟩ | ⟨files, finals⟩
    · exact .inl ⟨.error failure, u, rfl, nofun, rfl⟩
    · exact .inl ⟨.ok (.inl verdict), u, rfl, nofun, rfl⟩
    · simp only [prepare_eq, run_bind]
      cases draft ctx builder chunk files finals u with
      | mk drafted s =>
        rcases drafted with failure | draft
        · exact .inl ⟨.error failure, s, rfl, nofun, rfl⟩
        · rcases writeArgumentFile_endings ctx.tempDirectory draft.file ctx.project.encoding s with
            ⟨failure, v, hwrite, hcreated⟩ | ⟨failure, v, p, hwrite, hcreated, hthere, hencoding⟩ |
            ⟨p, v, hwrite, hcreated, hencoding⟩
          · exact .inl ⟨.error failure, v, by simp only [hwrite], nofun, hcreated⟩
          · exact .inr (.inl ⟨failure, v, p, by simp only [hwrite], hcreated, hthere, _, hencoding⟩)
          · refine .inr (.inr ⟨draft.job p, v, by simp only [hwrite, run_pure], ?_, fun file => ?_⟩)
            · rw [draft.argumentFile_job p]
              exact hcreated
            · exact encodingFailure?_eq_none_iff.mp hencoding

-- ---------------------------------------------------------------------------
-- Whole rounds
-- ---------------------------------------------------------------------------

/-- What a round has attempted is what it ends with, once it has tidied up. -/
theorem run_round_of_name {name : String} (hname : chunk.name = .ok name) (w : World) :
    round ctx builder chunk dirty w =
      match startRound ctx builder chunk dirty (stated chunk w) with
      | (.ok (.inl verdict), u) => (.ok verdict, cleared builder.role chunk u)
      | (.ok (.inr job), u) =>
        (do
          tidyUp builder chunk (some job.argumentFile)
          ofExcept ((runJob ctx builder chunk job u).1.mapError (roundFailure builder chunk)) :
            Build Verdict) (runJob ctx builder chunk job u).2
      | (.error failure, u) =>
        (.error (roundFailure builder chunk failure), cleared builder.role chunk u) := by
  unfold round startRound
  rw [run_bind_of_ok (run_chunkState w), run_bind, run_bind, run_attempt]
  cases openRound ctx builder chunk dirty (stated chunk w) with
  | mk opened u =>
    rcases opened with failure | ⟨verdict⟩ | ⟨files, finals⟩
    · simp only [run_bind, run_tidyUp_none, run_throw]
    · simp only [run_bind, run_tidyUp_none, run_pure]
    · simp only [runRound, run_bind, run_attempt]
      cases prepare ctx builder chunk files finals u with
      | mk prepared s =>
        cases prepared with
        | error failure =>
          have hfailed := run_closeRound hname builder none
            (.error (roundFailure builder chunk failure)) s
          rw [run_bind_of_ok (run_tidyUp_none builder chunk s), run_ofExcept] at hfailed
          exact hfailed
        | ok job =>
          dsimp only
          simp only [run_bind, run_attempt, run_closeRound hname]
          rfl

/-- Tidying up leaves no argument file, or it fails at the removal, which fails again then. -/
theorem tidyUp_endings {p : Path} {result : Except Failure Unit}
    (h : tidyUp builder chunk (some p) w = (result, v)) :
    result = .ok () ∧ v = cleared builder.role chunk { w with files := v.files } ∧
        v.files.holdsSomething p = false ∨
      ∃ fault, (FileAction.removeFileIfPresent p v.files).1 = .error fault ∧
        result = .error (.files fault) := by
  rw [tidyUp, removeArgumentFile, run_bind, run_withFiles] at h
  cases hremove : FileAction.removeFileIfPresent p w.files with
  | mk removed files =>
    rw [hremove] at h
    rcases FileAction.removeFileIfPresent_cases hremove with
      ⟨rfl, hgone⟩ | ⟨⟨fault, rfl⟩, rfl⟩
    · simp only [Except.mapError, run_clearMarker] at h
      cases h
      rw [files_cleared]
      exact .inl ⟨rfl, rfl, hgone⟩
    · cases h
      exact .inr ⟨fault, congrArg Prod.fst hremove, rfl⟩

/-- Failures become failures of the round, but for interrupts. -/
theorem roundFailure_cases {name : String} (hname : chunk.name = .ok name) (builder : Builder)
    (failure : Failure) :
    failure = .interrupted ∧ roundFailure builder chunk failure = .interrupted ∨
      failure ≠ .interrupted ∧ ∃ text, roundFailure builder chunk failure = .round text := by
  cases failure <;> simp [roundFailure, hname]

theorem quiet_startRound (ctx : Context) (builder : Builder) (chunk : Chunk) (dirty : DirtyFiles) :
    Keeps Quiet (startRound ctx builder chunk dirty) := by
  unfold startRound
  refine Keeps.bind (quiet_openRound ctx builder chunk dirty) fun opening => ?_
  split
  · exact Keeps.pure _
  · exact Keeps.bind (quiet_prepare ctx builder chunk _ _) fun _ => Keeps.pure _

/-- However a round of stubs ends, the chunk is marked as its compiler run left it. -/
theorem sameMarker_attemptRound (ctx : Context) (hrole : builder.role = .stubs) (chunk : Chunk)
    (dirty : DirtyFiles) (w : World) :
    SameMarker chunk (leftByCompiler ctx builder chunk dirty w)
      (attemptRound ctx builder chunk dirty (stated chunk w)).2 := by
  have hstarted : SameMarker chunk w (startRound ctx builder chunk dirty (stated chunk w)).2 := by
    have hstated : SameMarker chunk w (stated chunk w) := by
      rw [SameMarker, stated, Session.state_setState]
    have hquiet := quiet_startRound ctx builder chunk dirty (stated chunk w)
    exact IsTrans.trans _ _ _ hstated (hquiet.sameMarker chunk)
  unfold attemptRound leftByCompiler
  rw [run_bind]
  cases hstart : startRound ctx builder chunk dirty (stated chunk w) with
  | mk started u =>
    rw [hstart] at hstarted
    rcases started with failure | verdict | job
    · exact hstarted
    · exact hstarted
    · simp only [runJob, run_bind]
      cases compileJob ctx builder chunk job u with
      | mk compiled t =>
        cases compiled with
        | error failure => rfl
        | ok reported => exact sameMarker_settleJob hrole job reported t

/-- A round whose argument file can be removed ends with what it has attempted. The file it has
created is gone exactly if it could be written. -/
theorem round_endings {name : String} {result : Except Failure Verdict}
    (hname : chunk.name = .ok name)
    (hremoved : ∀ p ∈ createdFile? ctx builder chunk dirty w,
      (FileAction.removeFileIfPresent p v.files).1 = .ok ())
    (h : round ctx builder chunk dirty w = (result, v)) :
    ∃ ended t, attemptRound ctx builder chunk dirty (stated chunk w) = (ended, t) ∧
      result = ended.mapError (roundFailure builder chunk) ∧
      v = cleared builder.role chunk { t with files := v.files } ∧
      ∀ p ∈ createdFile? ctx builder chunk dirty w, v.files.holdsSomething p = false ↔
        ∀ file, encodingFailure? file ctx.project.encoding = none := by
  rw [run_round_of_name hname] at h
  unfold attemptRound
  rw [run_bind]
  rcases startRound_cases ctx builder chunk dirty w with ⟨started, u, hstart, hjob, hcreated⟩ |
    ⟨failure, u, p, hstart, hcreated, hthere, file, hencoding⟩ |
    ⟨job, s, hstart, hcreated, hencoding⟩
  · rw [hstart] at h ⊢
    rw [hcreated]
    rcases started with failure | verdict | job
    · cases h
      exact ⟨.error failure, u, rfl, rfl, by rw [files_cleared], nofun⟩
    · cases h
      exact ⟨.ok verdict, u, rfl, rfl, by rw [files_cleared], nofun⟩
    · exact absurd rfl (hjob job)
  · rw [hstart] at h ⊢
    cases h
    refine ⟨.error failure, u, rfl, rfl, by rw [files_cleared], fun q hq => ?_⟩
    rw [hcreated] at hq
    cases hq
    rw [files_cleared, hthere]
    exact ⟨nofun, fun hall => absurd (hall file) hencoding⟩
  · -- Only here is there a file to remove.
    rw [hstart] at h ⊢
    simp only [run_bind] at h
    rw [hcreated] at hremoved ⊢
    refine ⟨(runJob ctx builder chunk job s).1, (runJob ctx builder chunk job s).2, rfl, ?_⟩
    cases htidy : tidyUp builder chunk (some job.argumentFile)
        (runJob ctx builder chunk job s).2 with
    | mk tidied t =>
      rw [htidy] at h
      rcases tidyUp_endings htidy with ⟨rfl, ht, hgone⟩ | ⟨fault, hfault, -⟩
      · simp only [run_ofExcept] at h
        cases h
        refine ⟨rfl, ht, fun q hq => ?_⟩
        cases hq
        exact ⟨fun _ => hencoding, fun _ => hgone⟩
      · have hv : v = t := by
          cases tidied with
          | ok _ =>
            simp only [run_ofExcept] at h
            cases h
            rfl
          | error failure =>
            cases h
            rfl
        have hagain := hremoved _ rfl
        rw [hv, hfault] at hagain
        cases hagain

/-- A compiler that marks its chunk and is interrupted. -/
def interruptedContext : Context :=
  { schedulingContext with
    compiler _ _ _ := {
      actions := [.schedule soleChunk soleSource]
      ending := .failed .interrupted } }

def soleArgumentFile : Path where
  anchor := .root
  names := ["tmp", "gbuildToCompile00000000.txt"]

/-- The round leaves the argument file it has created, although it can be removed. -/
def LeavesArgumentFile (ctx : Context) (builder : Builder) (chunk : Chunk) (dirty : DirtyFiles)
    (w : World) : Prop :=
  ∃ result v p, round ctx builder chunk dirty w = (result, v) ∧
    createdFile? ctx builder chunk dirty w = some p ∧
    (FileAction.removeFileIfPresent p v.files).1 = .ok () ∧ v.files.holdsSomething p = true

/-- A project whose source encoding is this value. -/
def encodedContext (encoding : Json) : Context :=
  { schedulingContext with project := { schedulingContext.project with encoding } }

end Build

end GroovyRounds
