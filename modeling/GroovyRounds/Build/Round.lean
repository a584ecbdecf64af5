import GroovyRounds.Build.Classpath
import GroovyRounds.Build.CompilerRun
import GroovyRounds.Build.Registration
import GroovyRounds.Build.Sources
import GroovyRounds.Compiler.ArgumentFile

/-!
# Build rounds

One round of a chunk in one role: find the changed sources, prepare outputs and
the argument file, run the compiler, move its classes where they belong, order
a rebuild if the compiler asks for one, and register what was made. Whatever
fails, the argument file is removed.
-/

namespace GroovyRounds

/-- A builder of rounds. -/
structure Builder where
  role : Role
  settings : Settings
  extensions : List Extension := []
  /-- The invocation for a run. -/
  launch : InvocationPlan → FileSystem → Context → Except Failure Invocation :=
    InvocationPlan.choose

def Builder.name (builder : Builder) : String :=
  builder.role.name

namespace Build

-- ---------------------------------------------------------------------------
-- Before the run
-- ---------------------------------------------------------------------------

/-- A round that is ready to run the compiler. -/
structure Job where
  files : List Path
  finalOutputs : OrderedMap TargetId String
  generationOutputs : OrderedMap TargetId String
  compilerOutput : String
  optimize : Bool
  classpath : List String
  argumentFile : Path
deriving Repr

/-- A round that is decided at once, or one with files to compile and a place for each class. -/
inductive Opening where
  | decided (verdict : Verdict)
  | due (files : List Path) (finals : OrderedMap TargetId String)
deriving Repr

/-- The verdict, unless sources wait for the next round. -/
def verdictOr (role : Role) (chunk : Chunk) (verdict : Verdict) : Build Verdict := do
  if ((← get).session.state chunk).needsRound role then return .additionalPassRequired
  return verdict

def parameterFront : String := "gbuildToCompile"

/-- The failure of an encoding that cannot be written to an argument file. -/
def encodingFailure? (file : ArgumentFile) : Json → Option Failure
  | .scalar (.text encoding) =>
    (LoneHalves.find? file.lengthBeforeEncoding encoding.points).map .loneHalves
  | encoding =>
    if encoding.isVoid then none
    else some (.notText { position := file.linesBeforeEncoding, sort := encoding.sort })

/-- Writes the argument file into the directory for temporary files. The encoding has to be
a text; only then is anything written to the new file. -/
def writeArgumentFile (directory : Path) (file : ArgumentFile) (encoding : Json) :
    Build Path := do
  let create (content : List UInt8) : Build Path :=
    withFiles (FileAction.createFresh directory parameterFront ".txt" content)
  match encodingFailure? file encoding with
  | some failure =>
    let _ ← create []
    throw failure
  | none =>
    create { file with encoding := if encoding.isVoid then none else encoding.display }.bytes

/-- The output directories of a role: stub directories made anew, or the final ones. -/
def generationOutputs (ctx : Context) (role : Role) (chunk : Chunk)
    (finals : OrderedMap TargetId String) : Build (OrderedMap TargetId String) :=
  match role with
  | .stubs => stubOutputs ctx chunk
  | .classes => return finals

/-- Where the compiler writes: the output of the representative. -/
def compilerOutput (chunk : Chunk) (outputs : OrderedMap TargetId String) : Build String :=
  match outputs.find? chunk.representative.toTargetId with
  | some output => return output
  | none => throw (.noOutput chunk.representative.toTargetId)

/-- Prepares a run over files whose final outputs are known. -/
def prepare (ctx : Context) (builder : Builder) (chunk : Chunk) (files : List Path)
    (finals : OrderedMap TargetId String) : Build Job := do
  let paths := pathsToCompile files
  let optimize ← ofExcept (shouldOptimize builder.settings chunk paths.length)
  let classes ← ofExcept (classMap ctx.project (← get).index chunk paths finals)
  let outputs ← generationOutputs ctx builder.role chunk finals
  let output ← compilerOutput chunk outputs
  let classpath :=
    fullClasspath (← get).cwd ctx.project builder.settings builder.extensions chunk
  let argumentFile ← writeArgumentFile ctx.tempDirectory
    { output, sources := paths, finalOutputs := finals.values
      classToSource := classes.entries, encoding := none
      patchers := extensionPatchers builder.extensions
      classpath := if optimize then joinClasspath classpath else "" }
    ctx.project.encoding
  return {
    files, finalOutputs := finals, generationOutputs := outputs, compilerOutput := output
    optimize, classpath, argumentFile }

/-- Opens a round: finds what it has to compile, and where the classes go. -/
def openRound (ctx : Context) (builder : Builder) (chunk : Chunk) (dirty : DirtyFiles) :
    Build Opening := do
  let files := changedFiles ctx.project builder.settings builder.role dirty
  if files.isEmpty then
    return .decided (← verdictOr builder.role chunk .nothingDone)
  match ← finalOutputs ctx builder.name chunk with
  | none => return .decided .abort
  | some finals => return .due files finals

-- ---------------------------------------------------------------------------
-- The run
-- ---------------------------------------------------------------------------

/-- A status of the compiler as progress of a chunk. -/
def statusMessage (chunk : Chunk) (status : String) : Message :=
  Message.ofProgress (status ++ " [" ++ chunk.shortName ++ "]")

/-- The invocation of a job. -/
def launch (ctx : Context) (builder : Builder) (chunk : Chunk) (job : Job) : Build Invocation := do
  let world ← get
  let reduced := processClasspath world.cwd ctx.project builder.settings builder.extensions chunk
    job.optimize
  ofExcept (builder.launch
    { settings := builder.settings
      chunk
      fullClasspath := job.classpath
      processClasspath := reduced
      outputs := job.finalOutputs.values }
    world.files ctx)

/-- Runs the compiler; every status it reports is told. -/
def runCompiler (ctx : Context) (chunk : Chunk) (invocation : Invocation)
    (parameters : List String) : Build CompilerOutput := do
  let refuses (status : String) : Option Failure := ctx.refuses (statusMessage chunk status)
  let (running, failure?) := invocation.run ctx refuses parameters (← get)
  set running.world
  running.reported.statuses.forM fun status => tell ctx (statusMessage chunk status)
  match failure? with
  | some failure => throw failure
  | none => return running.reported

/-- Starts the compiler on a job and takes what it reports. -/
def compileJob (ctx : Context) (builder : Builder) (chunk : Chunk) (job : Job) :
    Build CompilerOutput := do
  let invocation ← launch ctx builder chunk job
  runCompiler ctx chunk invocation
    (programParameters job.optimize builder.role job.argumentFile builder.settings.invokeDynamic)

-- ---------------------------------------------------------------------------
-- After the run
-- ---------------------------------------------------------------------------

/-- Whether the round ends with an order to rebuild the chunk. -/
def orderRebuild (chunk : Chunk) (shouldRetry : Bool) : Build Bool := do
  let world ← get
  let (ordered, state) := (world.session.state chunk).escalate shouldRetry world.tracker.forced
  setChunkState chunk state
  return ordered

/-- Makes the stubs of a round known. -/
def registerStubs (chunk : Chunk) (job : Job) (compiled : CompiledItems) : Build Unit := do
  addStubRoots job.generationOutputs
  let state := (← get).session.state chunk
  setChunkState chunk (state.rememberStubs compiled.values.flatten)

/-- Makes known what a run made: stubs before its messages are told, classes after that. -/
def announce (ctx : Context) (builder : Builder) (chunk : Chunk) (job : Job)
    (messages : List Message) (compiled : CompiledItems) : Build Unit :=
  match builder.role with
  | .stubs => do
    registerStubs chunk job compiled
    messages.forM (tell ctx)
  | .classes => do
    messages.forM (tell ctx)
    registerRound ctx builder.name job.files compiled

/-- Moves what the compiler made of a job where it belongs, and registers it. -/
def settleJob (ctx : Context) (builder : Builder) (chunk : Chunk) (job : Job)
    (reported : CompilerOutput) : Build Verdict := do
  let compiled ← reconcileRun ctx builder.name chunk job.generationOutputs job.compilerOutput
    reported.compiled
  if ← orderRebuild chunk reported.shouldRetry then return .chunkRebuildRequired
  else
    announce ctx builder chunk job (reported.messages chunk.representative.name.display) compiled
    verdictOr builder.role chunk .ok

/-- Runs the compiler on a job and registers what it made. -/
def runJob (ctx : Context) (builder : Builder) (chunk : Chunk) (job : Job) : Build Verdict := do
  settleJob ctx builder chunk job (← compileJob ctx builder chunk job)

-- ---------------------------------------------------------------------------
-- Whole rounds
-- ---------------------------------------------------------------------------

/-- A failure as the failure of the round. Interrupts and failures of rounds pass as they are. -/
def roundFailure (builder : Builder) (chunk : Chunk) (failure : Failure) : Failure :=
  match failure with
  | .interrupted | .round _ => failure
  | failure =>
    match chunk.name with
    | .ok name => .round (builder.name ++ " failed on " ++ name ++ ": " ++ failure.message)
    | .error fault => .unnamed fault failure

/-- The time of a round with this result is logged under the chunk's name. -/
def timed (chunk : Chunk) (result : Except Failure Verdict) : Build Unit :=
  match chunk.name, result with
  | .ok _, _ => return ()
  | .error fault, .ok _ => throw (.notText fault)
  | .error fault, .error cause => throw (.unnamed fault cause)

/-- Removes the argument file of a round that has come to have one. -/
def removeArgumentFile (argumentFile? : Option Path) : Build Unit :=
  match argumentFile? with
  | some argumentFile => withFiles (FileAction.removeFileIfPresent argumentFile)
  | none => pure ()

/-- Clears the marker of the chunk once its classes were compiled. -/
def clearMarker (role : Role) (chunk : Chunk) : Build Unit :=
  match role with
  | .stubs => pure ()
  | .classes => do setChunkState chunk { (← get).session.state chunk with marked := false }

/-- Tidies up after a round: removes its argument file and clears the marker of the chunk. -/
def tidyUp (builder : Builder) (chunk : Chunk) (argumentFile? : Option Path) : Build Unit := do
  removeArgumentFile argumentFile?
  clearMarker builder.role chunk

/-- Ends a round with its result: times it and tidies up after it. -/
def closeRound (builder : Builder) (chunk : Chunk) (argumentFile? : Option Path)
    (result : Except Failure Verdict) : Build Verdict := do
  timed chunk result
  tidyUp builder chunk argumentFile?
  ofExcept result

/-- Compiles the files of a round. Whatever fails, the round is timed and tidied up after. -/
def runRound (ctx : Context) (builder : Builder) (chunk : Chunk) (files : List Path)
    (finals : OrderedMap TargetId String) : Build Verdict := do
  let job ← attempt (prepare ctx builder chunk files finals)
  let result ← match job with
    | .error failure => pure (.error failure)
    | .ok job => attempt (runJob ctx builder chunk job)
  closeRound builder chunk (job.toOption.map (·.argumentFile))
    (result.mapError (roundFailure builder chunk))

/-- Runs one round of a chunk. -/
def round (ctx : Context) (builder : Builder) (chunk : Chunk) (dirty : DirtyFiles) :
    Build Verdict := do
  let _ ← chunkState chunk
  match ← attempt (openRound ctx builder chunk dirty) with
  | .error failure =>
    tidyUp builder chunk none
    throw (roundFailure builder chunk failure)
  | .ok (.decided verdict) =>
    tidyUp builder chunk none
    return verdict
  | .ok (.due files finals) => runRound ctx builder chunk files finals

/-- Starts a build: the builder of stubs removes those of an earlier build. -/
def startBuild (ctx : Context) (builder : Builder) : Build Unit :=
  match builder.role with
  | .stubs => cleanStubRoot ctx builder.name
  | .classes => pure ()

/-- The chunk is done with: its state is dropped. -/
def finishChunk (chunk : Chunk) : Build Unit :=
  modify fun world => { world with session := world.session.finish chunk }

end Build

end GroovyRounds
