import GroovyRounds.Build.World

/-!
# Stubs

Stubs let the other compiler resolve classes that are not compiled yet. Every
target has a stub directory of its own; once a stub has been compiled, its
source is scheduled for the next round.
-/

namespace GroovyRounds

-- ---------------------------------------------------------------------------
-- Directories
-- ---------------------------------------------------------------------------

/-- The directory of all stubs. -/
def Project.stubRoot (project : Project) : Path :=
  project.dataRoot.child "groovyStubs"

/-- The stub directory of a target. -/
def Project.stubDirectory (project : Project) (target : TargetId) : Except Failure Path :=
  match target.name with
  | .text name => .ok ((project.stubRoot.child name.display).child target.kind.directory)
  | name => .error (.directorySort name.sort)

namespace Build

/-- Removes the stubs of an earlier build. A refusal is told, not failed with. -/
def cleanStubRoot (ctx : Context) (builder : String) : Build Unit := do
  let root := ctx.project.stubRoot
  if (← withFiles (FileAction.probe root)).isSome then
    match ← onFiles (FileAction.removeTree root) with
    | .ok () => pure ()
    | .error _ =>
      tell ctx {
        kind := .error
        text := (StubFault.cannotClean root).message
        builder }

/-- Fails with a refusal as a fault of the stub directory. -/
def asStubFault (fault : StubFault) (cause : FileFault) : Failure :=
  if cause.isRefusal then .stubs fault cause else .files cause

/-- Removes a directory if it is there. -/
def clearDirectory (directory : Path) : Build Unit := do
  if (← withFiles (FileAction.probe directory)).isSome then
    match ← onFiles (FileAction.removeTree directory) with
    | .ok () => pure ()
    | .error cause => throw (asStubFault (.cannotClean directory) cause)

/-- Makes a directory that is not there. -/
def makeDirectory (directory : Path) : Build Unit := do
  match ← onFiles (FileAction.makeDirectories false directory) with
  | .ok () => pure ()
  | .error cause => throw (asStubFault (.cannotCreate directory) cause)

/-- Makes a directory anew. -/
def recreateDirectory (directory : Path) : Build Unit := do
  clearDirectory directory
  makeDirectory directory

/-- Output directories by target. -/
abbrev Outputs := OrderedMap TargetId String

/-- Makes an empty stub directory for every target of a chunk. -/
def stubOutputs (ctx : Context) (chunk : Chunk) : Build Outputs :=
  chunk.ids.foldlM (fun outputs target => do
    let directory ← ofExcept (ctx.project.stubDirectory target)
    recreateDirectory directory
    return outputs.insert target (Path.withSlashes directory.toString)) .empty

/-- Makes stub directories temporary source roots of their targets. -/
def addStubRoots (outputs : Outputs) : Build Unit :=
  let add (temp : TempRoots) : TargetId × String → TempRoots
    | (target, root) => temp.add target (Path.ofString root)
  modify fun world => { world with tempRoots := outputs.entries.foldl add world.tempRoots }

end Build

-- ---------------------------------------------------------------------------
-- From stubs to sources
-- ---------------------------------------------------------------------------

namespace ChunkState

/-- Remembers which source each stub came from. -/
def rememberStubs (state : ChunkState) (items : List OutputItem) : ChunkState :=
  let remember (stubs : OrderedMap String String) (item : OutputItem) :=
    stubs.insert (Path.withSlashes item.output) item.source
  { state with stubSources := items.foldl remember state.stubSources }

/-- The source behind a compiled file, if that is a stub. Paths are compared as they are
spelled, up to backslashes. -/
def sourceOf? (state : ChunkState) (compiled : Option String) : Option Path := do
  let source ← state.stubSources.find? (Path.withSlashes (← compiled))
  return Path.ofString source

end ChunkState

/-- The source that a compiled file makes due: the one behind the stub, unless it is dirty
already or cannot be scheduled. -/
def dueSource? (ctx : Context) (tracker : RoundTracker) (state : ChunkState)
    (compiled : Option String) : Option Path :=
  (state.sourceOf? compiled).filter fun source =>
    !tracker.isDirty source && !ctx.unmarkable source

/-- Schedules the source that a compiled file makes due. -/
def scheduleDue (ctx : Context) (compiled : Option String) (tracker : RoundTracker)
    (state : ChunkState) : RoundTracker × ChunkState :=
  match dueSource? ctx tracker state compiled with
  | some source => (tracker.schedule source, { state with marked := true })
  | none => (tracker, state)

/-- Takes note of a class that the other compiler made of a source. -/
def World.postProcess (world : World) (ctx : Context) (chunk : Chunk)
    (compiled : Option String) : World :=
  let process : RoundTracker × ChunkState → Nat → RoundTracker × ChunkState
    | (tracker, state), _ => scheduleDue ctx compiled tracker state
  let (tracker, state) := (List.range world.session.processors).foldl process
    (world.tracker, world.session.state chunk)
  { world with tracker, session := world.session.setState chunk state }

/-- Schedules a source and marks its chunk, unless the source cannot be scheduled. -/
def World.schedule? (world : World) (ctx : Context) (chunk : Chunk) (source : Path) :
    Option World :=
  if ctx.unmarkable source then none
  else
    let state := world.session.state chunk
    some { world with
      tracker := world.tracker.schedule source
      session := world.session.setState chunk { state with marked := true } }

/-- Sources wait for the next round of class compilation. -/
def ChunkState.needsRound (state : ChunkState) (role : Role) : Bool :=
  role = .classes && state.marked

end GroovyRounds
