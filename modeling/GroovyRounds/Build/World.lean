import GroovyRounds.Build.Session
import GroovyRounds.Build.SourceIndex
import GroovyRounds.Build.Tracker
import GroovyRounds.Compiler.Failure
import GroovyRounds.Compiler.Invocation
import GroovyRounds.Compiler.Output
import GroovyRounds.Console
import GroovyRounds.FileSystem.Action
import GroovyRounds.Project.Basic

/-!
# The world of a build

What a build changes (`World`), what it is given (`Context`), and how a
compiler behaves (`CompilerRun`).
-/

namespace GroovyRounds

-- ---------------------------------------------------------------------------
-- Compiler runs
-- ---------------------------------------------------------------------------

/-- One start of the compiler. -/
structure CompilerCall where
  invocation : Invocation
  parameters : List String
  /-- The content of the argument file at the start. -/
  argumentFile : Option (List UInt8)
deriving DecidableEq, Repr

/-- What a compiler program does while it runs, and what others do meanwhile. -/
inductive CompilerAction where
  | emit (stream text : String)
  /-- Writes a file and the directories it needs. -/
  | write (path : Path) (content : List UInt8)
  | remove (path : Path)
  /-- Reports a class that the other compiler made of a source, by its path as that compiler
  spells it. -/
  | postProcess (chunk : Chunk) (source : Option String)
  /-- Schedules a source for the next round and marks the chunk. -/
  | schedule (chunk : Chunk) (source : Path)
deriving Repr

/-- The exit code that the exit value of a compiler program stands for. -/
def exitCode : Json → Except Failure Int
  | .scalar .null => .ok 0
  | .scalar (.boolean b) => .ok (if b then 1 else 0)
  | .scalar (.integer n) => .ok n
  | .scalar (.double x) => (x.truncate?.map Except.ok).getD (.error (.unbounded x))
  | .scalar (.text s) =>
    match Text.readInteger s.display with
    | .ok n => .ok n
    | .error fault => .error (.numeral fault)
  | value => .error (.exitSort value.sort)

inductive CompilerEnding where
  | returned (value : Json)
  | failed (failure : Failure)
deriving Repr

structure CompilerRun where
  actions : List CompilerAction
  ending : CompilerEnding
deriving Repr

-- ---------------------------------------------------------------------------
-- What the rounds record
-- ---------------------------------------------------------------------------

/-- The disposition of a round. -/
inductive Verdict where
  | ok
  | nothingDone
  | additionalPassRequired
  | chunkRebuildRequired
  | abort
deriving DecidableEq, Repr

def Verdict.word : Verdict → String
  | .ok => "ok"
  | .nothingDone => "nothing_done"
  | .additionalPassRequired => "additional_pass_required"
  | .chunkRebuildRequired => "chunk_rebuild_required"
  | .abort => "abort"

def Verdict.ofWord? (word : String) : Option Verdict :=
  [.ok, .nothingDone, .additionalPassRequired, .chunkRebuildRequired, .abort].find?
    fun verdict => verdict.word = word

/-- Files with the targets they belong to. -/
abbrev DirtyFiles := List (TargetId × Path)

/-- An event in the building of a chunk. -/
inductive JournalEntry where
  | started (role : Role) (dirty : DirtyFiles) (tracker : RoundTracker)
  /-- With what the compiler runs of the round reported. -/
  | ended (role : Role) (verdict : Verdict) (tracker : RoundTracker)
      (outputs : List CompilerOutput)
  /-- The chunk is done with. -/
  | finished
deriving Repr

structure CompiledClass where
  output : Path
  source : Path
  name : String
  content : List UInt8
deriving DecidableEq, Repr

/-- A class file tied to its source. -/
structure Association where
  output : String
  source : String
  content : List UInt8
deriving DecidableEq, Repr

-- ---------------------------------------------------------------------------
-- World and context
-- ---------------------------------------------------------------------------

structure World where
  files : FileSystem
  tempRoots : TempRoots := .empty
  session : Session := {}
  tracker : RoundTracker := {}
  index : SourceIndex := {}
  /-- The dependency graph, as the associations it was given. -/
  graph : List Association := []
  /-- The classes given to the output consumer. -/
  classes : OrderedMap TargetId (List CompiledClass) := .empty
  messages : List Message := []
  /-- All starts of the compiler. -/
  calls : List CompilerCall := []
  /-- What each of these runs reported. -/
  outputs : List CompilerOutput := []
  journal : List JournalEntry := []
  /-- What was printed, piece by piece. -/
  console : List String := []
deriving Repr

/-- The working directory as a path. -/
def World.cwd (world : World) : Path :=
  { anchor := .root, names := world.files.cwd }

/-- What is found under the reference to a runner. -/
inductive RunnerState where
  | callable
  | notCallable
  | missing
deriving DecidableEq, Repr

structure Context where
  project : Project
  tempDirectory : Path
  /-- Where programs are searched, if anywhere. -/
  searchPath : Option String
  /-- Programs that lie outside the file system. -/
  systemPrograms : List Path := []
  /-- What a module holds under a name. -/
  runner : String → String → RunnerState
  /-- How the compiler behaves, given its earlier starts and the files it finds. -/
  compiler : List CompilerCall → CompilerCall → FileSystem → CompilerRun
  /-- The failure of a receiver that does not take a message. -/
  refuses : Message → Option Failure := fun _ => none
  /-- Files that cannot be scheduled. -/
  unmarkable : Path → Bool := fun _ => false
  /-- Messages are printed, with or without details. -/
  echo : Option Bool := none

abbrev Build := ExceptT Failure (StateM World)

namespace Build

-- ---------------------------------------------------------------------------
-- Running
-- ---------------------------------------------------------------------------

/-- Runs an action and hands over how it ended. What it changed stays changed. -/
def attempt (action : Build α) : Build (Except Failure α) :=
  fun world => match action world with
    | (result, world) => (.ok result, world)

def ofExcept : Except Failure α → Build α
  | .ok a => pure a
  | .error failure => throw failure

/-- Runs an action on the files. -/
def onFiles (action : FileAction α) : Build (Except FileFault α) := do
  let world ← get
  let (result, files) := action world.files
  set { world with files }
  return result

/-- Runs an action on the files and fails with it. -/
def withFiles (action : FileAction α) : Build α := do
  match ← onFiles action with
  | .ok a => return a
  | .error fault => throw (.files fault)

-- ---------------------------------------------------------------------------
-- Telling the user
-- ---------------------------------------------------------------------------

def print (text : String) : Build Unit :=
  modify fun world => { world with console := world.console ++ [text] }

/-- Hands a message to its receiver. -/
def tell (ctx : Context) (message : Message) : Build Unit :=
  match ctx.refuses message with
  | some failure => throw failure
  | none => do
    modify fun world => { world with messages := world.messages ++ [message] }
    match ctx.echo with
    | some verbose => print (Console.message verbose message)
    | none => pure ()

-- ---------------------------------------------------------------------------
-- The state of a chunk
-- ---------------------------------------------------------------------------

/-- The state of a chunk, which comes into being when it is first asked for. -/
def chunkState (chunk : Chunk) : Build ChunkState := do
  let world ← get
  let state := world.session.state chunk
  set { world with session := world.session.setState chunk state }
  return state

def setChunkState (chunk : Chunk) (state : ChunkState) : Build Unit :=
  modify fun world => { world with session := world.session.setState chunk state }

/-- The name of a chunk, which logs and failures spell out. -/
def chunkName (chunk : Chunk) : Build String :=
  match chunk.name with
  | .ok name => return name
  | .error fault => throw (.notText fault)

def modifyTracker (change : RoundTracker → RoundTracker) : Build Unit :=
  modify fun world => { world with tracker := change world.tracker }

end Build

end GroovyRounds
