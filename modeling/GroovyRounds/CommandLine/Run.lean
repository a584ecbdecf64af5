import GroovyRounds.Build.ChunkBuild
import GroovyRounds.CommandLine.Request
import GroovyRounds.Project.File
import GroovyRounds.Settings.Layers

/-!
# Running commands

`compile` builds the chunks of a project one after another and stops at the
first that fails; `clean-stubs` removes the stubs of earlier builds.
-/

namespace GroovyRounds.CommandLine

/-- How a command ends. -/
inductive Ending where
  /-- All is said; the process ends with this code. -/
  | exit (code : Nat)
  /-- The build is over, and its time is still to be told. -/
  | built (failed : Bool) (classes : Nat)
  /-- A failure that no command handles. -/
  | escaped (label : String)
deriving DecidableEq, Repr

def version : String := "0.1.0"

def usage : String :=
  "usage: gbuild [-h] [--version] \x7bcompile,clean-stubs\x7d ...\n\n" ++
  "gbuild - incremental Groovy builder\n"

-- ---------------------------------------------------------------------------
-- The end of a build
-- ---------------------------------------------------------------------------

/-- A time given in hundredths of a second. -/
def seconds (hundredths : Nat) : String :=
  let places := Nat.toDigits 10 (hundredths % 100)
  toString (hundredths / 100) ++ "." ++
    String.ofList (List.replicate (2 - places.length) '0' ++ places) ++ "s"

/-- What is printed at the end. -/
def Ending.text (ending : Ending) (time : Nat) : String :=
  match ending with
  | .built true _ => Console.error "Build failed" ("Build time: " ++ seconds time)
  | .built false classes =>
    Console.success ("Compiled " ++ toString classes ++ " classes in " ++ seconds time)
  | _ => ""

/-- The exit code, unless a failure escaped. -/
def Ending.code? : Ending → Option Nat
  | .exit code => some code
  | .built failed _ => some (if failed then 1 else 0)
  | .escaped _ => none

-- ---------------------------------------------------------------------------
-- Compiling
-- ---------------------------------------------------------------------------

/-- Where a command runs. -/
structure Site where
  /-- All that a build is given but its project. -/
  context : Context
  environment : Settings.Environment
  /-- The runtime support library that goes with the program. -/
  runtimeSupport : Path

/-- Ends a command whose configuration is at fault. -/
def refuse (isReported : Bool) (label message : String) : Build Ending :=
  if isReported then do
    Build.print (Console.error "Configuration error" message)
    return .exit 1
  else return .escaped label

/-- Builds chunks until one fails. -/
def buildChunks (ctx : Context) (stubs classes : Builder) : List Chunk → Build Bool
  | [] => return true
  | chunk :: chunks => do
    Build.print (Console.line ("Compiling " ++ chunk.shortName ++ "..."))
    if ← Build.buildChunk ctx (.ofBuilders ctx stubs classes) chunk then
      buildChunks ctx stubs classes chunks
    else return false

/-- Builds all chunks of a project. -/
def buildProject (ctx : Context) (settings : Settings) (chunks : List Chunk) : Build Bool := do
  let stubs : Builder := { role := .stubs, settings }
  let classes : Builder := { role := .classes, settings }
  Build.startBuild ctx stubs
  Build.startBuild ctx classes
  buildChunks ctx stubs classes chunks

/-- Ends a build, which may have failed. -/
def finishBuild (verbose : Bool) (result : Except Failure Bool) : Build Ending := do
  match result with
  | .error .interrupted =>
    Build.print Console.interrupted
    return .exit 130
  | .error (.round text) =>
    Build.print (Console.error "Build failed" text)
    return .exit 1
  | .error failure =>
    Build.print (Console.unexpected verbose failure.label failure.message failure.trace)
    return .exit 1
  | .ok success =>
    let world ← get
    let failed := !success || world.messages.any Message.isError
    return .built failed world.classes.values.flatten.length

def compile (site : Site) (args : CompileArguments) : Build Ending := do
  Build.print (Console.line ("gbuild v" ++ version) ++ Console.line "")
  let world ← get
  match Settings.load world.files site.runtimeSupport args.config site.environment with
  | .error fault => refuse fault.isReported fault.label fault.message
  | .ok settings =>
    match ProjectDescription.load world.files world.cwd args.projectFile with
    | .error fault => refuse fault.isReported fault.label fault.message
    | .ok description =>
      let ctx := { site.context with project := description.project, echo := some args.verbose }
      finishBuild args.verbose (← Build.attempt (buildProject ctx settings description.chunks))

-- ---------------------------------------------------------------------------
-- Cleaning
-- ---------------------------------------------------------------------------

def cleanStubs (site : Site) (projectFile : Path) : Build Ending := do
  let world ← get
  match ProjectDescription.load world.files world.cwd projectFile with
  | .error fault => refuse fault.isReported fault.label fault.message
  | .ok description =>
    let ctx := { site.context with project := description.project }
    match ← Build.attempt (Build.cleanStubRoot ctx "gbuild") with
    | .error failure => return .escaped failure.label
    | .ok () =>
      let messages := (← get).messages
      messages.forM fun message => Build.print (Console.message false message)
      if !messages.isEmpty then return .exit 1
      Build.print (Console.success ("Removed " ++ ctx.project.stubRoot.toString))
      return .exit 0

-- ---------------------------------------------------------------------------
-- The command line
-- ---------------------------------------------------------------------------

def runCommand (site : Site) (command : Command) : Build Ending := do
  let file := command.projectFile
  let reject (text : String) : Build Ending := do
    Build.print (Console.refusal (text ++ ": " ++ file.toString))
    return .exit 2
  match (← get).files.probe file with
  | .error fault => return .escaped fault.label
  | .ok none => reject "Path does not exist"
  | .ok (some .directory) => reject "Path is not a file"
  | .ok (some (.file ..)) =>
    match command with
    | .compile args => compile site args
    | .cleanStubs projectFile => cleanStubs site projectFile

def runRequest (site : Site) : Request → Build Ending
  | .help | .nothing => do
    Build.print usage
    return .exit 0
  | .version => do
    Build.print (Console.line ("gbuild " ++ version))
    return .exit 0
  | .malformed => return .exit 2
  | .run command => runCommand site command

/-- Runs a command line in a world. No failure is left. -/
def run (site : Site) (args : List String) (world : World) : Ending × World :=
  match runRequest site (.ofArguments args) world with
  | (.ok ending, world) => (ending, world)
  | (.error failure, world) => (.escaped failure.label, world)

end GroovyRounds.CommandLine
