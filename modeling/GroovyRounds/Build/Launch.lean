import GroovyRounds.Build.World

/-!
# Choosing an invocation

A run is in process when the settings ask for it and name a runner, else it
starts the virtual machine of the chunk's SDK, of the settings, or of the
search path.
-/

namespace GroovyRounds

-- ---------------------------------------------------------------------------
-- Runners
-- ---------------------------------------------------------------------------

/-- Splits a reference at its first colon. -/
def splitReference (reference : String) : String × String :=
  let cs := reference.toList
  let holder := cs.takeWhile (· ≠ ':')
  (String.ofList holder, String.ofList (cs.drop (holder.length + 1)))

/-- Finds the runner behind a reference of the form `module:attribute`. -/
def resolveRunner (ctx : Context) (reference : String) : Except Failure Unit :=
  let (holder, name) := splitReference reference
  if holder.isEmpty || name.isEmpty then .error (.launch (.badReference reference))
  else if holder.toList.head? = some '.' then .error (.relativeRunner holder)
  else match ctx.runner holder name with
    | .callable => .ok ()
    | .notCallable => .error (.launch (.runnerNotCallable reference))
    | .missing => .error (.launch (.runnerMissing reference))

-- ---------------------------------------------------------------------------
-- Programs
-- ---------------------------------------------------------------------------

/-- A file that may be run. -/
def FileSystem.isProgram (files : FileSystem) (p : Path) : Bool :=
  match files.stat p with
  | .ok (_, .file _ executable) => executable
  | _ => false

/-- A name inside a directory of the search path. -/
def inDirectory (directory name : String) : String :=
  if directory.isEmpty then name
  else if directory.toList.getLast? = some '/' then directory ++ name
  else directory ++ "/" ++ name

/-- The first program of this name on the search path. -/
def findProgram? (files : FileSystem) (searchPath : Option String) (name : String) :
    Option String :=
  match searchPath with
  | none | some "" => none
  | some path =>
    let candidates := (Text.splitOn ':' path.toList).map fun directory =>
      inDirectory (String.ofList directory) name
    candidates.find? fun candidate => files.isProgram (Path.ofString candidate)

/-- The launcher of the virtual machine for a chunk. -/
def javaExecutable (files : FileSystem) (ctx : Context) (settings : Settings) (chunk : Chunk) :
    String :=
  match chunk.sdk, settings.javaHome with
  | some sdk, _ => sdk.java.toString
  | none, some home => (home.child "bin/java").toString
  | none, none => (findProgram? files ctx.searchPath "java").getD "java"

-- ---------------------------------------------------------------------------
-- Invocations
-- ---------------------------------------------------------------------------

/-- What an invocation is made from. -/
structure InvocationPlan where
  settings : Settings
  chunk : Chunk
  fullClasspath : List String
  processClasspath : List String
  outputs : List String
deriving Repr

/-- The invocation that the settings ask for. -/
def InvocationPlan.choose (plan : InvocationPlan) (files : FileSystem) (ctx : Context) :
    Except Failure Invocation :=
  let settings := plan.settings
  if settings.inProcess then
    match settings.inProcessRunner with
    | none | some "" => .error (.launch .noRunner)
    | some reference => do
      resolveRunner ctx reference
      return .inProcess plan.fullClasspath plan.outputs
  else
    .ok (.forked (javaExecutable files ctx settings plan.chunk) settings.mainClass
      plan.processClasspath settings.machineParameters settings.encoding)

end GroovyRounds
