import GroovyRounds.CommandLine.Run

/-!
# The program

Runs the command line on the files below the working directory: reads them,
runs the request in memory, and writes back what has changed. No child process
is started here, so a build ends at the first start of a compiler.
-/

namespace GroovyRounds.Program

-- ---------------------------------------------------------------------------
-- Files
-- ---------------------------------------------------------------------------

/-- Reads the entries of a directory and all below them. Links are passed over. -/
partial def load (place : Location) (entries : Array IO.FS.DirEntry) (fs : FileSystem) :
    IO FileSystem :=
  entries.foldlM (fun fs entry => do
    let place := place ++ [entry.fileName]
    match (← entry.path.symlinkMetadata).type with
    | .dir => load place (← entry.path.readDir) (fs.plantDirectory place)
    | .file =>
      let content ← IO.FS.readBinFile entry.path
      return fs.plant place (.file content.toList false)
    | _ => return fs) fs

def spell (place : Location) : String :=
  "/" ++ Path.spellNames place

/-- A place that is gone, while its directory is still there. -/
def isRemoved (after : FileSystem) (place : Location) : Bool :=
  (after.node? place).isNone && (after.node? place.dropLast).isSome

/-- Removes what is gone and writes what is new or changed. -/
def save (before after : FileSystem) : IO Unit := do
  for (place, node) in before.nodes do
    if isRemoved after place then
      match node with
      | .directory => IO.FS.removeDirAll (spell place)
      | .file .. => IO.FS.removeFile (spell place)
  for (place, node) in after.nodes do
    if before.node? place ≠ some node then
      match node with
      | .directory => IO.FS.createDirAll (spell place)
      | .file content _ =>
        IO.FS.createDirAll (spell place.dropLast)
        IO.FS.writeBinFile (spell place) (ByteArray.mk content.toArray)

-- ---------------------------------------------------------------------------
-- Surroundings
-- ---------------------------------------------------------------------------

def temporaryPlace : Location := ["tmp"]

def knownVariables : List String :=
  [javaHomeVariable, grapeRootVariable, inProcessVariable, thresholdVariable]

/-- The variables that are set. -/
def readEnvironment : IO Settings.Environment :=
  knownVariables.filterMapM fun name => do
    return (← IO.getEnv name).map fun value => (name, value)

/-- Where the program runs. No runner is known, and no compiler is started. -/
def site (environment : Settings.Environment) (searchPath : Option String) (program : Path) :
    CommandLine.Site where
  context := {
    project := { dataRoot := Path.ofString "." }
    tempDirectory := Path.ofString (spell temporaryPlace)
    searchPath
    runner := fun _ _ => .missing
    compiler := fun _ _ _ => { actions := [], ending := .returned .null } }
  environment
  runtimeSupport := program.parent.child "rt/groovy_rt.jar"

/-- Prints what is left to say and gives the exit code. -/
def finish (ending : CommandLine.Ending) (hundredths : Nat) : IO UInt32 := do
  match ending with
  | .escaped label =>
    IO.eprintln label
    return 1
  | ending =>
    IO.print (ending.text hundredths)
    return UInt32.ofNat ((ending.code?).getD 1)

end GroovyRounds.Program

open GroovyRounds in
def main (args : List String) : IO UInt32 := do
  let started ← IO.monoMsNow
  let directory ← IO.currentDir
  let place := (Path.ofString directory.toString).names
  let bare : FileSystem := { nodes := [], cwd := place }
  let bare := (bare.plantDirectory place).plantDirectory Program.temporaryPlace
  let files ← Program.load place (← directory.readDir) bare
  let program := Path.ofString (← IO.appPath).toString
  let site := Program.site (← Program.readEnvironment) (← IO.getEnv "PATH") program
  let (ending, world) := CommandLine.run site args { files }
  Program.save files world.files
  world.console.forM (IO.print ·)
  Program.finish ending (((← IO.monoMsNow) - started) / 10)
