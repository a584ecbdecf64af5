import GroovyRounds.Build.World
import GroovyRounds.Version

/-!
# Classpaths

The runtime support library comes first, then the project's entries, then what
extensions add, each once. With optimized class loading a child process gets
only the libraries it needs to start and reads the rest from its argument file.
-/

namespace GroovyRounds

/-- What an extension adds to every run. -/
structure Extension where
  classpath : List String := []
  patchers : List String := []
deriving DecidableEq, Repr

def extensionClasspath (extensions : List Extension) : List String :=
  extensions.flatMap (·.classpath)

def extensionPatchers (extensions : List Extension) : List String :=
  extensions.flatMap (·.patchers)

-- ---------------------------------------------------------------------------
-- Optimized class loading
-- ---------------------------------------------------------------------------

/-- The oldest runtime that can load the support library of optimized class loading. -/
def leastOptimizedVersion : String := "1.6"

/-- The version of the runtime that compiles a chunk. -/
def runtimeVersion (settings : Settings) (chunk : Chunk) : Json :=
  match chunk.sdk with
  | some sdk => sdk.version
  | none => (settings.hostRuntimeVersion.map Json.text).getD .null

/-- The version is known and not too old. -/
def isOptimizedVersion (version : Json) : Except Failure Bool :=
  match version with
  | .scalar .null => .ok false
  | .scalar (.text v) =>
    match Version.compare (some v.display) (some leastOptimizedVersion) with
    | .ok order => .ok (0 ≤ order)
    | .error fault => .error (.numeral fault)
  | version => .error (.versionSort version.sort)

/-- Whether a run over so many files loads classes in the optimized way. -/
def shouldOptimize (settings : Settings) (chunk : Chunk) (count : Nat) : Except Failure Bool :=
  if settings.inProcess then .ok false
  else do
    let able ← isOptimizedVersion (runtimeVersion settings chunk)
    return able && settings.optimizeThreshold ≠ 0 && settings.optimizeThreshold ≤ count

-- ---------------------------------------------------------------------------
-- Entries
-- ---------------------------------------------------------------------------

def canonicalText (cwd p : Path) : String :=
  (p.canonical cwd).toString

/-- Appends an entry unless it is there. -/
def appendUnique (entries : List String) (entry : String) : List String :=
  if entries.contains entry then entries else entries ++ [entry]

/-- The full classpath of a chunk. -/
def fullClasspath (cwd : Path) (project : Project) (settings : Settings)
    (extensions : List Extension) (chunk : Chunk) : List String :=
  ((project.chunkClasspath chunk).map (canonicalText cwd) ++ extensionClasspath extensions).foldl
    appendUnique [canonicalText cwd settings.runtimeSupport]

/-- The least classpath that an optimized process needs. -/
def bootstrapClasspath (cwd : Path) (settings : Settings) : List String :=
  (settings.bootstrapClasspath.map (canonicalText cwd)).foldl
    appendUnique [canonicalText cwd settings.runtimeSupport]

/-- The classpath of the compiler process. -/
def processClasspath (cwd : Path) (project : Project) (settings : Settings)
    (extensions : List Extension) (chunk : Chunk) (optimize : Bool) : List String :=
  if optimize && !settings.inProcess then bootstrapClasspath cwd settings
  else fullClasspath cwd project settings extensions chunk

end GroovyRounds
