import GroovyRounds.Glob

/-!
# Compiler settings

How the compiler is run, and which files get no stubs.
-/

namespace GroovyRounds

structure Settings where
  /-- Megabytes for a child process. -/
  heapSize : Int := 400
  invokeDynamic : Bool := false
  inProcess : Bool := false
  /-- The least number of files for optimized class loading; zero turns it off. -/
  optimizeThreshold : Int := 10
  /-- Patterns of files without stubs. -/
  stubExcludes : List String := []
  /-- The library that has to come first on every classpath. -/
  runtimeSupport : Path
  bootstrapClasspath : List Path := []
  mainClass : String := "org.jetbrains.groovy.compiler.rt.GroovycRunner"
  inProcessRunner : Option String := none
  javaHome : Option Path := none
  /-- The runtime version of chunks without an SDK. -/
  hostRuntimeVersion : Option String := some "1.8"
  grapeRoot : Option String := none
  encoding : String := "UTF-8"
deriving DecidableEq, Repr

/-- No stubs are generated for the file. -/
def Settings.excludesStub (settings : Settings) (p : Path) : Bool :=
  settings.stubExcludes.any fun pattern => Glob.covers pattern p

end GroovyRounds
