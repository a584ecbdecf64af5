import GroovyRounds.Settings.Basic

/-!
# Invocations

The two ways to run the compiler, inside this process or in a child process,
and the parameters both get.
-/

namespace GroovyRounds

-- ---------------------------------------------------------------------------
-- Roles
-- ---------------------------------------------------------------------------

/-- The two builders of a chunk: stubs first, then classes. -/
inductive Role where
  | stubs
  | classes
deriving DecidableEq, Repr

namespace Role

/-- The builder's name in messages. -/
def name : Role → String
  | .stubs => "Groovy stub generator"
  | .classes => "Groovy compiler"

/-- The word that tells the compiler what to make. -/
def mode : Role → String
  | .stubs => "stubs"
  | .classes => "groovyc"

end Role

-- ---------------------------------------------------------------------------
-- Parameters
-- ---------------------------------------------------------------------------

/-- The parameters of the compiler program; the third is the argument file. -/
def programParameters (optimize : Bool) (role : Role) (argumentFile : Path)
    (invokeDynamic : Bool) : List String :=
  [if optimize then "optimize" else "do_not_optimize", role.mode, argumentFile.toString] ++
    (if invokeDynamic then ["--indy"] else [])

def grapeRootParameters : Option String → List String
  | none | some "" => []
  | some root => ["-Dgrape.root=" ++ root]

/-- The parameters of the virtual machine. -/
def Settings.machineParameters (settings : Settings) : List String :=
  ["-Xmx" ++ toString settings.heapSize ++ "m", "-Dfile.encoding=" ++ settings.encoding] ++
    grapeRootParameters settings.grapeRoot

/-- Classpath entries as one text. -/
def joinClasspath (entries : List String) : String :=
  ":".intercalate entries

-- ---------------------------------------------------------------------------
-- Invocations
-- ---------------------------------------------------------------------------

inductive Invocation where
  | inProcess (classpath outputs : List String)
  | forked (java mainClass : String) (classpath machineParameters : List String)
      (encoding : String)
deriving DecidableEq, Repr

namespace Invocation

/-- The command line of a child process. -/
def command (java mainClass : String) (classpath machineParameters parameters : List String) :
    List String :=
  [java] ++ machineParameters ++ ["-classpath", joinClasspath classpath] ++ [mainClass] ++
    parameters

end Invocation

end GroovyRounds
