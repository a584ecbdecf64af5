import GroovyRounds.Build.World

/-!
# What a round compiles

The dirty Groovy sources of a round, the output directories of its targets, and
the classes that earlier rounds compiled.
-/

namespace GroovyRounds

def groovyExtensions : List String := ["groovy", "gpp"]

/-- The text ends with a Groovy extension. -/
def isGroovy (path : String) : Bool :=
  groovyExtensions.any fun extension => ("." ++ extension).toList.isSuffixOf path.toList

/-- The file is compiled in a round of this role. -/
def isCompiled (project : Project) (settings : Settings) (role : Role) (p : Path) : Bool :=
  isGroovy p.name && !project.resources.contains p &&
    !(role = .stubs && settings.excludesStub p)

/-- The files to compile, each once, in the order in which they were found dirty. -/
def changedFiles (project : Project) (settings : Settings) (role : Role) (dirty : DirtyFiles) :
    List Path :=
  ((dirty.map (·.2)).filter (isCompiled project settings role)).eraseDups

/-- The files as the compiler is told them. -/
def pathsToCompile (files : List Path) : List String :=
  (files.map fun p => Path.withSlashes p.toString).eraseDups

namespace Build

-- ---------------------------------------------------------------------------
-- Output directories
-- ---------------------------------------------------------------------------

/-- Output directories by target. -/
abbrev FinalOutputs := OrderedMap TargetId String

def withTrailingSlash (s : String) : String :=
  if s.toList.getLast? = some '/' then s else s ++ "/"

def noOutputMessage (target : TargetId) (builder : String) : Message where
  kind := .error
  text := "Output directory not specified for module " ++ target.name.display
  builder

/-- Makes the output directories of targets, up to the first target without one. -/
def makeOutputs (ctx : Context) (builder : String) :
    List TargetId → FinalOutputs → Build (Option FinalOutputs)
  | [], outputs => return some outputs
  | target :: targets, outputs =>
    match target.output with
    | none => do
      tell ctx (noOutputMessage target builder)
      return none
    | some directory => do
      withFiles (FileAction.makeDirectories true directory)
      let place := Path.withSlashes (directory.resolve (← get).cwd).toString
      makeOutputs ctx builder targets (outputs.insert target (withTrailingSlash place))

/-- The output directory of every target, canonical and with a trailing slash. -/
def finalOutputs (ctx : Context) (builder : String) (chunk : Chunk) :
    Build (Option FinalOutputs) :=
  makeOutputs ctx builder chunk.ids .empty

end Build

-- ---------------------------------------------------------------------------
-- Classes compiled earlier
-- ---------------------------------------------------------------------------

def classSuffix : String := ".class"

/-- The name of the class in a file below an output directory. -/
def classNameBelow? (directory file : String) : Option String :=
  let cs := file.toList
  if classSuffix.toList.isSuffixOf cs && directory.toList.isPrefixOf cs then
    let inner := (cs.drop directory.length).take (cs.length - directory.length - classSuffix.length)
    some (String.ofList (ClassFile.dotted inner))
  else none

/-- Classes with their sources; a class keeps its place when its source changes. -/
abbrev ClassMap := OrderedMap String String

/-- The source is one that this round leaves alone. -/
def isUnchanged (project : Project) (changed : List String) (source : String) : Bool :=
  !changed.contains source && isGroovy source && !project.excluded.contains (Path.ofString source)

/-- Adds the classes of a target that this round does not recompile. -/
def addTargetClasses (project : Project) (index : SourceIndex) (changed : List String)
    (directory : String) (classes : ClassMap) (target : TargetId) : ClassMap :=
  let unchanged := (index.sources target).filter (isUnchanged project changed)
  unchanged.foldl (fun classes source =>
    let names := ((index.outputs? target source).getD []).filterMap (classNameBelow? directory)
    names.foldl (fun classes name => classes.insert name source) classes) classes

/-- The classes of a chunk that this round does not recompile, with their sources. -/
def classMap (project : Project) (index : SourceIndex) (chunk : Chunk) (changed : List String)
    (outputs : OrderedMap TargetId String) : Except Failure ClassMap :=
  chunk.ids.foldlM (fun classes target =>
    match outputs.find? target with
    | some directory => .ok (addTargetClasses project index changed directory classes target)
    | none => .error (.noOutput target)) .empty

end GroovyRounds
