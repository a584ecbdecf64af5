import GroovyRounds.Build.Reconcile

/-!
# Registering classes

Every compiled class goes to the output consumer and the dependency graph. A
class that cannot be read costs a warning, and no other class.
-/

namespace GroovyRounds

/-- Gives a class to the output consumer, which also notes it in the index. -/
def World.registerClass (world : World) (target : TargetId) (compiled : CompiledClass) : World :=
  { world with
    classes := world.classes.alter target [] (· ++ [compiled])
    index := world.index.addOutput target compiled.source.toString compiled.output.toString }

namespace Build

/-- Reads a class file and its name. -/
def readClass (output source : String) : Build CompiledClass := do
  let content ← withFiles (FileAction.readBytes (Path.ofString output))
  match ClassFile.className content with
  | .ok name =>
    return { output := Path.ofString output, source := Path.ofString source, name, content }
  | .error fault => throw (.classFile fault)

/-- Reads a class and registers it. -/
def registerClass (target : TargetId) (output source : String) : Build Unit := do
  let compiled ← readClass output source
  modify fun world =>
    let world := world.registerClass target compiled
    { world with graph := world.graph ++ [{ output, source, content := compiled.content }] }

def unreadableWarning (item : OutputItem) (source : String) (failure : Failure)
    (builder : String) : Message where
  kind := .warning
  text := "Class dependency information may be incomplete! Error parsing generated class " ++
    item.output ++ "\n" ++ Text.trimString failure.report
  builder
  source := some source

/-- Registers an item, or warns that its class cannot be read. -/
def registerItem (ctx : Context) (builder : String) (target : TargetId) (item : OutputItem) :
    Build Unit := do
  let source := Path.withSlashes item.source
  let output := Path.withSlashes item.output
  match ← attempt (registerClass target output source) with
  | .ok () => pure ()
  | .error failure => tell ctx (unreadableWarning item source failure builder)
  modifyTracker (·.registerSucceeded (Path.ofString source))

/-- Registers the files of a round and all its compiled items. -/
def registerRound (ctx : Context) (builder : String) (files : List Path)
    (compiled : CompiledItems) : Build Unit := do
  modifyTracker (·.registerToCompile files)
  compiled.entries.forM fun (target, items) => items.forM (registerItem ctx builder target)

end Build

end GroovyRounds
