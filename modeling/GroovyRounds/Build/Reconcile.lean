import GroovyRounds.Build.World

/-!
# Moving classes to their targets

The compiler writes all classes of a chunk to one directory. Classes of sources
that another target owns are moved from there to that target's output.
-/

namespace GroovyRounds

/-- Where a compiled file belongs below its target's output. -/
def correctOutput (cwd : Path) (targetOutput compilerOutput output : String) : Path :=
  Path.ofString targetOutput ++
    (Path.ofString output).relativeTo (Path.ofString compilerOutput) cwd

/-- The output a compiled file has to be moved to, unless it stays where it is. -/
def moveTarget? (chunk : Chunk) (owner : TargetId) (outputs : OrderedMap TargetId String) :
    Option String :=
  if chunk.modules.length ≤ 1 || owner = chunk.representative.toTargetId then none
  else outputs.find? owner

namespace FileAction

/-- Moves a file into a directory that may have to be made. -/
def moveDeep (source target : Path) : FileAction Unit := do
  makeDirectories true target.parent
  move source target

end FileAction

namespace Build

/-- Moves a compiled file to its owner's output and gives its path there. -/
def reconcile (chunk : Chunk) (owner : TargetId) (outputs : OrderedMap TargetId String)
    (compilerOutput : String) (item : OutputItem) : Build String := do
  match moveTarget? chunk owner outputs with
  | none => return item.output
  | some targetOutput =>
    let target := correctOutput (← get).cwd targetOutput compilerOutput item.output
    withFiles (FileAction.moveDeep (Path.ofString item.output) target)
    return target.toString

def moveWarning (item : OutputItem) (owner : TargetId) (fault : FileFault) (builder : String) :
    Message where
  kind := .warning
  text := "Cannot move compiled class " ++ item.output ++ " to the output of " ++
    owner.display ++ ": " ++ fault.message
  builder
  source := some item.source

/-- Reconciles an item; a move that is refused leaves it where it is, with a warning. -/
def reconcileItem (ctx : Context) (builder : String) (chunk : Chunk) (owner : TargetId)
    (outputs : OrderedMap TargetId String) (compilerOutput : String) (item : OutputItem) :
    Build OutputItem := do
  match ← attempt (reconcile chunk owner outputs compilerOutput item) with
  | .ok output => return { item with output }
  | .error (.files fault) =>
    if fault.isRefusal then
      tell ctx (moveWarning item owner fault builder)
      return item
    else throw (.files fault)
  | .error failure => throw failure

/-- Compiled items by the target that owns their source. -/
abbrev CompiledItems := OrderedMap TargetId (List OutputItem)

/-- Reconciles items one after another. Items that no target owns are dropped. -/
def reconcileAll (ctx : Context) (builder : String) (chunk : Chunk)
    (outputs : OrderedMap TargetId String) (compilerOutput : String) :
    List OutputItem → CompiledItems → Build CompiledItems
  | [], compiled => return compiled
  | item :: items, compiled => do
    match ctx.project.owner? (← get).tempRoots (Path.ofString item.source) with
    | none => reconcileAll ctx builder chunk outputs compilerOutput items compiled
    | some owner =>
      let item ← reconcileItem ctx builder chunk owner outputs compilerOutput item
      reconcileAll ctx builder chunk outputs compilerOutput items
        (compiled.alter owner [] (· ++ [item]))

/-- Reconciles the items of a run. The end of it is logged under the chunk's name. -/
def reconcileRun (ctx : Context) (builder : String) (chunk : Chunk)
    (outputs : OrderedMap TargetId String) (compilerOutput : String) (items : List OutputItem) :
    Build CompiledItems := do
  let compiled ← reconcileAll ctx builder chunk outputs compilerOutput items .empty
  let _ ← chunkName chunk
  return compiled

end Build

end GroovyRounds
