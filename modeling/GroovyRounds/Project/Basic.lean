import GroovyRounds.FileSystem.Basic
import GroovyRounds.OrderedMap
import GroovyRounds.Project.Chunk

/-!
# The project

Where the targets' sources lie, what they compile against, and which target
owns a source.
-/

namespace GroovyRounds

structure Project where
  /-- The directory for build data. -/
  dataRoot : Path
  sourceRoots : OrderedMap TargetId (List Path) := .empty
  classpath : OrderedMap TargetId (List Path) := .empty
  /-- The source encoding of every chunk; void if there is none. -/
  encoding : Json := .null
  resources : List Path := []
  /-- Files that are never compiled. -/
  excluded : List Path := []
deriving Repr

/-- Source roots that last as long as the build. -/
abbrev TempRoots := OrderedMap TargetId (List Path)

namespace Project

/-- The classpath entries of the chunk's targets, each once. -/
def chunkClasspath (project : Project) (chunk : Chunk) : List Path :=
  (chunk.ids.flatMap fun target => (project.classpath.find? target).getD []).eraseDups

/-- The target with a source root at or above the path; source roots come before temporary ones. -/
def owner? (project : Project) (temp : TempRoots) (source : Path) : Option TargetId :=
  (project.sourceRoots.entries ++ temp.entries).findSome? fun (target, roots) =>
    if roots.any fun root => root.isWithin source then some target else none

/-- The extension of the last name has to be one of these. -/
def hasExtension (extensions : List String) (p : Path) : Bool :=
  extensions.contains (String.ofList (p.suffix.dropWhile (· = '.')))

/-- The files below a directory, sorted name by name. -/
def filesBelow (files : FileSystem) (root : Path) (place : Location) : List Path :=
  let found := (files.below place).filterMap fun (p, node) =>
    match node with
    | .file .. => some { root with names := root.names ++ p.drop place.length }
    | .directory => none
  found.mergeSort Path.le

/-- The sources of a target that have one of the extensions, root by root. -/
def sources (project : Project) (files : FileSystem) (target : TargetId)
    (extensions : List String) : Except FileFault (List Path) := do
  let roots := (project.sourceRoots.find? target).getD []
  let found ← roots.mapM fun root => do
    match ← files.probe root with
    | some .directory =>
      match files.locate root with
      | .ok place => return (filesBelow files root place).filter (hasExtension extensions)
      | .error refusal => throw (.refused refusal root)
    | _ => return []
  return found.flatten

end Project

/-- Adds a temporary source root, once. -/
def TempRoots.add (temp : TempRoots) (target : TargetId) (root : Path) : TempRoots :=
  temp.alter target [] fun roots => if roots.contains root then roots else roots ++ [root]

end GroovyRounds
