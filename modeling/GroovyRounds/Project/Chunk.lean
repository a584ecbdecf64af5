import GroovyRounds.Project.Target

/-!
# Chunks

An ordered, non-empty group of targets compiled together. The compiler writes
to the output of the first target, the representative.
-/

namespace GroovyRounds

structure Chunk where
  representative : Target
  others : List Target
deriving Repr

namespace Chunk

def targets (chunk : Chunk) : List Target :=
  chunk.representative :: chunk.others

/-- What tells one chunk from another. -/
def ids (chunk : Chunk) : List TargetId :=
  chunk.targets.map (·.toTargetId)

def ofTargets? : List Target → Option Chunk
  | [] => none
  | target :: targets => some { representative := target, others := targets }

/-- The names of the modules, each once. -/
def modules (chunk : Chunk) : List Scalar :=
  (chunk.targets.map (·.name)).eraseDups

def containsTests (chunk : Chunk) : Bool :=
  chunk.targets.any (·.kind = .test)

/-- The SDK of the first module. -/
def sdk (chunk : Chunk) : Option Sdk :=
  chunk.representative.sdk

def name (chunk : Chunk) : Except NotText String := do
  let names ← allTexts 0 (chunk.modules.map .scalar)
  return ", ".intercalate names

/-- The first module, and how many more there are. -/
def shortName (chunk : Chunk) : String :=
  let first := chunk.representative.name.display
  match chunk.modules.length with
  | 0 | 1 => first
  | n + 1 => first ++ " and " ++ toString n ++ " more"

theorem ids_ne_nil (chunk : Chunk) : chunk.ids ≠ [] := by
  simp [ids, targets]

end Chunk

end GroovyRounds
