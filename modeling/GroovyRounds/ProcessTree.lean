/-!
# Process trees

Ending a process with all its descendants. Whether a process still runs is all
that counts; one that has ended leaves no descendants to be found.
-/

namespace GroovyRounds

/-- A process and the processes it started. -/
inductive ProcessTree where
  | node (children : List ProcessTree)
deriving Repr

namespace ProcessTree

mutual

/-- How many processes a tree has. -/
def size : ProcessTree → Nat
  | .node children => sizes children + 1

def sizes : List ProcessTree → Nat
  | [] => 0
  | tree :: trees => tree.size + sizes trees

end

/-- Ends a process that may be gone already, with all its descendants. Gives how many were
ended, and what is left. -/
def kill : Option ProcessTree → Nat × Option ProcessTree
  | none => (0, none)
  | some tree => (tree.size, none)

end ProcessTree

end GroovyRounds
