import GroovyRounds.OrderedMap
import GroovyRounds.Project.Target

/-!
# Sources and their outputs

For every target, which outputs each of its sources was compiled to, in the
order in which they became known.
-/

namespace GroovyRounds

structure SourceIndex where
  byTarget : OrderedMap TargetId (OrderedMap String (List String)) := .empty
deriving DecidableEq, Repr

namespace SourceIndex

def ofTarget (index : SourceIndex) (target : TargetId) : OrderedMap String (List String) :=
  (index.byTarget.find? target).getD .empty

def sources (index : SourceIndex) (target : TargetId) : List String :=
  (index.ofTarget target).keys

def outputs? (index : SourceIndex) (target : TargetId) (source : String) : Option (List String) :=
  (index.ofTarget target).find? source

def setOutputs (index : SourceIndex) (target : TargetId) (source : String)
    (outputs : List String) : SourceIndex :=
  { byTarget := index.byTarget.insert target ((index.ofTarget target).insert source outputs) }

/-- Adds an output of a source, once. -/
def addOutput (index : SourceIndex) (target : TargetId) (source output : String) : SourceIndex :=
  let outputs := (index.outputs? target source).getD []
  index.setOutputs target source
    (if outputs.contains output then outputs else outputs ++ [output])

@[simp] theorem ofTarget_setOutputs (index : SourceIndex) (target : TargetId) (source : String)
    (outputs : List String) :
    (index.setOutputs target source outputs).ofTarget target =
      (index.ofTarget target).insert source outputs := by
  simp [setOutputs, ofTarget]

end SourceIndex

end GroovyRounds
