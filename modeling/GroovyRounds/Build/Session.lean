import GroovyRounds.OrderedMap
import GroovyRounds.Project.Chunk

/-!
# Sessions

The state of each chunk during one build: which stub came from which source,
whether a source was scheduled for the next round, and whether the chunk has
ordered a rebuild.
-/

namespace GroovyRounds

structure ChunkState where
  /-- The source of each stub. -/
  stubSources : OrderedMap String String := .empty
  /-- A source of the chunk was scheduled for the next round. -/
  marked : Bool := false
  rebuildOrdered : Bool := false
deriving DecidableEq, Repr

instance : Inhabited ChunkState := ⟨{}⟩

/-- Whether the round has to end with a rebuild of the chunk. A chunk orders one
rebuild at most in a row, so a compiler that keeps asking does not loop forever. -/
def ChunkState.escalate (state : ChunkState) (shouldRetry forced : Bool) : Bool × ChunkState :=
  if forced || !shouldRetry then (false, state)
  else if state.rebuildOrdered then (false, { state with rebuildOrdered := false })
  else (true, { state with rebuildOrdered := true })

structure Session where
  states : OrderedMap (List TargetId) ChunkState := .empty
  /-- How many post-processors watch the classes of the other compiler. -/
  processors : Nat := 1
deriving DecidableEq, Repr

namespace Session

def state? (session : Session) (chunk : Chunk) : Option ChunkState :=
  session.states.find? chunk.ids

def hasState (session : Session) (chunk : Chunk) : Bool :=
  (session.state? chunk).isSome

/-- The state of a chunk; a chunk without one starts fresh. -/
def state (session : Session) (chunk : Chunk) : ChunkState :=
  (session.state? chunk).getD {}

def setState (session : Session) (chunk : Chunk) (state : ChunkState) : Session :=
  { session with states := session.states.insert chunk.ids state }

/-- Drops the state of a chunk. -/
def finish (session : Session) (chunk : Chunk) : Session :=
  { session with states := session.states.erase chunk.ids }

@[simp] theorem state_setState (session : Session) (chunk : Chunk) (state : ChunkState) :
    (session.setState chunk state).state chunk = state := by
  simp [setState, Session.state, state?]

end Session

end GroovyRounds
