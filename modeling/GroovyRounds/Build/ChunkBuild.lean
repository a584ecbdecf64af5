import GroovyRounds.Build.Round

/-!
# Building a chunk

Rounds of stubs and classes until none is due. Every source is dirty in the
first round, later rounds compile what was scheduled. A chunk is rebuilt from
scratch once at most.
-/

namespace GroovyRounds

/-- The most rounds of one chunk. -/
def maxRounds : Nat := 10

/-- How the rounds of a chunk are run: by builders, or by stand-ins for them. -/
structure Rounds where
  run : Role → Chunk → DirtyFiles → Build Verdict
  finish : Chunk → Build Unit

/-- The rounds that two builders run. -/
def Rounds.ofBuilders (ctx : Context) (stubs classes : Builder) : Rounds where
  run role chunk dirty :=
    match role with
    | .stubs => Build.round ctx stubs chunk dirty
    | .classes => Build.round ctx classes chunk dirty
  finish := Build.finishChunk

namespace Build

/-- All Groovy sources of a chunk's targets. -/
def chunkSources (ctx : Context) (chunk : Chunk) : Build DirtyFiles := do
  let files := (← get).files
  let perTarget ← chunk.ids.mapM fun target =>
    match ctx.project.sources files target groovyExtensions with
    | .ok sources => return sources.map fun source => (target, source)
    | .error fault => throw (.files fault)
  return perTarget.flatten

-- ---------------------------------------------------------------------------
-- One pass
-- ---------------------------------------------------------------------------

def record (entry : JournalEntry) : Build Unit :=
  modify fun world => { world with journal := world.journal ++ [entry] }

/-- Runs a round and records its start and its end. -/
def recordedRound (rounds : Rounds) (role : Role) (chunk : Chunk) (dirty : DirtyFiles) :
    Build Verdict := do
  let before ← get
  record (.started role dirty before.tracker)
  let verdict ← rounds.run role chunk dirty
  let after ← get
  record (.ended role verdict after.tracker (after.outputs.drop before.outputs.length))
  return verdict

/-- A round of stubs, and a round of classes unless the first one ended the pass. -/
def pass (rounds : Rounds) (chunk : Chunk) (dirty : DirtyFiles) : Build Verdict := do
  modifyTracker (·.setCurrent (dirty.map (·.2)))
  match ← recordedRound rounds .stubs chunk dirty with
  | .chunkRebuildRequired => return .chunkRebuildRequired
  | .abort => return .abort
  | _ => recordedRound rounds .classes chunk dirty

-- ---------------------------------------------------------------------------
-- Pass after pass
-- ---------------------------------------------------------------------------

/-- Warns about a chunk, by its name. -/
def warnAbout (chunk : Chunk) (text : String) : Build Unit := do
  print (Console.warning ((← chunkName chunk) ++ ": " ++ text))

/-- The sources among those of the chunk that were scheduled. -/
def startNextRound (sources : DirtyFiles) : Build DirtyFiles := do
  let scheduled := (← get).tracker.next
  modifyTracker (·.startNext)
  return sources.filter fun (_, source) => scheduled.contains source

/-- Runs passes until the chunk is built or cannot be. `rebuilt` tells that it has been
rebuilt from scratch; `left` counts the passes still allowed. -/
def passes (rounds : Rounds) (chunk : Chunk) (sources : DirtyFiles) :
    (left : Nat) → (rebuilt : Bool) → DirtyFiles → Build Bool
  | 0, _, _ => do
    warnAbout chunk ("giving up after " ++ toString maxRounds ++ " rounds")
    return false
  | left + 1, rebuilt, dirty => do
    match ← pass rounds chunk dirty with
    | .abort => return false
    | .chunkRebuildRequired =>
      if rebuilt then
        warnAbout chunk "rebuild requested again after a full rebuild"
        return false
      modifyTracker fun tracker => { tracker with forced := true }
      passes rounds chunk sources left true sources
    | .additionalPassRequired =>
      passes rounds chunk sources left rebuilt (← startNextRound sources)
    | .ok | .nothingDone => return true

/-- Builds a chunk. However it ends, the chunk's state is dropped and the flag of forced
recompilation is as it was. -/
def buildChunk (ctx : Context) (rounds : Rounds) (chunk : Chunk) : Build Bool := do
  let sources ← chunkSources ctx chunk
  let forced := (← get).tracker.forced
  let result ← attempt (passes rounds chunk sources maxRounds false sources)
  modifyTracker fun tracker => { tracker with forced }
  record .finished
  rounds.finish chunk
  ofExcept result

end Build

end GroovyRounds
