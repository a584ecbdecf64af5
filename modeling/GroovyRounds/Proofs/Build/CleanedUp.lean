import GroovyRounds.CommandLine.Run
import GroovyRounds.Proofs.Build.Rebuilds
import GroovyRounds.Proofs.Build.Scheduling
import GroovyRounds.Proofs.OrderedMap

/-!
# Chunks that are done with

However the passes over a chunk end, the flag of forced recompilation is what it
was, the session has forgotten the chunk, and it knows of all other chunks what
it knew before (`buildChunk_cleans_up`). So of many chunks that are built in one
session each starts fresh, whatever became of those before it.
-/

namespace GroovyRounds

open Program

-- ---------------------------------------------------------------------------
-- The states of other chunks
-- ---------------------------------------------------------------------------

/-- Of every other chunk the session has the state that it had, if any. Chunks are told apart by
their targets' names, outputs and kinds. -/
def SameOthers (chunk : Chunk) (before after : World) : Prop :=
  ∀ other : Chunk, other.ids ≠ chunk.ids →
    after.session.state? other = before.session.state? other

namespace SameOthers

variable {chunk : Chunk} {u v w : World}

theorem of_session (h : w.session = v.session) : SameOthers chunk v w := by
  intro other _
  rw [h]

theorem trans (h : SameOthers chunk u v) (h' : SameOthers chunk v w) : SameOthers chunk u w :=
  fun other hne => (h' other hne).trans (h other hne)

end SameOthers

theorem Session.state?_setState (session : Session) (chunk other : Chunk) (state : ChunkState) :
    (session.setState chunk state).state? other =
      if other.ids = chunk.ids then some state else session.state? other :=
  OrderedMap.find?_insert _ _ _ _

theorem Session.state?_finish (session : Session) (chunk other : Chunk) :
    (session.finish chunk).state? other =
      if other.ids = chunk.ids then none else session.state? other :=
  OrderedMap.find?_erase _ _ _

theorem sameOthers_setState (chunk : Chunk) (state : ChunkState) (w : World) :
    SameOthers chunk w { w with session := w.session.setState chunk state } := by
  intro other hne
  exact (Session.state?_setState _ _ _ _).trans (if_neg hne)

-- ---------------------------------------------------------------------------
-- A compiler that spares other chunks
-- ---------------------------------------------------------------------------

/-- What is known of other chunks is what it was at first, if it was before. -/
def KeepsOthers (chunk : Chunk) (first before after : World) : Prop :=
  SameOthers chunk first before → SameOthers chunk first after

instance (chunk : Chunk) (first : World) : Std.Refl (KeepsOthers chunk first) := ⟨fun _ h => h⟩

instance (chunk : Chunk) (first : World) : IsTrans World (KeepsOthers chunk first) :=
  ⟨fun _ _ _ h h' hu => h' (h hu)⟩

/-- No action of a run of the compiler that was started between the two worlds changes what is
known of another chunk, where that is what it was at first. -/
def SparesOthers (ctx : Context) (chunk : Chunk) (first last : World) : Prop :=
  ∀ calls call files, first.calls <+: calls → calls ++ [call] <+: last.calls →
    Across ctx (KeepsOthers chunk first) (ctx.compiler calls call files).actions

/-- Calls are only added; and where only those between the two outer worlds are, what was known of
other chunks at first is known still. -/
structure OthersKept (chunk : Chunk) (first last before after : World) : Prop where
  calls : before.calls <+: after.calls
  others : first.calls <+: before.calls → after.calls <+: last.calls →
    KeepsOthers chunk first before after

namespace OthersKept

variable {chunk : Chunk} {first last u v w : World}

theorem of_eq (hcalls : w.calls = v.calls) (hothers : SameOthers chunk v w) :
    OthersKept chunk first last v w where
  calls := hcalls ▸ List.prefix_refl _
  others _ _ h := h.trans hothers

theorem refl (w : World) : OthersKept chunk first last w w :=
  .of_eq rfl (.of_session rfl)

theorem trans (h : OthersKept chunk first last u v) (h' : OthersKept chunk first last v w) :
    OthersKept chunk first last u w where
  calls := h.calls.trans h'.calls
  others hfirst hlast hu :=
    h'.others (hfirst.trans h.calls) hlast (h.others hfirst (h'.calls.trans hlast) hu)

instance : Std.Refl (OthersKept chunk first last) := ⟨refl⟩

instance : IsTrans World (OthersKept chunk first last) := ⟨fun _ _ _ => trans⟩

end OthersKept

theorem Quiet.othersKept {chunk : Chunk} {first last v w : World} (h : Quiet v w) :
    OthersKept chunk first last v w :=
  .of_eq h.calls (.of_session h.session)

namespace Build

variable {ctx : Context} {builder stubs classes : Builder} {chunk : Chunk}
variable {first last v w : World}

/-- A run of the compiler is one of those that spare other chunks, if its start is among them. -/
theorem othersKept_run (h : SparesOthers ctx chunk first last) (invocation : Invocation)
    (refuses : Running.Refusal) (parameters : List String) (w : World) :
    OthersKept chunk first last w (invocation.run ctx refuses parameters w).1.world := by
  let call := invocation.call parameters w
  unfold Invocation.run
  split
  · exact .refl w
  · rename_i charset _
    let started : Running := { world := { w with calls := w.calls ++ [call] } }
    let executed := (invocation.execute ctx refuses charset
      (invocation.program ctx parameters w) started).1
    have hunrecorded : Unrecorded started.world executed.world :=
      Invocation.across_execute (fun _ _ _ _ heffect => unrecorded_effect heffect) charset started
    have hcalls : executed.close.world.calls = w.calls ++ [call] := hunrecorded.calls
    have hkept (hfirst : first.calls <+: w.calls) (hlast : w.calls ++ [call] <+: last.calls) :
        KeepsOthers chunk first started.world executed.world :=
      Invocation.across_execute (h w.calls call w.files hfirst hlast) charset started
    have hclosed : OthersKept chunk first last w executed.close.world :=
      { calls := hcalls ▸ List.prefix_append _ _
        others := fun hfirst hlast => hkept hfirst (hcalls ▸ hlast) }
    exact hclosed

theorem stepKeeps_othersKept (h : SparesOthers ctx chunk first last) :
    StepKeeps ctx (fun _ => True) (OthersKept chunk first last) where
  files _ _ hfiles := hfiles.quiet.othersKept
  tell message _ := (quiet_tell ctx message).mono fun _ _ hquiet => hquiet.othersKept
  run := othersKept_run h

theorem othersKept_announce (job : Job) (messages : List Message) (compiled : CompiledItems) :
    Keeps (OthersKept chunk first last) (announce ctx builder chunk job messages compiled) := by
  have htold : Keeps (OthersKept chunk first last) (messages.forM (tell ctx)) :=
    (quiet_tellAll ctx messages).mono fun _ _ hquiet => hquiet.othersKept
  unfold announce
  cases builder.role with
  | stubs => exact Keeps.bind (fun w => .of_eq rfl (sameOthers_setState _ _ w)) fun _ => htold
  | classes =>
    refine Keeps.bind htold fun _ => (steady_registerRound ctx _ _ _).mono fun v w hsteady => ?_
    exact .of_eq hsteady.calls (.of_session hsteady.session)

/-- However a round ends, it changes the state of no other chunk, if the compiler does not. -/
theorem othersKept_round (h : SparesOthers ctx chunk first last) (dirty : DirtyFiles) :
    Keeps (OthersKept chunk first last) (round ctx builder chunk dirty) := by
  have hown (state : World → ChunkState) (w : World) : OthersKept chunk first last w
      { w with session := w.session.setState chunk (state w) } :=
    .of_eq rfl (sameOthers_setState _ _ w)
  refine keeps_round_of_steps (stepKeeps_othersKept h) (hown _) (fun _ => hown _) (fun w => ?_)
    othersKept_announce dirty
  rw [run_clearMarker]
  cases builder.role with
  | stubs => exact .refl w
  | classes => exact .of_eq rfl (sameOthers_setState chunk _ w)

-- ---------------------------------------------------------------------------
-- Passes
-- ---------------------------------------------------------------------------

/-- A relation between worlds that every round of a chunk keeps, and whatever is done between
rounds. -/
structure PassKeeps (rounds : Rounds) (chunk : Chunk) (R : World → World → Prop) : Prop where
  round : ∀ role dirty, Keeps R (rounds.run role chunk dirty)
  tracker : ∀ (w : World) (tracker : RoundTracker), R w { w with tracker }
  noted : ∀ (entries : List JournalEntry) (w : World), R w (noted entries w)
  print : ∀ text, Keeps R (print text)

section
variable {R : World → World → Prop} [Std.Refl R] [IsTrans World R] {rounds : Rounds}
variable (h : PassKeeps rounds chunk R)
include h

theorem keeps_pass (dirty : DirtyFiles) : Keeps R (pass rounds chunk dirty) := by
  have hrecorded (role : Role) : Keeps R (recordedRound rounds role chunk dirty) := by
    refine Keeps.bind Keeps.get fun before => Keeps.bind (h.noted _) fun _ => ?_
    refine Keeps.bind (h.round role dirty) fun verdict => Keeps.bind Keeps.get fun after => ?_
    exact Keeps.bind (h.noted _) fun _ => Keeps.pure _
  refine Keeps.bind (fun w => h.tracker w _) fun _ => Keeps.bind (hrecorded .stubs) fun first => ?_
  split
  · exact Keeps.pure _
  · exact Keeps.pure _
  · exact hrecorded .classes

theorem keeps_warnAbout (text : String) : Keeps R (warnAbout chunk text) :=
  Keeps.bind (keeps_chunkName chunk) fun _ => h.print _

/-- However the passes end, they keep what rounds keep. -/
theorem keeps_passes (sources : DirtyFiles) (left : Nat) (rebuilt : Bool) (dirty : DirtyFiles) :
    Keeps R (passes rounds chunk sources left rebuilt dirty) := by
  induction left generalizing rebuilt dirty with
  | zero => exact Keeps.bind (keeps_warnAbout h _) fun _ => Keeps.pure _
  | succ left ih =>
    refine Keeps.bind (keeps_pass h dirty) fun verdict => ?_
    cases verdict with
    | ok => exact Keeps.pure _
    | nothingDone => exact Keeps.pure _
    | abort => exact Keeps.pure _
    | chunkRebuildRequired =>
      cases rebuilt with
      | true => exact Keeps.bind (keeps_warnAbout h _) fun _ => Keeps.pure _
      | false => exact Keeps.bind (fun w => h.tracker w _) fun _ => ih true sources
    | additionalPassRequired =>
      refine Keeps.bind ?_ fun scheduled => ih rebuilt scheduled
      exact Keeps.bind Keeps.get fun w => Keeps.bind (fun w => h.tracker w _) fun _ => Keeps.pure _

end

theorem passKeeps_othersKept (h : SparesOthers ctx chunk first last) :
    PassKeeps (.ofBuilders ctx stubs classes) chunk (OthersKept chunk first last) where
  round role dirty := by
    cases role with
    | stubs => exact othersKept_round h dirty
    | classes => exact othersKept_round h dirty
  tracker w tracker := .of_eq rfl (.of_session rfl)
  noted entries w := .of_eq rfl (.of_session rfl)
  print text := (quiet_print text).mono fun _ _ hquiet => hquiet.othersKept

-- ---------------------------------------------------------------------------
-- Whole chunks
-- ---------------------------------------------------------------------------

/-- The chunk is done with: the flag of forced recompilation is what it was before, the session has
no state of the chunk, and of every other chunk the state it had. -/
structure CleanedUp (chunk : Chunk) (before after : World) : Prop where
  forced : after.tracker.forced = before.tracker.forced
  forgotten : after.session.state? chunk = none
  others : SameOthers chunk before after

/-- However its passes end, a chunk is cleaned up after. -/
theorem cleanedUp_buildChunk {sources : DirtyFiles}
    (hsources : chunkSources ctx chunk w = (.ok sources, w))
    (hspares : SparesOthers ctx chunk w
      (buildChunk ctx (.ofBuilders ctx stubs classes) chunk w).2) :
    CleanedUp chunk w (buildChunk ctx (.ofBuilders ctx stubs classes) chunk w).2 := by
  rw [run_buildChunk hsources] at hspares ⊢
  have hkeeps : PassKeeps (.ofBuilders ctx stubs classes) chunk (OthersKept chunk w _) :=
    passKeeps_othersKept hspares
  have hpassed := keeps_passes hkeeps sources maxRounds false sources w
  refine ⟨rfl, ?_, ?_⟩
  · exact (Session.state?_finish _ _ _).trans (if_pos rfl)
  · intro other hne
    refine (Session.state?_finish _ _ _).trans ?_
    rw [if_neg hne]
    exact hpassed.others (List.prefix_refl _) (List.prefix_refl _) (.of_session rfl) other hne

-- ---------------------------------------------------------------------------
-- Many chunks
-- ---------------------------------------------------------------------------

/-- Chunks built one after another in one session, however the building of each ends. In between
anything may happen that leaves the session and the flag alone. -/
inductive BuiltInTurn (ctx : Context) (stubs classes : Builder) :
    List Chunk → World → World → Prop where
  | nil (w : World) : BuiltInTurn ctx stubs classes [] w w
  | build {chunks : List Chunk} {v w : World} (h : BuiltInTurn ctx stubs classes chunks v w)
      (chunk : Chunk) (hspares : SparesOthers ctx chunk w
        (buildChunk ctx (.ofBuilders ctx stubs classes) chunk w).2) :
      BuiltInTurn ctx stubs classes (chunks ++ [chunk]) v
        (buildChunk ctx (.ofBuilders ctx stubs classes) chunk w).2
  | between {chunks : List Chunk} {u v w : World} (h : BuiltInTurn ctx stubs classes chunks u v)
      (hsession : w.session = v.session) (hforced : w.tracker.forced = v.tracker.forced) :
      BuiltInTurn ctx stubs classes chunks u w

/-- A chunk that has no state has none after any chunk was built, and the flag is what it was. -/
theorem fresh_buildChunk {other : Chunk}
    (hspares : SparesOthers ctx chunk w
      (buildChunk ctx (.ofBuilders ctx stubs classes) chunk w).2)
    (hother : w.session.state? other = none) :
    (buildChunk ctx (.ofBuilders ctx stubs classes) chunk w).2.session.state? other = none ∧
      (buildChunk ctx (.ofBuilders ctx stubs classes) chunk w).2.tracker.forced =
        w.tracker.forced := by
  cases hsources : chunkSources ctx chunk w with
  | mk found u =>
    have hsame := (unchanged_chunkSources ctx chunk).of_eq hsources
    subst hsame
    cases found with
    | error failure =>
      have hfailed : buildChunk ctx (.ofBuilders ctx stubs classes) chunk w =
          (.error failure, w) := run_bind_of_error hsources
      rw [hfailed]
      exact ⟨hother, rfl⟩
    | ok sources =>
      have hcleaned := cleanedUp_buildChunk hsources hspares
      refine ⟨?_, hcleaned.forced⟩
      by_cases hids : other.ids = chunk.ids
      · have hforgotten := hcleaned.forgotten
        unfold Session.state? at hforgotten ⊢
        rwa [hids]
      · exact (hcleaned.others other hids).trans hother

theorem fresh_in_turn {front : List Chunk} {other : Chunk}
    (h : BuiltInTurn ctx stubs classes front v w) (hother : v.session.state? other = none) :
    w.session.state? other = none ∧ w.tracker.forced = v.tracker.forced := by
  induction h with
  | nil w => exact ⟨hother, rfl⟩
  | build h chunk hspares ih =>
    obtain ⟨hfresh, hforced⟩ := ih hother
    obtain ⟨hfresh', hforced'⟩ := fresh_buildChunk hspares hfresh
    exact ⟨hfresh', hforced'.trans hforced⟩
  | between h hsession hforced ih =>
    obtain ⟨hfresh, hkept⟩ := ih hother
    exact ⟨hsession ▸ hfresh, hforced.trans hkept⟩

/-- Once its sources are found, a chunk is cleaned up after, however its passes end and whatever
the compiler does but to change what is known of other chunks. So of chunks that are built in turn
each starts with no stub known, unmarked, with no rebuild ordered, and under the same flag. -/
theorem buildChunk_cleans_up (ctx : Context) (stubs classes : Builder) :
    (∀ chunk sources w, chunkSources ctx chunk w = (.ok sources, w) →
      SparesOthers ctx chunk w (buildChunk ctx (.ofBuilders ctx stubs classes) chunk w).2 →
      CleanedUp chunk w (buildChunk ctx (.ofBuilders ctx stubs classes) chunk w).2) ∧
    ∀ front chunk v w, BuiltInTurn ctx stubs classes front v w →
      v.session.state? chunk = none →
      w.session.state? chunk = none ∧ w.session.state chunk = {} ∧
        w.tracker.forced = v.tracker.forced := by
  constructor
  · intro chunk sources w hsources hspares
    exact cleanedUp_buildChunk hsources hspares
  · intro front chunk v w hbuilt hnone
    obtain ⟨hfresh, hforced⟩ := fresh_in_turn hbuilt hnone
    refine ⟨hfresh, ?_, hforced⟩
    rw [Session.state, hfresh]
    rfl

theorem buildChunk_cleans_up_again :
    CleanedUp soleChunk soleWorld (buildChunk schedulingContext (.ofBuilders schedulingContext
        (inProcessBuilder .stubs) (inProcessBuilder .classes)) soleChunk soleWorld).2 ∧
      (buildChunk schedulingContext (.ofBuilders schedulingContext (inProcessBuilder .stubs)
        (inProcessBuilder .classes)) soleChunk soleWorld).2.session.state soleChunk = {} := by
  have hspares (first last : World) : SparesOthers schedulingContext soleChunk first last := by
    intro calls call files _ _ action haction v w heffect hsame
    simp only [schedulingContext] at haction
    split at haction
    · obtain rfl := List.mem_singleton.mp haction
      cases heffect with
      | schedule hscheduled =>
        cases hscheduled
        exact hsame.trans (sameOthers_setState soleChunk _ _)
      | unscheduled => exact hsame
    · cases haction
  obtain ⟨hcleans, hfresh⟩ := buildChunk_cleans_up schedulingContext (inProcessBuilder .stubs)
    (inProcessBuilder .classes)
  constructor
  · exact hcleans soleChunk [(soleTarget.toTargetId, soleSource)] soleWorld
      (Prod.ext (ok_of_toOption (by decide +kernel)) (unchanged_chunkSources _ _ soleWorld).symm)
      (hspares _ _)
  · exact (hfresh _ soleChunk soleWorld _ (.build (.nil soleWorld) soleChunk (hspares _ _))
      rfl).2.1

-- ---------------------------------------------------------------------------
-- The chunks of a command
-- ---------------------------------------------------------------------------

/-- A command builds its chunks in turn, up to one that is not built. -/
theorem builtInTurn_buildChunks {done chunks : List Chunk} {result : Except Failure Bool}
    (hspares : ∀ chunk ∈ chunks, ∀ first last, SparesOthers ctx chunk first last)
    (hdone : BuiltInTurn ctx stubs classes done first w)
    (h : CommandLine.buildChunks ctx stubs classes chunks w = (result, v)) :
    ∃ front, front <+: chunks ∧ BuiltInTurn ctx stubs classes (done ++ front) first v := by
  induction chunks generalizing done w with
  | nil =>
    cases h
    exact ⟨[], List.prefix_refl _, (List.append_nil done).symm ▸ hdone⟩
  | cons chunk chunks ih =>
    let told : World :=
      { w with console := w.console ++ [Console.line ("Compiling " ++ chunk.shortName ++ "...")] }
    have htold : BuiltInTurn ctx stubs classes done first told := hdone.between rfl rfl
    have hbuilt := htold.build chunk (hspares chunk List.mem_cons_self _ _)
    have hstep : CommandLine.buildChunks ctx stubs classes (chunk :: chunks) w =
        (do if ← buildChunk ctx (.ofBuilders ctx stubs classes) chunk
              then CommandLine.buildChunks ctx stubs classes chunks else return false) told := rfl
    rw [hstep, run_bind] at h
    have hsingle : [chunk] <+: chunk :: chunks := List.prefix_append [chunk] chunks
    cases hrun : buildChunk ctx (.ofBuilders ctx stubs classes) chunk told with
    | mk built x =>
      rw [hrun] at h hbuilt
      cases built with
      | error failure =>
        cases h
        exact ⟨[chunk], hsingle, hbuilt⟩
      | ok success =>
        cases success with
        | false =>
          cases h
          exact ⟨[chunk], hsingle, hbuilt⟩
        | true =>
          obtain ⟨front, hfront, hall⟩ :=
            ih (fun other hother => hspares other (List.mem_cons_of_mem _ hother)) hbuilt h
          refine ⟨chunk :: front, List.cons_prefix_cons.mpr ⟨rfl, hfront⟩, ?_⟩
          rwa [List.append_assoc] at hall

end Build

end GroovyRounds
