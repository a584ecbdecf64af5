import GroovyRounds.Proofs.Build.Passes

/-!
# Scheduled sources are compiled

A source that is scheduled while a round lasts waits in the tracker, and the
marker of its chunk tells that it does. The two are cleared in different
places. While the chunk is being built they stay together all the same
(`Awaits`): what is new in the tracker has set the marker. So a round that ends
well without the marker has scheduled nothing, and in a chunk that was built
every source that a round scheduled is dirty in a later round
(`dirty_later_of_scheduled`).
-/

namespace GroovyRounds

-- ---------------------------------------------------------------------------
-- Waiting for the next round
-- ---------------------------------------------------------------------------

/-- What waits for the next round, and whether the chunk is marked for it. -/
abbrev Waiting := RoundTracker × ChunkState

/-- Nothing that waited is lost, the marker stays, and what is new has set it. -/
structure Awaits (before after : Waiting) : Prop where
  next : ∀ source ∈ before.1.next, source ∈ after.1.next
  marked : before.2.marked = true → after.2.marked = true
  fresh : ∀ source ∈ after.1.next, source ∈ before.1.next ∨ after.2.marked = true

namespace Awaits

variable {a b c : Waiting}

theorem refl (a : Waiting) : Awaits a a :=
  ⟨fun _ h => h, fun h => h, fun _ h => .inl h⟩

theorem trans (h : Awaits a b) (h' : Awaits b c) : Awaits a c where
  next source hs := h'.next source (h.next source hs)
  marked hm := h'.marked (h.marked hm)
  fresh source hs := by
    rcases h'.fresh source hs with hb | hm
    · rcases h.fresh source hb with ha | hm
      · exact .inl ha
      · exact .inr (h'.marked hm)
    · exact .inr hm

theorem schedule (tracker : RoundTracker) (state : ChunkState) (source : Path) :
    Awaits (tracker, state) (tracker.schedule source, { state with marked := true }) where
  next _ hs := RoundTracker.mem_next_schedule.mpr (.inl hs)
  marked _ := rfl
  fresh _ _ := .inr rfl

end Awaits

theorem awaits_scheduleDue (ctx : Context) (compiled : Option String) (tracker : RoundTracker)
    (state : ChunkState) : Awaits (tracker, state) (scheduleDue ctx compiled tracker state) := by
  unfold scheduleDue
  split
  · exact Awaits.schedule _ _ _
  · exact Awaits.refl _

-- ---------------------------------------------------------------------------
-- Marking a chunk
-- ---------------------------------------------------------------------------

/-- What waits for the next round of a chunk. -/
def World.waiting (w : World) (chunk : Chunk) : Waiting :=
  (w.tracker, w.session.state chunk)

/-- The journal was left alone, and what was scheduled has marked the chunk. -/
structure Marks (chunk : Chunk) (before after : World) : Prop where
  journal : after.journal = before.journal
  awaits : Awaits (before.waiting chunk) (after.waiting chunk)

namespace Marks

variable {chunk : Chunk} {u v w : World}

theorem refl (chunk : Chunk) (w : World) : Marks chunk w w :=
  ⟨rfl, Awaits.refl _⟩

theorem trans (h : Marks chunk u v) (h' : Marks chunk v w) : Marks chunk u w :=
  ⟨h'.journal.trans h.journal, h.awaits.trans h'.awaits⟩

instance : Std.Refl (Marks chunk) := ⟨refl chunk⟩

instance : IsTrans World (Marks chunk) := ⟨fun _ _ _ => trans⟩

end Marks

theorem Steady.marks {v w : World} (h : Steady v w) (chunk : Chunk) : Marks chunk v w where
  journal := h.journal
  awaits := by
    refine ⟨?_, ?_, ?_⟩
    · simp [World.waiting, h.next]
    · simp [World.waiting, h.session]
    · simp only [World.waiting, h.next]
      exact fun _ hs => .inl hs

-- ---------------------------------------------------------------------------
-- While the compiler runs
-- ---------------------------------------------------------------------------

/-- What others do while the compiler runs, they do about this chunk. -/
def CompilerAction.Concerns (chunk : Chunk) : CompilerAction → Prop
  | .postProcess other _ => other.ids = chunk.ids
  | .schedule other _ => other.ids = chunk.ids
  | _ => True

section
variable {ctx : Context} {chunk other : Chunk} {v w : World}

theorem state_eq_of_ids (h : other.ids = chunk.ids) (session : Session) :
    session.state other = session.state chunk := by
  simp [Session.state, Session.state?, h]

theorem setState_eq_of_ids (h : other.ids = chunk.ids) (session : Session)
    (state : ChunkState) : session.setState other state = session.setState chunk state := by
  simp [Session.setState, h]

theorem marks_postProcess (h : other.ids = chunk.ids) (compiled : Option String) (w : World) :
    Marks chunk w (w.postProcess ctx other compiled) := by
  have hfold (n : List Nat) (a : Waiting) :
      Awaits a (n.foldl (fun pair _ => scheduleDue ctx compiled pair.1 pair.2) a) := by
    induction n generalizing a with
    | nil => exact Awaits.refl a
    | cons _ n ih => exact (awaits_scheduleDue ctx compiled a.1 a.2).trans (ih _)
  refine ⟨rfl, ?_⟩
  have hall := hfold (List.range w.session.processors) (w.waiting chunk)
  simp only [World.postProcess, state_eq_of_ids h, setState_eq_of_ids h]
  simpa [World.waiting] using hall

theorem marks_schedule (h : other.ids = chunk.ids) {source : Path}
    (hw : v.schedule? ctx other source = some w) : Marks chunk v w := by
  obtain rfl := World.eq_of_schedule? hw
  refine ⟨rfl, ?_⟩
  simp only [state_eq_of_ids h, setState_eq_of_ids h]
  simpa [World.waiting] using Awaits.schedule v.tracker (v.session.state chunk) source

/-- Whatever an action does, it marks the chunk for what it schedules. -/
theorem marks_effect {action : CompilerAction} (hconcerns : action.Concerns chunk)
    (h : ActionEffect ctx action v w) : Marks chunk v w := by
  cases h with
  | emit stream text => exact Marks.refl chunk v
  | write p content => exact ⟨rfl, Awaits.refl _⟩
  | remove p => exact ⟨rfl, Awaits.refl _⟩
  | postProcess other compiled => exact marks_postProcess hconcerns compiled v
  | schedule hw => exact marks_schedule hconcerns hw
  | unscheduled other source => exact Marks.refl chunk v

end

-- ---------------------------------------------------------------------------
-- One round
-- ---------------------------------------------------------------------------

namespace Build

open Program

variable {ctx : Context} {builder stubs classes : Builder} {chunk : Chunk} {u v w : World}

/-- A state of the chunk that is marked like the one before it. -/
theorem marks_setState {state : ChunkState} (h : state.marked = (w.session.state chunk).marked) :
    Marks chunk w { w with session := w.session.setState chunk state } := by
  refine ⟨rfl, fun _ hs => hs, ?_, fun _ hs => .inl hs⟩
  simp [World.waiting, h]

theorem marked_escalate (state : ChunkState) (shouldRetry forced : Bool) :
    (state.escalate shouldRetry forced).2.marked = state.marked := by
  unfold ChunkState.escalate
  split
  · rfl
  · split <;> rfl

theorem marks_escalated (shouldRetry : Bool) (w : World) :
    Marks chunk w (escalated chunk shouldRetry w) :=
  marks_setState (marked_escalate _ _ _)

theorem marked_rememberStubs (items : List OutputItem) (state : ChunkState) :
    (state.rememberStubs items).marked = state.marked := rfl

theorem marks_withStubs (outputs : Outputs) (compiled : CompiledItems) (w : World) :
    Marks chunk w (withStubs chunk outputs compiled w) :=
  ⟨rfl, (marks_setState (marked_rememberStubs compiled.values.flatten _)).awaits⟩

section
variable (hconcerns : ∀ calls call files, ∀ action ∈ (ctx.compiler calls call files).actions,
  action.Concerns chunk)
include hconcerns

theorem marks_runCompiler {invocation : Invocation} {parameters : List String}
    {reported : CompilerOutput}
    (h : runCompiler ctx chunk invocation parameters w = (.ok reported, v)) :
    Marks chunk w v := by
  have hacross : Across ctx (Marks chunk) (invocation.program ctx parameters w).actions :=
    fun action haction _ _ heffect => marks_effect (hconcerns _ _ _ action haction) heffect
  obtain ⟨u, hu, hquiet, -⟩ := runCompiler_cases hacross h
  have hstart : Marks chunk w { w with calls := w.calls ++ [invocation.call parameters w] } :=
    ⟨rfl, Awaits.refl _⟩
  have hclose : Marks chunk u { u with outputs := u.outputs ++ [reported] } :=
    ⟨rfl, Awaits.refl _⟩
  exact ((hstart.trans hu).trans hclose).trans (hquiet.marks chunk)

/-- A job that ends well without another pass has left nothing marked. -/
theorem marks_runJob {job : Job} {verdict : Verdict}
    (h : runJob ctx builder chunk job w = (.ok verdict, v)) :
    Marks chunk w v ∧ verdict ≠ .nothingDone ∧
      (verdict = .ok → (v.session.state chunk).needsRound builder.role = false) := by
  obtain ⟨invocation, reported, compiled, t, u, -, hrun, hreconcile, hend⟩ := runJob_cases h
  have hquiet := (quiet_reconcileRun _ _ _ _ _ _).of_eq hreconcile
  have hbefore : Marks chunk w (escalated chunk reported.shouldRetry u) :=
    ((marks_runCompiler hconcerns hrun).trans (hquiet.marks chunk)).trans (marks_escalated _ u)
  rcases hend with ⟨rfl, rfl⟩ | ⟨hannounce, rfl⟩
  · exact ⟨hbefore, nofun, nofun⟩
  · refine ⟨hbefore.trans ?_, ?_, ?_⟩
    · rcases announce_cases hannounce with ⟨-, htell⟩ | ⟨-, told, htell, hregister⟩
      · have htold := (quiet_tellAll ctx _).of_eq htell
        exact (marks_withStubs _ _ _).trans (htold.marks chunk)
      · have htold := (quiet_tellAll ctx _).of_eq htell
        have hregistered := (steady_registerRound ctx _ _ _).of_eq hregister
        exact (htold.marks chunk).trans (hregistered.marks chunk)
    · split <;> simp
    · split <;> simp_all

omit hconcerns in
/-- A round that is decided well has nothing marked. -/
theorem needsRound_of_decided {dirty : DirtyFiles} {verdict : Verdict}
    (h : openRound ctx builder chunk dirty w = (.ok (.decided verdict), u))
    (hverdict : verdict = .ok ∨ verdict = .nothingDone) :
    (u.session.state chunk).needsRound builder.role = false := by
  rcases openRound_cases h with ⟨-, rfl, hdecided⟩ | ⟨-, ⟨-, hdecided⟩ | ⟨_, -, hdue⟩⟩
  · cases hdecided
    split at hverdict
    · simp at hverdict
    · simp_all
  · cases hdecided
    simp at hverdict
  · cases hdue

/-- What a round schedules has marked the chunk by the time the round tidies up. -/
theorem marks_round {dirty : DirtyFiles} {verdict : Verdict}
    (h : round ctx builder chunk dirty w = (.ok verdict, v)) :
    ∃ u, Marks chunk w u ∧ v = cleared builder.role chunk u ∧
      (verdict = .ok ∨ verdict = .nothingDone →
        (u.session.state chunk).needsRound builder.role = false) := by
  obtain ⟨opening, u, hopen, hend⟩ := round_cases h
  have hstated : Marks chunk w (stated chunk w) := marks_setState rfl
  have hopened : Marks chunk w u :=
    hstated.trans (((quiet_openRound _ _ _ _).of_eq hopen).marks chunk)
  rcases hend with ⟨rfl, rfl⟩ | ⟨files, finals, job, s, t, -, hprepare, hjob, htidy⟩
  · exact ⟨u, hopened, rfl, needsRound_of_decided hopen⟩
  · obtain ⟨t', ht', rfl⟩ := tidyUp_cases htidy
    have hprepared := ((quiet_prepare _ _ _ _ _).of_eq hprepare).marks chunk
    obtain ⟨hran, hnothing, hok⟩ := marks_runJob hconcerns hjob
    refine ⟨t', ((hopened.trans hprepared).trans hran).trans (ht'.marks chunk), rfl, ?_⟩
    rintro (rfl | rfl)
    · rw [ht'.session]
      exact hok rfl
    · exact absurd rfl hnothing

/-- A recorded round: what it leaves scheduled has marked the chunk. Only a round of classes
clears the marker, and only after it looked at it. -/
theorem recordedRound_awaits {rounds : Rounds} {role : Role} {dirty : DirtyFiles}
    {verdict : Verdict} (hrole : builder.role = role)
    (hrun : rounds.run role chunk dirty = round ctx builder chunk dirty)
    (h : recordedRound rounds role chunk dirty w = (.ok verdict, v)) :
    ∃ (record : RoundRecord) (state : ChunkState),
      record.dirty = dirty ∧ record.opened = w.tracker ∧ record.closed = v.tracker ∧
      v.journal = w.journal ++ record.entries ∧
      Awaits (w.waiting chunk) (v.tracker, state) ∧
      (role = .stubs → v.session.state chunk = state) ∧
      (verdict = .ok ∨ verdict = .nothingDone → state.needsRound role = false) := by
  obtain ⟨u, hround, rfl⟩ := recordedRound_cases h
  rw [hrun] at hround
  obtain ⟨t, hmarks, rfl, hverdict⟩ := marks_round hconcerns hround
  rw [hrole] at hverdict ⊢
  have hcleared : (cleared role chunk t).tracker = t.tracker ∧
      (cleared role chunk t).journal = t.journal ∧
      (cleared role chunk t).outputs = t.outputs := by
    cases role <;> exact ⟨rfl, rfl, rfl⟩
  obtain ⟨htracker, hjournal, houtputs⟩ := hcleared
  refine ⟨⟨role, dirty, w.tracker, verdict, t.tracker, t.outputs.drop w.outputs.length⟩,
    t.session.state chunk, rfl, rfl, htracker.symm, ?_, ?_, ?_, hverdict⟩
  · simp [noted, RoundRecord.entries, hjournal, hmarks.journal, htracker, houtputs]
  · rw [show (noted _ (cleared role chunk t)).tracker = t.tracker from htracker]
    exact hmarks.awaits
  · rintro rfl
    rfl

end

-- ---------------------------------------------------------------------------
-- Passes
-- ---------------------------------------------------------------------------

/-- What a round schedules among the sources is dirty in a later one. -/
def NoneLost (sources : DirtyFiles) (records : List RoundRecord) : Prop :=
  ∀ before record after, records = before ++ record :: after →
    ∀ source ∈ sources.map (·.2), record.schedules source →
      ∃ later ∈ after, source ∈ later.dirty.map (·.2)

theorem NoneLost.cons {sources : DirtyFiles} {record : RoundRecord} {records : List RoundRecord}
    (hfirst : ∀ source ∈ sources.map (·.2), record.schedules source →
      ∃ later ∈ records, source ∈ later.dirty.map (·.2))
    (h : NoneLost sources records) : NoneLost sources (record :: records) := by
  intro before found after heq
  cases before with
  | nil =>
    cases heq
    exact hfirst
  | cons other before =>
    cases heq
    exact h before found after rfl

/-- Rounds whose schedule the next ones take up. -/
theorem NoneLost.append {sources : DirtyFiles} {earlier records : List RoundRecord}
    (hearlier : ∀ record ∈ earlier, ∀ source ∈ sources.map (·.2), record.schedules source →
      ∃ later ∈ records, source ∈ later.dirty.map (·.2))
    (h : NoneLost sources records) : NoneLost sources (earlier ++ records) := by
  induction earlier with
  | nil => exact h
  | cons record earlier ih =>
    refine NoneLost.cons (fun source hs hsched => ?_)
      (ih fun other hother => hearlier other (List.mem_cons_of_mem _ hother))
    obtain ⟨later, hlater, hdirty⟩ := hearlier record List.mem_cons_self source hs hsched
    exact ⟨later, List.mem_append_right _ hlater, hdirty⟩

variable (hstubs : stubs.role = .stubs) (hclasses : classes.role = .classes)
variable (hconcerns : ∀ calls call files, ∀ action ∈ (ctx.compiler calls call files).actions,
  action.Concerns chunk)
include hstubs hclasses hconcerns

/-- What the rounds of a pass leave scheduled waits at its end, and a pass that ends well has
scheduled nothing. -/
theorem pass_awaits {dirty : DirtyFiles} {verdict : Verdict}
    (h : pass (.ofBuilders ctx stubs classes) chunk dirty w = (.ok verdict, v)) :
    ∃ first rest, v.journal = w.journal ++ (first :: rest).flatMap RoundRecord.entries ∧
      first.dirty = dirty ∧
      ∀ record ∈ first :: rest, ∀ source, record.schedules source →
        source ∈ v.tracker.next ∧ verdict ≠ .ok ∧ verdict ≠ .nothingDone := by
  obtain ⟨firstVerdict, u, hfirst, hend⟩ := pass_cases h
  obtain ⟨first, state, hdirty, hopened, hclosed, hjournal, hawaits, hstate, -⟩ :=
    recordedRound_awaits hconcerns hstubs rfl hfirst
  rcases hend with ⟨rfl, rfl, hended⟩ | ⟨-, hsecond⟩
  · refine ⟨first, [], by simpa [begun] using hjournal, hdirty, fun record hr source hs => ?_⟩
    obtain rfl := List.mem_singleton.mp hr
    refine ⟨hclosed ▸ hs.1, ?_⟩
    rcases hended with rfl | rfl <;> exact ⟨nofun, nofun⟩
  · obtain ⟨second, state', -, hopened', hclosed', hjournal', hawaits', -, hverdict⟩ :=
      recordedRound_awaits hconcerns hclasses rfl hsecond
    refine ⟨first, [second], ?_, hdirty, fun record hr source hs => ?_⟩
    · rw [hjournal', hjournal]
      simp [begun]
    · have hwaits : source ∈ v.tracker.next ∧ state'.marked = true := by
        simp only [List.mem_cons, List.not_mem_nil, or_false] at hr
        rcases hr with rfl | rfl
        · obtain ⟨hclosedNext, hopenedNext⟩ := hs
          rw [hclosed] at hclosedNext
          rw [hopened] at hopenedNext
          have hmarked := (hawaits.fresh source hclosedNext).resolve_left hopenedNext
          rw [← hstate rfl] at hmarked
          exact ⟨hawaits'.next source hclosedNext, hawaits'.marked hmarked⟩
        · obtain ⟨hclosedNext, hopenedNext⟩ := hs
          rw [hclosed'] at hclosedNext
          rw [hopened'] at hopenedNext
          exact ⟨hclosedNext, (hawaits'.fresh source hclosedNext).resolve_left hopenedNext⟩
      refine ⟨hwaits.1, ?_, ?_⟩
      · rintro rfl
        simpa [ChunkState.needsRound, hwaits.2] using hverdict (.inl rfl)
      · rintro rfl
        simpa [ChunkState.needsRound, hwaits.2] using hverdict (.inr rfl)

/-- The passes of a chunk that was built lose no source. -/
theorem passes_noneLost {sources dirty : DirtyFiles} {left : Nat} {rebuilt : Bool}
    (h : passes (.ofBuilders ctx stubs classes) chunk sources left rebuilt dirty w =
      (.ok true, v)) :
    ∃ first rest, v.journal = w.journal ++ (first :: rest).flatMap RoundRecord.entries ∧
      first.dirty = dirty ∧ NoneLost sources (first :: rest) := by
  -- each pass hands what it left scheduled to the first round of the next one
  induction left generalizing rebuilt dirty w with
  | zero =>
    obtain ⟨_, _, _, hleft, -⟩ := passes_cases h
    cases hleft
  | succ left ih =>
    obtain ⟨_, verdict, u, hleft, hpass, hend⟩ := passes_cases h
    cases hleft
    obtain ⟨first, rest, hjournal, hdirty, hwaits⟩ := pass_awaits hstubs hclasses hconcerns hpass
    rcases hend with ⟨hdone, rfl⟩ | ⟨rfl, -, hnext⟩ | ⟨rfl, hnext⟩
    · refine ⟨first, rest, hjournal, hdirty, ?_⟩
      rw [← List.append_nil (first :: rest)]
      refine NoneLost.append (fun record hr source _ hs => ?_) (fun before _ _ heq => ?_)
      · obtain ⟨-, hok, hnothing⟩ := hwaits record hr source hs
        rcases hdone with rfl | rfl
        · exact absurd rfl hok
        · exact absurd rfl hnothing
      · simp at heq
    · obtain ⟨first', rest', hjournal', hdirty', hnone⟩ := ih hnext
      refine ⟨first, rest ++ first' :: rest', ?_, hdirty, ?_⟩
      · rw [hjournal']
        simp [enforced, hjournal]
      · rw [← List.cons_append]
        refine NoneLost.append (fun record hr source hsource _ => ?_) hnone
        exact ⟨first', List.mem_cons_self, hdirty' ▸ hsource⟩
    · obtain ⟨first', rest', hjournal', hdirty', hnone⟩ := ih hnext
      refine ⟨first, rest ++ first' :: rest', ?_, hdirty, ?_⟩
      · rw [hjournal']
        simp [advanced, hjournal]
      · rw [← List.cons_append]
        refine NoneLost.append (fun record hr source hsource hs => ?_) hnone
        refine ⟨first', List.mem_cons_self, ?_⟩
        obtain ⟨⟨target, p⟩, hmem, rfl⟩ := List.mem_map.mp hsource
        rw [hdirty']
        refine List.mem_map.mpr ⟨(target, p), List.mem_filter.mpr ⟨hmem, ?_⟩, rfl⟩
        simpa using (hwaits record hr p hs).1

omit hstubs hclasses hconcerns

/-- No scheduled source is lost: in a chunk that was built, each of its sources that one of its
rounds scheduled, whether the compiler, the classes of the other one or anyone else made it
due, is dirty in a later round. -/
theorem dirty_later_of_scheduled (ctx : Context) (stubs classes : Builder) (chunk : Chunk)
    (w v : World) (hstubs : stubs.role = .stubs) (hclasses : classes.role = .classes)
    (hconcerns : ∀ calls call files, ∀ action ∈ (ctx.compiler calls call files).actions,
      action.Concerns chunk)
    (h : buildChunk ctx (.ofBuilders ctx stubs classes) chunk w = (.ok true, v)) :
    ∃ sources records, chunkSources ctx chunk w = (.ok sources, w) ∧
      v.journal = w.journal ++ records.flatMap RoundRecord.entries ++ [.finished] ∧
      ∀ before record after, records = before ++ record :: after →
        ∀ source ∈ sources.map (·.2), record.schedules source →
          ∃ later ∈ after, source ∈ later.dirty.map (·.2) := by
  obtain ⟨sources, u, hsources, hpasses, rfl⟩ := buildChunk_cases h
  obtain ⟨first, rest, hjournal, -, hnone⟩ :=
    passes_noneLost hstubs hclasses hconcerns hpasses
  refine ⟨sources, first :: rest, hsources, ?_, hnone⟩
  simp only [finished, noted, hjournal]

-- ---------------------------------------------------------------------------
-- A source that is scheduled again
-- ---------------------------------------------------------------------------

/-- A target with one source root. -/
def soleTarget : Target where
  name := .text "core"
  output := some { anchor := .root, names := ["out"] }
  kind := .production
  sdk := none

def soleChunk : Chunk where
  representative := soleTarget
  others := []

def soleSource : Path where
  anchor := .root
  names := ["src", "A.groovy"]

/-- The source is scheduled while its classes are compiled for the first time. -/
def schedulingContext : Context where
  project := {
    dataRoot := { anchor := .root, names := ["data"] }
    sourceRoots := ⟨[(soleTarget.toTargetId, [soleSource.parent])]⟩ }
  tempDirectory := { anchor := .root, names := ["tmp"] }
  searchPath := none
  runner _ _ := .callable
  compiler calls _ _ := {
    actions := if calls.length = 1 then [.schedule soleChunk soleSource] else []
    ending := .returned .null }

/-- A builder that runs the compiler in this process. -/
def inProcessBuilder (role : Role) : Builder where
  role
  settings := { runtimeSupport := { anchor := .root, names := ["groovy.jar"] } }
  launch plan _ _ := .ok (.inProcess plan.fullClasspath plan.outputs)

def soleWorld : World where
  files := {
    nodes := [(["src"], .directory), (["src", "A.groovy"], .file [] false), (["tmp"], .directory)]
    cwd := [] }

theorem dirty_later_of_scheduled_again :
    ∃ v, buildChunk schedulingContext (.ofBuilders schedulingContext (inProcessBuilder .stubs)
        (inProcessBuilder .classes)) soleChunk soleWorld = (.ok true, v) ∧
      ∃ sources records, chunkSources schedulingContext soleChunk soleWorld =
          (.ok sources, soleWorld) ∧
        v.journal = soleWorld.journal ++ records.flatMap RoundRecord.entries ++ [.finished] ∧
        ∀ before record after, records = before ++ record :: after →
          ∀ source ∈ sources.map (·.2), record.schedules source →
            ∃ later ∈ after, source ∈ later.dirty.map (·.2) := by
  have hbuilt : ∃ v, buildChunk schedulingContext (.ofBuilders schedulingContext
      (inProcessBuilder .stubs) (inProcessBuilder .classes)) soleChunk soleWorld =
        (.ok true, v) :=
    Program.eq_ok_of_toOption (by decide +kernel)
  obtain ⟨v, hv⟩ := hbuilt
  refine ⟨v, hv, dirty_later_of_scheduled _ _ _ _ _ v rfl rfl (fun calls _ _ action haction => ?_)
    hv⟩
  simp only [schedulingContext] at haction
  split at haction
  · obtain rfl := List.mem_singleton.mp haction
    rfl
  · cases haction

end Build

end GroovyRounds
