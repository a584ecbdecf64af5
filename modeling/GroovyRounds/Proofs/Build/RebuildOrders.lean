import GroovyRounds.Proofs.Build.Rebuilds
import GroovyRounds.Proofs.Build.RoundEndings
import GroovyRounds.Proofs.Build.UnfinishedRounds
import GroovyRounds.Proofs.Build.Unregistered
import GroovyRounds.Proofs.Compiler.Pieces
import Mathlib.Algebra.Ring.Parity

/-!
# Orders to rebuild

A round is effective if its run came to its end, what was made was moved, an
error line asked to retry and recompilation was not forced. Effective rounds
alone turn the flag of a chunk that a rebuild was ordered, one after another,
whichever builders run them and whatever happens in between. So every second of
them orders a rebuild, from the first one on, and no other round does
(`orders_alternate`).
-/

namespace GroovyRounds

open Program

-- ---------------------------------------------------------------------------
-- What holds of all that is read
-- ---------------------------------------------------------------------------

/-- A property of compiler output that every line taken keeps, however it is read. -/
structure HoldsReading (Q : CompilerOutput → Prop) : Prop where
  initial : Q .initial
  take : ∀ p stream line report, Q p → Q (p.take stream line report)
  pending : ∀ (p : CompilerOutput) pending, Q p → Q { p with pending }
  exitCode : ∀ (p : CompilerOutput) exitCode, Q p → Q { p with exitCode }

namespace CompilerOutput

variable {ε : Type} (refuses : String → Option ε) {Q : CompilerOutput → Prop} {p : CompilerOutput}

theorem holds_takeLine (h : HoldsReading Q) (hp : Q p) (stream : String) (line : List Char) :
    Q (p.takeLine refuses stream line).1 := by
  unfold takeLine
  dsimp only
  split
  · split
    · exact hp
    · exact h.take p stream line (.status _) hp
  · exact h.take p stream _ _ hp

theorem holds_takeLines (h : HoldsReading Q) (hp : Q p) (stream : String)
    (lines : List (List Char)) : Q (p.takeLines refuses stream lines).1 := by
  induction lines generalizing p with
  | nil => exact hp
  | cons line lines ih =>
    have hline := holds_takeLine refuses h hp stream line
    unfold takeLines
    split
    · rename_i htaken
      rwa [htaken] at hline
    · rename_i htaken
      rw [htaken] at hline
      exact ih hline

theorem holds_feed (h : HoldsReading Q) (hp : Q p) (stream text : String) :
    Q (p.feed refuses stream text).1 :=
  holds_takeLines refuses h (h.pending _ _ hp) _ _

theorem holds_flush (h : HoldsReading Q) (hp : Q p) (entries : List (String × List Char)) :
    Q (p.flush refuses entries).1 := by
  induction entries generalizing p with
  | nil => exact hp
  | cons entry entries ih =>
    obtain ⟨stream, rest⟩ := entry
    have hline := holds_takeLine refuses h hp stream rest
    unfold flush
    split
    · exact ih hp
    · split
      · rename_i htaken
        rwa [htaken] at hline
      · rename_i htaken
        rw [htaken] at hline
        exact ih (h.pending _ _ hline)

theorem holds_finish (h : HoldsReading Q) (hp : Q p) (code : Int) :
    Q (p.finish refuses code).1 := by
  have hflush := holds_flush refuses h hp p.pending.entries
  unfold finish
  split
  · rename_i hflushed
    rwa [hflushed] at hflush
  · rename_i hflushed
    rw [hflushed] at hflush
    exact h.exitCode _ _ hflush

end CompilerOutput

namespace Running

variable (ctx : Context) (refuses : Refusal) {Q : CompilerOutput → Prop} {running : Running}

theorem reported_onFiles (action : FileAction Unit) (running : Running) :
    (running.onFiles action).1.reported = running.reported := by
  unfold onFiles
  split <;> rfl

theorem holds_perform (h : HoldsReading Q) (hq : Q running.reported) (action : CompilerAction) :
    Q (running.perform ctx refuses action).1.reported := by
  cases action with
  | emit stream text => exact CompilerOutput.holds_feed refuses h hq stream text
  | write p content =>
    rw [perform, reported_onFiles]
    exact hq
  | remove p =>
    rw [perform, reported_onFiles]
    exact hq
  | postProcess chunk compiled => exact hq
  | schedule chunk source =>
    simp only [perform, schedule]
    split <;> exact hq

theorem holds_performAll (h : HoldsReading Q) (hq : Q running.reported)
    (actions : List CompilerAction) :
    Q (running.performAll ctx refuses actions).1.reported := by
  induction actions generalizing running with
  | nil => exact hq
  | cons action actions ih =>
    have hstep := holds_perform ctx refuses h hq action
    unfold performAll
    split
    · rename_i hperformed
      rwa [hperformed] at hstep
    · rename_i hperformed
      rw [hperformed] at hstep
      exact ih hstep

theorem holds_conclude (h : HoldsReading Q) (hq : Q running.reported) (ending : CompilerEnding) :
    Q (running.conclude refuses ending).1.reported := by
  unfold conclude
  split
  · unfold endReturned
    split
    · exact hq
    · exact CompilerOutput.holds_finish refuses h hq _
  · exact hq
  · rename_i failure _
    have htold := CompilerOutput.holds_feed refuses h hq CompilerOutput.errorStream
      failure.trace
    unfold endFailed
    split
    · rename_i hfed
      exact (congrArg (Q ·.1.reported) hfed).mp htold
    · rename_i hfed
      exact CompilerOutput.holds_finish refuses h ((congrArg (Q ·.1.reported) hfed).mp htold) 1

theorem holds_readStream (h : HoldsReading Q) (hq : Q running.reported) (charset : Charset)
    (stream text : String) : Q (running.readStream refuses charset stream text).1.reported := by
  unfold readStream
  split
  · exact hq
  · exact CompilerOutput.holds_feed refuses h hq _ _

theorem holds_readChild (h : HoldsReading Q) (hq : Q running.reported) (charset : Charset)
    (child : ChildOutput) : Q (running.readChild refuses charset child).1.reported := by
  have hread := holds_readStream refuses h
    (holds_readStream refuses h hq charset CompilerOutput.outputStream child.output)
    charset CompilerOutput.errorStream child.errors
  simp only [readChild]
  split
  · exact hread
  · exact CompilerOutput.holds_finish refuses h hread _

end Running

/-- What holds of all that is read holds of what a run of the compiler reported. -/
theorem Invocation.holds_run {Q : CompilerOutput → Prop} (h : HoldsReading Q) (ctx : Context)
    (invocation : Invocation) (refuses : Running.Refusal) (parameters : List String) (w : World) :
    Q (invocation.run ctx refuses parameters w).1.reported := by
  unfold run
  split
  · exact h.initial
  · rename_i charset _
    cases invocation with
    | inProcess =>
      exact Running.holds_conclude refuses h (Running.holds_performAll ctx refuses h h.initial _) _
    | forked => exact Running.holds_readChild refuses h h.initial charset _

namespace Build

variable {ctx : Context} {builder : Builder} {chunk : Chunk} {dirty : DirtyFiles} {u v w : World}

theorem holds_compileJob {Q : CompilerOutput → Prop} (h : HoldsReading Q) {job : Job}
    {reported : CompilerOutput}
    (hcompile : compileJob ctx builder chunk job w = (.ok reported, v)) : Q reported := by
  obtain ⟨invocation, t, -, hrun⟩ := bind_eq_ok_iff.mp hcompile
  have hread := Invocation.holds_run h ctx invocation
    (fun status => ctx.refuses (statusMessage chunk status)) (programParameters job.optimize
      builder.role job.argumentFile builder.settings.invokeDynamic) t
  unfold runCompiler at hrun
  obtain ⟨_, _, hget, hrun⟩ := bind_eq_ok_iff.mp hrun
  cases hget
  cases hran : invocation.run ctx (fun status => ctx.refuses (statusMessage chunk status))
      (programParameters job.optimize builder.role job.argumentFile
        builder.settings.invokeDynamic) t with
  | mk running failure? =>
    rw [hran] at hread
    simp only [hran] at hrun
    obtain ⟨_, _, -, hrun⟩ := bind_eq_ok_iff.mp hrun
    obtain ⟨_, _, -, hrun⟩ := bind_eq_ok_iff.mp hrun
    cases failure? with
    | some failure => cases hrun
    | none =>
      cases hrun
      exact hread

/-- A retry is asked for if an error line does. -/
theorem shouldRetry_of_compileJob {job : Job} {reported : CompilerOutput}
    (hcompile : compileJob ctx builder chunk job w = (.ok reported, v)) :
    reported.shouldRetry = reported.errorLines.any CompilerOutput.asksRetry := by
  refine holds_compileJob (Q := fun p => p.shouldRetry = p.errorLines.any CompilerOutput.asksRetry)
    ⟨rfl, fun p stream line report hp => ?_, fun _ _ hp => hp, fun _ _ hp => hp⟩ hcompile
  cases report with
  | plain =>
    by_cases hstream : stream = CompilerOutput.errorStream
    · simp only [CompilerOutput.take, hstream, if_true, hp, List.any_append, List.any_cons,
        List.any_nil, Bool.or_false]
      rfl
    · simpa only [CompilerOutput.take, hstream, if_false] using hp
  | status text => exact hp
  | compiled item => exact hp
  | diagnostic message => exact hp
  | noGroovy => exact hp

end Build

-- ---------------------------------------------------------------------------
-- The flag
-- ---------------------------------------------------------------------------

/-- The chunk has ordered a rebuild, and no effective round has come since. -/
def World.hasOrdered (w : World) (chunk : Chunk) : Bool :=
  (w.session.state chunk).rebuildOrdered

/-- The chunk's flag is as it was. -/
def SameOrder (chunk : Chunk) (before after : World) : Prop :=
  after.hasOrdered chunk = before.hasOrdered chunk

instance (chunk : Chunk) : Std.Refl (SameOrder chunk) := ⟨fun _ => rfl⟩

instance (chunk : Chunk) : IsTrans World (SameOrder chunk) := ⟨fun _ _ _ h h' => h'.trans h⟩

theorem Steady.sameOrder {v w : World} (h : Steady v w) (chunk : Chunk) :
    SameOrder chunk v w := by
  rw [SameOrder, World.hasOrdered, h.session]
  rfl

section
variable {ctx : Context} {chunk other : Chunk} {state : ChunkState} {v w : World}

theorem sameOrder_setState (w : World)
    (h : state.rebuildOrdered = (w.session.state other).rebuildOrdered) :
    SameOrder chunk w { w with session := w.session.setState other state } := by
  unfold SameOrder World.hasOrdered
  by_cases hids : chunk.ids = other.ids
  · rw [state_eq_of_ids hids, state_eq_of_ids hids, Session.state_setState, h]
  · simp [Session.state, Session.state?, Session.setState, OrderedMap.find?_insert, hids]

theorem rebuildOrdered_scheduleDue (compiled : Option String) (tracker : RoundTracker) :
    (scheduleDue ctx compiled tracker state).2.rebuildOrdered = state.rebuildOrdered := by
  unfold scheduleDue
  split <;> rfl

theorem rebuildOrdered_rememberStubs (items : List OutputItem) :
    (state.rememberStubs items).rebuildOrdered = state.rebuildOrdered := rfl

/-- Nothing that happens while the compiler runs orders a rebuild. -/
theorem sameOrder_effect {action : CompilerAction} (h : ActionEffect ctx action v w) :
    SameOrder chunk v w := by
  cases h with
  | emit => exact Std.Refl.refl v
  | write => rfl
  | remove => rfl
  | postProcess other compiled =>
    have hfold (n : List Nat) (a : Waiting) :
        (n.foldl (fun pair _ => scheduleDue ctx compiled pair.1 pair.2) a).2.rebuildOrdered =
          a.2.rebuildOrdered := by
      induction n generalizing a with
      | nil => rfl
      | cons _ n ih => exact (ih _).trans (rebuildOrdered_scheduleDue _ _)
    exact sameOrder_setState v (hfold _ (v.tracker, v.session.state other))
  | schedule h =>
    obtain rfl := World.eq_of_schedule? h
    exact sameOrder_setState v rfl
  | unscheduled => exact Std.Refl.refl v

theorem stepKeeps_sameOrder (ctx : Context) (chunk : Chunk) :
    StepKeeps ctx (fun _ => True) (SameOrder chunk) where
  files _ _ h := h.quiet.toSteady.sameOrder chunk
  tell message _ := (Build.quiet_tell ctx message).mono fun _ _ h => h.toSteady.sameOrder chunk
  run := Build.keeps_run (fun _ _ => rfl) (fun _ _ => rfl) fun _ _ _ _ _ _ _ h => sameOrder_effect h

end

namespace Build

variable {ctx : Context} {builder : Builder} {chunk : Chunk} {dirty : DirtyFiles} {u v w : World}

theorem sameOrder_cleared (role : Role) (w : World) : SameOrder chunk w (cleared role chunk w) := by
  cases role with
  | stubs => exact Std.Refl.refl w
  | classes => exact sameOrder_setState w rfl

theorem sameOrder_closeRound (ctx : Context) (argumentFile? : Option Path)
    (result : Except Failure Verdict) :
    Keeps (SameOrder chunk) (closeRound builder chunk argumentFile? result) := by
  refine keeps_closeRound (stepKeeps_sameOrder ctx chunk) (fun w => ?_) _ _
  rw [run_clearMarker]
  exact sameOrder_cleared _ w

theorem sameOrder_announce (job : Job) (messages : List Message) (compiled : CompiledItems) :
    Keeps (SameOrder chunk) (announce ctx builder chunk job messages compiled) := by
  have htold : Keeps (SameOrder chunk) (messages.forM (tell ctx)) :=
    (quiet_tellAll ctx messages).mono fun _ _ h => h.toSteady.sameOrder chunk
  unfold announce
  cases builder.role with
  | stubs =>
    refine Keeps.bind (fun w => ?_) fun _ => htold
    exact sameOrder_setState w (rebuildOrdered_rememberStubs _)
  | classes =>
    refine Keeps.bind htold fun _ => (steady_registerRound ctx _ _ _).mono fun _ _ h => ?_
    exact h.sameOrder chunk

-- ---------------------------------------------------------------------------
-- One round
-- ---------------------------------------------------------------------------

/-- A round without a job orders nothing and leaves the flag alone. Any other is closed with what
has become of its job. -/
theorem round_stages (ctx : Context) (builder : Builder) (chunk : Chunk) (dirty : DirtyFiles)
    (w : World) :
    (∀ job s, startRound ctx builder chunk dirty (stated chunk w) ≠ (.ok (.inr job), s)) ∧
        (round ctx builder chunk dirty w).1 ≠ .ok .chunkRebuildRequired ∧
        SameOrder chunk w (round ctx builder chunk dirty w).2 ∨
      ∃ job s, startRound ctx builder chunk dirty (stated chunk w) = (.ok (.inr job), s) ∧
        SameOrder chunk w s ∧
        round ctx builder chunk dirty w = closeRound builder chunk (some job.argumentFile)
          ((runJob ctx builder chunk job s).1.mapError (roundFailure builder chunk))
          (runJob ctx builder chunk job s).2 := by
  have hstated : SameOrder chunk w (stated chunk w) := sameOrder_setState w rfl
  have hopened :=
    (quiet_openRound ctx builder chunk dirty (stated chunk w)).toSteady.sameOrder chunk
  unfold round startRound
  rw [run_bind_of_ok (run_chunkState w), run_bind, run_bind, run_attempt]
  cases hopen : openRound ctx builder chunk dirty (stated chunk w) with
  | mk opened u =>
    rw [hopen] at hopened
    have hbefore : SameOrder chunk w u := IsTrans.trans _ _ _ hstated hopened
    have hcleared : SameOrder chunk w (cleared builder.role chunk u) :=
      IsTrans.trans _ _ _ hbefore (sameOrder_cleared _ u)
    rcases opened with failure | ⟨verdict⟩ | ⟨files, finals⟩
    · refine .inl ⟨by rintro _ _ ⟨⟩, ?_, ?_⟩ <;> simp only [run_bind, run_tidyUp_none, run_throw]
      · simp
      · exact hcleared
    · refine .inl ⟨by rintro _ _ ⟨⟩, ?_, ?_⟩ <;> simp only [run_bind, run_tidyUp_none, run_pure]
      · simpa using (decided_of_openRound hopen).2.1
      · exact hcleared
    · have hprepared := (quiet_prepare ctx builder chunk files finals u).toSteady.sameOrder chunk
      simp only [runRound, run_bind, run_attempt]
      cases hprepare : prepare ctx builder chunk files finals u with
      | mk prepared s =>
        rw [hprepare] at hprepared
        have hs : SameOrder chunk w s := IsTrans.trans _ _ _ hbefore hprepared
        cases prepared with
        | error failure =>
          refine .inl ⟨by rintro _ _ ⟨⟩, ?_,
            IsTrans.trans _ _ _ hs (sameOrder_closeRound ctx _ _ s)⟩
          intro hclosed
          cases closeRound_cases (Prod.ext hclosed rfl)
        | ok job => exact .inr ⟨job, s, rfl, hs, rfl⟩

/-- A chunk with a reason to order a rebuild does so every other time. -/
theorem escalate_eq (state : ChunkState) (shouldRetry forced : Bool) :
    (state.escalate shouldRetry forced).1 = (shouldRetry && !forced && !state.rebuildOrdered) ∧
      (state.escalate shouldRetry forced).2.rebuildOrdered =
        ((shouldRetry && !forced) ^^ state.rebuildOrdered) := by
  unfold ChunkState.escalate
  cases shouldRetry <;> cases forced <;> cases hordered : state.rebuildOrdered <;> simp [hordered]

/-- What a run made was moved, and an error line of it asked to retry. -/
def settlesRetry (ctx : Context) (builder : Builder) (chunk : Chunk) (job : Job)
    (reported : CompilerOutput) (w : World) : Bool :=
  (reconcileRun ctx builder.name chunk job.generationOutputs job.compilerOutput
      reported.compiled w).1.toOption.isSome &&
    reported.errorLines.any CompilerOutput.asksRetry

/-- The flag of a chunk is turned by a run that asks to retry, unless recompilation is forced, and
by no other. A rebuild is ordered where it comes to be set. -/
theorem settleJob_orders (ctx : Context) (builder : Builder) (chunk : Chunk) (job : Job)
    {reported : CompilerOutput}
    (hretry : reported.shouldRetry = reported.errorLines.any CompilerOutput.asksRetry)
    (w : World) :
    let turns := settlesRetry ctx builder chunk job reported w && !w.tracker.forced
    (settleJob ctx builder chunk job reported w).2.hasOrdered chunk =
        (turns ^^ w.hasOrdered chunk) ∧
      ((settleJob ctx builder chunk job reported w).1 = .ok .chunkRebuildRequired ↔
        turns = true ∧ w.hasOrdered chunk = false) := by
  have hquiet := quiet_reconcileRun ctx builder.name chunk job.generationOutputs
    job.compilerOutput reported.compiled w
  unfold settleJob settlesRetry
  rw [run_bind]
  cases hreconcile : reconcileRun ctx builder.name chunk job.generationOutputs job.compilerOutput
      reported.compiled w with
  | mk reconciled u =>
    rw [hreconcile] at hquiet
    have hsame : u.hasOrdered chunk = w.hasOrdered chunk := hquiet.toSteady.sameOrder chunk
    cases reconciled with
    | error failure => simpa [Except.toOption] using hsame
    | ok compiled =>
      obtain ⟨horder, hflag⟩ := escalate_eq (u.session.state chunk) reported.shouldRetry
        u.tracker.forced
      have hescalated : (escalated chunk reported.shouldRetry u).hasOrdered chunk =
          ((reported.shouldRetry && !w.tracker.forced) ^^ w.hasOrdered chunk) := by
        rw [← hsame, ← hquiet.forced]
        simpa only [World.hasOrdered, escalated, Session.state_setState] using hflag
      have hordered : ((u.session.state chunk).escalate reported.shouldRetry u.tracker.forced).1 =
          (reported.shouldRetry && !w.tracker.forced && !w.hasOrdered chunk) := by
        rw [← hsame, ← hquiet.forced]
        exact horder
      dsimp only
      rw [run_bind_of_ok (run_orderRebuild _ u), hordered]
      simp only [Except.toOption, Option.isSome_some, Bool.true_and, ← hretry]
      cases hdue : reported.shouldRetry && !w.tracker.forced && !w.hasOrdered chunk with
      | true =>
        rw [Bool.and_eq_true, Bool.not_eq_true'] at hdue
        exact ⟨hescalated, by simpa using hdue⟩
      | false =>
        -- Whatever becomes of the announcement, no rebuild is ordered any more.
        have hrest : Keeps (SameOrder chunk) (do
            announce ctx builder chunk job
              (reported.messages chunk.representative.name.display) compiled
            verdictOr builder.role chunk .ok : Build Verdict) :=
          Keeps.bind (sameOrder_announce job _ compiled) fun _ => keeps_verdictOr _ _ _
        refine ⟨(hrest _).trans hescalated, ?_⟩
        refine iff_of_false ?_ ?_
        · intro hresult
          obtain ⟨_, t, -, hverdict⟩ := bind_eq_ok_iff.mp (Prod.ext hresult rfl)
          rw [run_verdictOr] at hverdict
          split at hverdict <;> cases hverdict
        · rintro ⟨hturns, hflag⟩
          rw [hturns, hflag] at hdue
          cases hdue

/-- The run of a job came to its end, what it made was moved, and an error line asked to retry. -/
def jobRetries (ctx : Context) (builder : Builder) (chunk : Chunk) (job : Job) (w : World) : Bool :=
  match compileJob ctx builder chunk job w with
  | (.ok reported, t) => settlesRetry ctx builder chunk job reported t
  | (.error _, _) => false

theorem runJob_orders (ctx : Context) (builder : Builder) (chunk : Chunk) (job : Job) (w : World) :
    let turns := jobRetries ctx builder chunk job w && !w.tracker.forced
    (runJob ctx builder chunk job w).2.hasOrdered chunk = (turns ^^ w.hasOrdered chunk) ∧
      ((runJob ctx builder chunk job w).1 = .ok .chunkRebuildRequired ↔
        turns = true ∧ w.hasOrdered chunk = false) := by
  have hsame : Keeps (SameOrder chunk) (compileJob ctx builder chunk job) :=
    keeps_compileJob (stepKeeps_sameOrder ctx chunk) (fun _ => trivial) job
  have hkept : Keeps FlagKept (compileJob ctx builder chunk job) :=
    keeps_compileJob (stepKeeps_of_runKeeps (roundKeeps_flagKept ctx).run) (fun _ => trivial) job
  unfold runJob jobRetries
  rw [run_bind]
  cases hcompile : compileJob ctx builder chunk job w with
  | mk compiled t =>
    have hordered : t.hasOrdered chunk = w.hasOrdered chunk := hsame.of_eq hcompile
    have hforced : t.tracker.forced = w.tracker.forced := (hkept.of_eq hcompile).forced
    cases compiled with
    | error failure => simpa using hordered
    | ok reported =>
      have hsettled := settleJob_orders ctx builder chunk job (shouldRetry_of_compileJob hcompile) t
      rwa [hordered, hforced] at hsettled

/-- Moving what was made comes to its end only in a chunk that has a name. -/
theorem exists_name_of_jobRetries {job : Job} (h : jobRetries ctx builder chunk job w = true) :
    ∃ name, chunk.name = .ok name := by
  unfold jobRetries settlesRetry at h
  split at h
  · rename_i reported t _
    rw [Bool.and_eq_true] at h
    obtain ⟨compiled, hcompiled⟩ := Option.isSome_iff_exists.mp h.1
    obtain ⟨_, _, -, hrun⟩ := bind_eq_ok_iff.mp (Prod.ext (ok_of_toOption hcompiled) rfl)
    obtain ⟨name, _, hname, -⟩ := bind_eq_ok_iff.mp hrun
    exact ⟨name, (chunkName_eq_ok_iff.mp hname).1⟩
  · cases h

/-- A round is closed with its verdict, or it fails to remove its argument file. -/
theorem closeRound_endings {name : String} (hname : chunk.name = .ok name) {p : Path}
    {verdict : Verdict} {result : Except Failure Verdict}
    (h : closeRound builder chunk (some p) (.ok verdict) w = (result, v)) :
    result = .ok verdict ∨ ∃ fault,
      (FileAction.removeFileIfPresent p v.files).1 = .error fault ∧
        result = .error (.files fault) := by
  rw [run_closeRound hname, run_bind] at h
  cases htidy : tidyUp builder chunk (some p) w with
  | mk tidied t =>
    rw [htidy] at h
    rcases tidyUp_endings htidy with ⟨rfl, -, -⟩ | ⟨fault, hfault, rfl⟩
    · simp only [run_ofExcept] at h
      exact .inl (Prod.mk.inj h).1.symm
    · obtain ⟨rfl, rfl⟩ := Prod.mk.inj h
      exact .inr ⟨fault, hfault, rfl⟩

-- ---------------------------------------------------------------------------
-- Rounds of a chunk
-- ---------------------------------------------------------------------------

/-- A round of a chunk: who runs it, over which files, and in which world. -/
structure ChunkRound where
  ctx : Context
  builder : Builder
  dirty : DirtyFiles
  before : World

namespace ChunkRound

variable (chunk : Chunk) (one : ChunkRound)

def result : Except Failure Verdict :=
  (round one.ctx one.builder chunk one.dirty one.before).1

/-- The world in which the round ended, however it did. -/
def after : World :=
  (round one.ctx one.builder chunk one.dirty one.before).2

/-- The compiler run came to its end, what it made was moved, a line of its error output without a
marker held a retry trigger, and recompilation was not forced. -/
def isEffective : Bool :=
  match startRound one.ctx one.builder chunk one.dirty (stated chunk one.before) with
  | (.ok (.inr job), s) =>
    jobRetries one.ctx one.builder chunk job s && !one.before.tracker.forced
  | _ => false

/-- The round fails because its argument file cannot be removed. -/
def FailsRemoval : Prop :=
  ∃ p ∈ createdFile? one.ctx one.builder chunk one.dirty one.before, ∃ fault,
    (FileAction.removeFileIfPresent p (one.after chunk).files).1 = .error fault ∧
      one.result chunk = .error (.files fault)

variable {chunk one}

theorem isEffective_of_job {job : Job} {s : World}
    (h : startRound one.ctx one.builder chunk one.dirty (stated chunk one.before) =
      (.ok (.inr job), s)) :
    one.isEffective chunk =
      (jobRetries one.ctx one.builder chunk job s && !one.before.tracker.forced) := by
  rw [isEffective, h]

theorem isEffective_of_no_job
    (h : ∀ job s, startRound one.ctx one.builder chunk one.dirty (stated chunk one.before) ≠
      (.ok (.inr job), s)) : one.isEffective chunk = false := by
  unfold isEffective
  split
  · rename_i job s hstart
    exact absurd hstart (h job s)
  · rfl

variable (chunk one)

/-- An effective round turns the flag of its chunk and orders a rebuild where it comes to be set,
unless its argument file cannot be removed; no other round does either. -/
theorem orders :
    (one.after chunk).hasOrdered chunk =
        (one.isEffective chunk ^^ one.before.hasOrdered chunk) ∧
      (one.result chunk = .ok .chunkRebuildRequired →
        one.isEffective chunk = true ∧ one.before.hasOrdered chunk = false) ∧
      (one.isEffective chunk = true → one.before.hasOrdered chunk = false →
        one.result chunk = .ok .chunkRebuildRequired ∨ one.FailsRemoval chunk) := by
  rcases round_stages one.ctx one.builder chunk one.dirty one.before with
    ⟨hnone, hresult, hsame⟩ | ⟨job, s, hstart, hsame, hround⟩
  · rw [isEffective_of_no_job hnone, Bool.false_xor]
    exact ⟨hsame, fun hordered => absurd hordered hresult, nofun⟩
  · have hforced : s.tracker.forced = one.before.tracker.forced :=
      ((quiet_startRound one.ctx one.builder chunk one.dirty).of_eq hstart).forced
    have hflag := runJob_orders one.ctx one.builder chunk job s
    rw [hforced, (hsame : s.hasOrdered chunk = one.before.hasOrdered chunk),
      ← isEffective_of_job hstart] at hflag
    obtain ⟨hflag, horder⟩ := hflag
    refine ⟨?_, fun hordered => ?_, fun heffective hfirst => ?_⟩
    · unfold after
      rw [hround, ← hflag]
      exact sameOrder_closeRound one.ctx _ _ _
    · refine horder.mp ?_
      unfold result at hordered
      rw [hround] at hordered
      have hended := closeRound_cases (Prod.ext hordered rfl)
      cases hran : (runJob one.ctx one.builder chunk job s).1 with
      | ok verdict =>
        rw [hran] at hended
        exact hended
      | error failure =>
        rw [hran] at hended
        cases hended
    · have hended := horder.mpr ⟨heffective, hfirst⟩
      rw [isEffective_of_job hstart, Bool.and_eq_true] at heffective
      obtain ⟨name, hname⟩ := exists_name_of_jobRetries heffective.1
      rw [hended] at hround
      refine (closeRound_endings hname (hround.symm.trans rfl)).imp_right ?_
      rintro ⟨fault, hfault, hresult⟩
      refine ⟨job.argumentFile, ?_, fault, hfault, hresult⟩
      rcases startRound_cases one.ctx one.builder chunk one.dirty one.before with
        ⟨_, _, hother, hjob, -⟩ | ⟨_, _, _, hother, -⟩ | ⟨_, _, hother, hcreated, -⟩
      · rw [hstart] at hother
        cases hother
        exact absurd rfl (hjob job)
      · rw [hstart] at hother
        cases hother
      · rw [hstart] at hother
        cases hother
        exact hcreated

end ChunkRound

-- ---------------------------------------------------------------------------
-- Many rounds
-- ---------------------------------------------------------------------------

/-- Rounds of a chunk one after another, of any builders. In between anything may happen that
leaves the chunk's flag alone. -/
inductive RoundsOf (chunk : Chunk) : World → List ChunkRound → World → Prop where
  | nil (w : World) : RoundsOf chunk w [] w
  | round {v : World} {rounds : List ChunkRound} {one : ChunkRound}
      (h : RoundsOf chunk v rounds one.before) :
      RoundsOf chunk v (rounds ++ [one]) (one.after chunk)
  | between {u v w : World} {rounds : List ChunkRound} (h : RoundsOf chunk u rounds v)
      (hflag : SameOrder chunk v w) : RoundsOf chunk u rounds w

namespace RoundsOf

variable {front rest rounds : List ChunkRound} {one : ChunkRound}

/-- The flag tells whether an odd number of effective rounds has come since it was clear. -/
theorem hasOrdered_eq (h : RoundsOf chunk v rounds w) (hfresh : v.hasOrdered chunk = false) :
    w.hasOrdered chunk = decide (Odd (rounds.countP (·.isEffective chunk))) := by
  induction h with
  | nil => simpa using hfresh
  | @round rounds one h ih =>
    rw [(one.orders chunk).1, ih, List.countP_append, List.countP_singleton]
    cases one.isEffective chunk with
    | false => simp
    | true => simp only [Bool.true_xor, if_true, Nat.odd_add_one, decide_not]
  | between h hflag ih => exact hflag.trans ih

/-- The rounds before a round lead to the world in which it is run. -/
theorem before (h : RoundsOf chunk v (front ++ one :: rest) w) :
    RoundsOf chunk v front one.before := by
  generalize hrounds : front ++ one :: rest = rounds at h
  induction h generalizing rest with
  | nil => simp at hrounds
  | @round rounds last h ih =>
    rcases List.eq_nil_or_concat rest with rfl | ⟨between, final, rfl⟩
    · obtain ⟨rfl, hlast⟩ := List.append_inj' hrounds rfl
      cases hlast
      exact h
    · rw [List.concat_eq_append, ← List.cons_append, ← List.append_assoc] at hrounds
      obtain ⟨hfront, -⟩ := List.append_inj' hrounds rfl
      exact ih hfront
  | between h hflag ih => exact ih hrounds

end RoundsOf

/-- The first of two rounds whose compiler asks to retry. -/
def retryRound : ChunkRound where
  ctx := retryContext
  builder := inProcessBuilder .classes
  dirty := [(soleTarget.toTargetId, soleSource)]
  before := soleWorld

/-- The second round makes stubs. -/
def retryAgain : ChunkRound :=
  { retryRound with
    builder := inProcessBuilder .stubs
    before := retryRound.after soleChunk }

/-- A target of a chunk whose outputs lie in and above each other. -/
def nestedTarget (name : String) (output : Location) : Target where
  name := .text name
  output := some { anchor := .root, names := output }
  kind := .production
  sdk := none

def nestedTargets : List Target :=
  [nestedTarget "a" ["x", "a"], nestedTarget "b" [], nestedTarget "c" ["p", "q", "r"]]

def nestedChunk : Chunk where
  representative := nestedTarget "a" ["x", "a"]
  others := nestedTargets.tail

def nestedSource (name : String) : Path where
  anchor := .root
  names := ["src", name, name ++ ".groovy"]

/-- The compiler asks to retry. It reports the directory for temporary files as a class of the third
target, and as a class of the second a file that is to lie where the directory was. -/
def nestedContext : Context where
  project := {
    dataRoot := { anchor := .root, names := ["data"] }
    sourceRoots := ⟨nestedTargets.map fun target =>
      (target.toTargetId, [(nestedSource target.name.display).parent])⟩ }
  tempDirectory := { anchor := .root, names := ["tmp"] }
  searchPath := none
  runner _ _ := .callable
  compiler _ _ _ := {
    actions := [
      .emit CompilerOutput.errorStream "unable to resolve class X\n",
      .write { anchor := .root, names := ["x", "a", "tmp"] } [],
      .emit CompilerOutput.outputStream "%%compiled\t/tmp\t/src/c/c.groovy\n",
      .emit CompilerOutput.outputStream "%%compiled\t/x/a/tmp\t/src/b/b.groovy\n"]
    ending := .returned .null }

/-- The directory for temporary files, with the argument file in it, is moved away. -/
def misplacedRound : ChunkRound where
  ctx := nestedContext
  builder := inProcessBuilder .classes
  dirty := nestedTargets.map fun target => (target.toTargetId, nestedSource target.name.display)
  before := { files := { nodes := [(["tmp"], .directory)], cwd := [] } }

end Build

end GroovyRounds
