import GroovyRounds.Proofs.Build.Round

/-!
# What a round keeps

A relation between worlds that every part of a round keeps is kept by the whole
round, whether the round comes to a verdict or not (`keeps_round`). All parts
but one are the same for both roles; what is announced at the end of a round is
not, so it is asked for separately (`keeps_round_of_announce`). So are the parts
that change the state of the chunk, for relations that speak of that state
(`keeps_round_of_steps`).
-/

namespace GroovyRounds

open Program

/-- A relation between worlds that every part of a round keeps. -/
structure RoundKeeps (ctx : Context) (R : World → World → Prop) : Prop where
  steady : ∀ v w, Steady v w → R v w
  session : ∀ (w : World) (session : Session), R w { w with session }
  tempRoots : ∀ (w : World) (tempRoots : TempRoots), R w { w with tempRoots }
  calls : ∀ (w : World) (calls : List CompilerCall), R w { w with calls }
  outputs : ∀ (w : World) (outputs : List CompilerOutput), R w { w with outputs }
  actions : ∀ calls call files, Across ctx R (ctx.compiler calls call files).actions

/-- A relation between worlds that every part of a round keeps which comes before anything is
announced, if no other messages are told than those for which `P` holds. -/
structure RunKeeps (ctx : Context) (P : Message → Prop) (R : World → World → Prop) : Prop where
  files : ∀ v w, FilesOnly v w → R v w
  tell : ∀ message, P message → Keeps R (Build.tell ctx message)
  state : ∀ (w : World) (chunk : Chunk) (state : ChunkState),
    state.stubSources = (w.session.state chunk).stubSources →
      R w { w with session := w.session.setState chunk state }
  calls : ∀ (w : World) (calls : List CompilerCall), R w { w with calls }
  outputs : ∀ (w : World) (outputs : List CompilerOutput), R w { w with outputs }
  actions : ∀ calls call files, Across ctx R (ctx.compiler calls call files).actions

/-- A relation between worlds that every part of a round keeps which neither changes the state of
the chunk nor announces anything, if no other messages are told than those for which `P` holds. -/
structure StepKeeps (ctx : Context) (P : Message → Prop) (R : World → World → Prop) : Prop where
  files : ∀ v w, FilesOnly v w → R v w
  tell : ∀ message, P message → Keeps R (Build.tell ctx message)
  run : ∀ (invocation : Invocation) (refuses : Running.Refusal) (parameters : List String)
    (w : World), R w (invocation.run ctx refuses parameters w).1.world

theorem RoundKeeps.run {ctx : Context} {R : World → World → Prop} (h : RoundKeeps ctx R) :
    RunKeeps ctx (fun _ => True) R where
  files v w hvw := h.steady v w hvw.quiet.toSteady
  tell message _ := (Build.quiet_tell ctx message).mono fun v w hvw => h.steady v w hvw.toSteady
  state w _ _ _ := h.session w _
  calls := h.calls
  outputs := h.outputs
  actions := h.actions

/-- A rebuild forgets no stub. -/
theorem ChunkState.stubSources_escalate (state : ChunkState) (shouldRetry forced : Bool) :
    (state.escalate shouldRetry forced).2.stubSources = state.stubSources := by
  unfold escalate
  split
  · rfl
  · split <;> rfl

namespace Build

variable {ctx : Context} {builder : Builder} {chunk : Chunk} {α : Type}
variable {P : Message → Prop} {R : World → World → Prop} [Std.Refl R] [IsTrans World R]

-- ---------------------------------------------------------------------------
-- Single steps
-- ---------------------------------------------------------------------------

/-- Whether it comes to its end or not, a run of the compiler keeps what each of its actions
keeps. -/
theorem keeps_run (hcalls : ∀ (w : World) calls, R w { w with calls })
    (houtputs : ∀ (w : World) outputs, R w { w with outputs })
    (hactions : ∀ calls call files, Across ctx R (ctx.compiler calls call files).actions)
    (invocation : Invocation) (refuses : Running.Refusal) (parameters : List String) (w : World) :
    R w (invocation.run ctx refuses parameters w).1.world := by
  unfold Invocation.run
  split
  · exact Std.Refl.refl w
  · rename_i charset _
    let started : Running :=
      { world := { w with calls := w.calls ++ [invocation.call parameters w] } }
    have hexecute : R started.world (invocation.execute ctx refuses charset
        (invocation.program ctx parameters w) started).1.world :=
      Invocation.across_execute (hactions w.calls _ w.files) charset started
    exact IsTrans.trans _ _ _ (IsTrans.trans _ _ _ (hcalls w _) hexecute) (houtputs _ _)

section
variable (h : StepKeeps ctx P R)
include h

theorem keeps_runCompiler (hstatus : ∀ status, P (statusMessage chunk status))
    (invocation : Invocation) (parameters : List String) :
    Keeps R (runCompiler ctx chunk invocation parameters) := by
  refine Keeps.get_bind fun w => ?_
  let refuses (status : String) : Option Failure := ctx.refuses (statusMessage chunk status)
  have hrun := h.run invocation refuses parameters w
  cases hran : invocation.run ctx refuses parameters w with
  | mk running failure? =>
    rw [hran] at hrun
    dsimp only
    rw [run_bind_of_ok (run_set running.world w)]
    refine IsTrans.trans _ _ _ hrun (Keeps.bind
      (Keeps.forM fun status _ => h.tell _ (hstatus status)) (fun _ => ?_) running.world)
    split
    · exact Keeps.throw _
    · exact Keeps.pure _

theorem keeps_compileJob (hstatus : ∀ status, P (statusMessage chunk status)) (job : Job) :
    Keeps R (compileJob ctx builder chunk job) := by
  refine Keeps.bind (fun w => ?_) fun invocation => keeps_runCompiler h hstatus invocation _
  rw [run_launch]
  exact Std.Refl.refl w

omit [IsTrans World R] in
theorem keeps_removeArgumentFile (argumentFile? : Option Path) :
    Keeps R (removeArgumentFile argumentFile?) := by
  unfold removeArgumentFile
  split
  · exact (filesOnly_withFiles (FileAction.sameCwd_removeFileIfPresent _)).mono h.files
  · exact Keeps.pure _

theorem keeps_tidyUp (hclear : Keeps R (clearMarker builder.role chunk))
    (argumentFile? : Option Path) : Keeps R (tidyUp builder chunk argumentFile?) :=
  Keeps.bind (keeps_removeArgumentFile h _) fun _ => hclear

theorem keeps_closeRound (hclear : Keeps R (clearMarker builder.role chunk))
    (argumentFile? : Option Path) (result : Except Failure Verdict) :
    Keeps R (closeRound builder chunk argumentFile? result) := by
  refine Keeps.bind (fun w => ?_) fun _ =>
    Keeps.bind (keeps_tidyUp h hclear _) fun _ => keeps_ofExcept _
  rw [run_timed_world]
  exact Std.Refl.refl w

end

-- ---------------------------------------------------------------------------
-- Before anything is announced
-- ---------------------------------------------------------------------------

section
variable (h : RunKeeps ctx P R)
include h

theorem stepKeeps_of_runKeeps : StepKeeps ctx P R :=
  ⟨h.files, h.tell, keeps_run h.calls h.outputs h.actions⟩

omit [Std.Refl R] [IsTrans World R] in
/-- A chunk takes note of an order without forgetting its stubs. -/
theorem keeps_orderRebuild (shouldRetry : Bool) : Keeps R (orderRebuild chunk shouldRetry) := by
  intro w
  rw [run_orderRebuild]
  exact h.state w chunk _ (ChunkState.stubSources_escalate _ _ _)

omit [IsTrans World R] in
theorem keeps_clearMarker (role : Role) : Keeps R (clearMarker role chunk) := by
  intro w
  rw [run_clearMarker]
  cases role with
  | stubs => exact Std.Refl.refl w
  | classes => exact h.state w chunk _ rfl

end

-- ---------------------------------------------------------------------------
-- Whole rounds
-- ---------------------------------------------------------------------------

/-- However it ends, a round keeps what its steps keep, if the changes of the chunk's state and the
announcement do. -/
theorem keeps_round_of_steps (h : StepKeeps ctx (fun _ => True) R)
    (hstate : Keeps R (chunkState chunk))
    (horder : ∀ shouldRetry, Keeps R (orderRebuild chunk shouldRetry))
    (hclear : Keeps R (clearMarker builder.role chunk))
    (hannounce : ∀ job messages compiled,
      Keeps R (announce ctx builder chunk job messages compiled))
    (dirty : DirtyFiles) : Keeps R (round ctx builder chunk dirty) := by
  have hopen : Keeps R (openRound ctx builder chunk dirty) :=
    keeps_openRound h.files (fun _ => h.tell _ trivial) chunk dirty
  have hsettle (job : Job) (reported : CompilerOutput) :
      Keeps R (settleJob ctx builder chunk job reported) := by
    refine Keeps.bind (keeps_reconcileRun h.files (fun _ _ _ => h.tell _ trivial) _ _ _ _)
      fun compiled => Keeps.bind (horder _) fun ordered => ?_
    split
    · exact Keeps.pure _
    · exact Keeps.bind (hannounce job _ compiled) fun _ => keeps_verdictOr _ _ _
  have hjob (job : Job) : Keeps R (runJob ctx builder chunk job) :=
    Keeps.bind (keeps_compileJob h (fun _ => trivial) job) fun reported => hsettle job reported
  have hclose (argumentFile? : Option Path) (result : Except Failure Verdict) :
      Keeps R (closeRound builder chunk argumentFile? result) := keeps_closeRound h hclear _ _
  unfold round
  refine Keeps.bind hstate fun _ => ?_
  refine Keeps.bind (keeps_attempt hopen) fun opened => ?_
  split
  · exact Keeps.bind (keeps_tidyUp h hclear _) fun _ => Keeps.throw _
  · exact Keeps.bind (keeps_tidyUp h hclear _) fun _ => Keeps.pure _
  · refine Keeps.bind (keeps_attempt ((filesOnly_prepare _ _ _ _ _).mono h.files)) fun job => ?_
    cases job with
    | error failure => exact Keeps.bind (Keeps.pure _) fun result => hclose _ _
    | ok job => exact Keeps.bind (keeps_attempt (hjob job)) fun result => hclose _ _

/-- However it ends, a round keeps what its parts keep, if that holds of its announcement too. -/
theorem keeps_round_of_announce (h : RunKeeps ctx (fun _ => True) R)
    (hannounce : ∀ job messages compiled,
      Keeps R (announce ctx builder chunk job messages compiled))
    (dirty : DirtyFiles) : Keeps R (round ctx builder chunk dirty) :=
  keeps_round_of_steps (stepKeeps_of_runKeeps h) (fun w => h.state w chunk _ rfl)
    (keeps_orderRebuild h)
    (keeps_clearMarker h _) hannounce dirty

section
variable (h : RoundKeeps ctx R)
include h

omit [Std.Refl R] [IsTrans World R] in
theorem keeps_of_quiet {action : Build α} (hquiet : Keeps Quiet action) : Keeps R action :=
  hquiet.mono fun v w hvw => h.steady v w hvw.toSteady

omit [Std.Refl R] in
theorem keeps_announce (job : Job) (messages : List Message) (compiled : CompiledItems) :
    Keeps R (announce ctx builder chunk job messages compiled) := by
  have htold : Keeps R (messages.forM (tell ctx)) := keeps_of_quiet h (quiet_tellAll ctx messages)
  unfold announce
  cases builder.role with
  | stubs =>
    refine Keeps.bind (fun w => ?_) fun _ => htold
    exact IsTrans.trans _ _ _ (h.tempRoots w _) (h.session _ _)
  | classes =>
    refine Keeps.bind htold fun _ => ?_
    exact (steady_registerRound ctx _ _ _).mono h.steady

theorem keeps_round (dirty : DirtyFiles) : Keeps R (round ctx builder chunk dirty) :=
  keeps_round_of_announce h.run (keeps_announce h) dirty

end

end Build

end GroovyRounds
