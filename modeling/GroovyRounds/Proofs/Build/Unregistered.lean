import GroovyRounds.Proofs.Build.Round

/-!
# Rounds that register nothing

However a round ends, it registers its classes at one place only, after its
messages were told. All else it does leaves the index alone (`Unregistered`),
and starts the compiler at one place only (`Idle`).
-/

namespace GroovyRounds

-- ---------------------------------------------------------------------------
-- Three relations
-- ---------------------------------------------------------------------------

/-- Nothing was registered between the two worlds. -/
structure Unregistered (before after : World) : Prop where
  cwd : after.cwd = before.cwd
  tempRoots : after.tempRoots = before.tempRoots
  index : after.index = before.index
  messages : before.messages <+: after.messages

/-- The compiler was not started either. -/
structure Idle (before after : World) : Prop extends Unregistered before after where
  calls : after.calls = before.calls

/-- The compiler was not started. -/
def SameCalls (before after : World) : Prop :=
  after.calls = before.calls

instance : Std.Refl SameCalls := ⟨fun _ => rfl⟩

instance : IsTrans World SameCalls := ⟨fun _ _ _ h h' => h'.trans h⟩

variable {u v w : World}

namespace Unregistered

theorem refl (w : World) : Unregistered w w :=
  ⟨rfl, rfl, rfl, List.prefix_refl _⟩

theorem trans (h : Unregistered u v) (h' : Unregistered v w) : Unregistered u w where
  cwd := h'.cwd.trans h.cwd
  tempRoots := h'.tempRoots.trans h.tempRoots
  index := h'.index.trans h.index
  messages := h.messages.trans h'.messages

instance : Std.Refl Unregistered := ⟨refl⟩

instance : IsTrans World Unregistered := ⟨fun _ _ _ => trans⟩

end Unregistered

namespace Idle

theorem refl (w : World) : Idle w w :=
  ⟨Unregistered.refl w, rfl⟩

theorem trans (h : Idle u v) (h' : Idle v w) : Idle u w where
  toUnregistered := h.toUnregistered.trans h'.toUnregistered
  calls := h'.calls.trans h.calls

instance : Std.Refl Idle := ⟨refl⟩

instance : IsTrans World Idle := ⟨fun _ _ _ => trans⟩

end Idle

theorem Quiet.idle (h : Quiet v w) : Idle v w where
  cwd := by simp [World.cwd, h.cwd]
  tempRoots := h.tempRoots
  index := h.index
  messages := h.messages
  calls := h.calls

theorem Unrecorded.idle (h : Unrecorded v w) : Idle v w where
  cwd := by simp [World.cwd, h.cwd]
  tempRoots := h.tempRoots
  index := h.index
  messages := h.messages ▸ List.prefix_refl _
  calls := h.calls

namespace Build

open Program

variable {ctx : Context} {builder : Builder} {chunk : Chunk} {α : Type}

theorem Quiet.keeps_idle {action : Build α} (h : Keeps Quiet action) : Keeps Idle action :=
  h.mono fun _ _ => Quiet.idle

-- ---------------------------------------------------------------------------
-- The run
-- ---------------------------------------------------------------------------

/-- A run registers nothing. It starts the compiler once, unless it fails before. -/
theorem unregistered_run {invocation : Invocation} {refuses : Running.Refusal}
    {parameters : List String} {running : Running} {failure? : Option Failure}
    (h : invocation.run ctx refuses parameters w = (running, failure?)) :
    Unregistered w running.world ∧ (failure? ≠ none ∧ running.world.calls = w.calls ∨
      running.world.calls = w.calls ++ [invocation.call parameters w]) := by
  unfold Invocation.run at h
  split at h
  · cases h
    exact ⟨.refl w, .inl ⟨nofun, rfl⟩⟩
  · rename_i charset _
    have hacross : Across ctx Unrecorded (invocation.program ctx parameters w).actions :=
      fun _ _ _ _ heffect => unrecorded_effect heffect
    let started : Running :=
      { world := { w with calls := w.calls ++ [invocation.call parameters w] } }
    have hrun : Idle started.world (invocation.execute ctx refuses charset
        (invocation.program ctx parameters w) started).1.world :=
      Unrecorded.idle (Invocation.across_execute hacross charset started)
    obtain ⟨hclose, -⟩ := Prod.mk.inj h
    subst hclose
    exact ⟨⟨hrun.cwd, hrun.tempRoots, hrun.index, hrun.messages⟩, .inr hrun.calls⟩

theorem unregistered_runCompiler {invocation : Invocation} {parameters : List String}
    {result : Except Failure CompilerOutput}
    (h : runCompiler ctx chunk invocation parameters w = (result, v)) :
    Unregistered w v ∧ ((∀ reported, result ≠ .ok reported) ∧ v.calls = w.calls ∨
      v.calls = w.calls ++ [invocation.call parameters w]) := by
  unfold runCompiler at h
  rw [run_bind_of_ok (run_get w)] at h
  cases hrun : invocation.run ctx (fun status => ctx.refuses (statusMessage chunk status))
      parameters w with
  | mk running failure? =>
    obtain ⟨hframe, hcalls⟩ := unregistered_run hrun
    simp only [hrun] at h
    rw [run_bind_of_ok (run_set running.world w)] at h
    have hidle : Idle running.world v := by
      refine Keeps.of_eq (Keeps.bind
        (Quiet.keeps_idle (Keeps.forM fun status _ => quiet_tell ctx _)) fun _ => ?_) h
      split
      · exact Keeps.throw _
      · exact Keeps.pure _
    refine ⟨hframe.trans hidle.toUnregistered, ?_⟩
    rw [hidle.calls]
    refine hcalls.imp_left fun hfailed => ⟨?_, hfailed.2⟩
    rintro reported rfl
    obtain ⟨_, _, _, hend⟩ := bind_eq_ok_iff.mp h
    cases failure? with
    | none => exact hfailed.1 rfl
    | some failure => cases hend

/-- Compiling a job starts the compiler once, as it is launched and with the argument file of the
job, unless it fails before. -/
theorem unregistered_compileJob {job : Job} {result : Except Failure CompilerOutput}
    (h : compileJob ctx builder chunk job w = (result, v)) :
    Unregistered w v ∧ ((∀ reported, result ≠ .ok reported) ∧ v.calls = w.calls ∨
      ∃ invocation : Invocation, launch ctx builder chunk job w = (.ok invocation, w) ∧
        v.calls = w.calls ++ [invocation.call (programParameters job.optimize builder.role
          job.argumentFile builder.settings.invokeDynamic) w]) := by
  unfold compileJob at h
  have hlaunch : (launch ctx builder chunk job w).2 = w := run_launch job w
  cases hrun : launch ctx builder chunk job w with
  | mk launched t =>
    rw [hrun] at hlaunch
    subst hlaunch
    cases launched with
    | error failure =>
      rw [run_bind_of_error hrun] at h
      cases h
      exact ⟨.refl _, .inl ⟨nofun, rfl⟩⟩
    | ok invocation =>
      rw [run_bind_of_ok hrun] at h
      obtain ⟨hframe, hcalls⟩ := unregistered_runCompiler h
      exact ⟨hframe, hcalls.imp_right fun hcall => ⟨invocation, rfl, hcall⟩⟩

-- ---------------------------------------------------------------------------
-- Before and after the run
-- ---------------------------------------------------------------------------

theorem idle_stated (chunk : Chunk) (w : World) : Idle w (stated chunk w) :=
  { Idle.refl w with }

theorem idle_escalated (shouldRetry : Bool) (w : World) :
    Idle w (escalated chunk shouldRetry w) :=
  { Idle.refl w with }

theorem idle_cleared (role : Role) (chunk : Chunk) (w : World) :
    Idle w (cleared role chunk w) := by
  cases role with
  | stubs => exact .refl w
  | classes => exact { Idle.refl w with }

theorem idle_tidyUp (builder : Builder) (chunk : Chunk) (argumentFile? : Option Path) :
    Keeps Idle (tidyUp builder chunk argumentFile?) := by
  refine Keeps.bind ?_ fun _ => ?_
  · unfold removeArgumentFile
    split
    · exact Quiet.keeps_idle (quiet_withFiles (FileAction.sameCwd_removeFileIfPresent _))
    · exact Keeps.pure _
  · intro w
    rw [run_clearMarker]
    exact idle_cleared builder.role chunk w

theorem idle_timed (chunk : Chunk) (result : Except Failure Verdict) :
    Keeps Idle (timed chunk result) := by
  unfold timed
  split
  · exact Keeps.pure _
  · exact Keeps.throw _
  · exact Keeps.throw _

theorem idle_closeRound (builder : Builder) (chunk : Chunk) (argumentFile? : Option Path)
    (result : Except Failure Verdict) :
    Keeps Idle (closeRound builder chunk argumentFile? result) :=
  Keeps.bind (idle_timed chunk result) fun _ =>
    Keeps.bind (idle_tidyUp builder chunk argumentFile?) fun _ => keeps_ofExcept result

/-- A round that is closed with a verdict has come to this verdict. -/
theorem closeRound_cases {argumentFile? : Option Path} {result : Except Failure Verdict}
    {verdict : Verdict} (h : closeRound builder chunk argumentFile? result w = (.ok verdict, v)) :
    result = .ok verdict := by
  obtain ⟨_, _, _, h⟩ := bind_eq_ok_iff.mp h
  obtain ⟨_, _, _, h⟩ := bind_eq_ok_iff.mp h
  rw [run_ofExcept] at h
  exact (Prod.mk.inj h).1

theorem withFiles_error {action : FileAction α} {failure : Failure}
    (h : withFiles action w = (.error failure, v)) : ∃ fault, failure = .files fault := by
  rw [run_withFiles] at h
  obtain ⟨hresult, -⟩ := Prod.mk.inj h
  cases hrun : (action w.files).1 with
  | ok _ =>
    rw [hrun] at hresult
    cases hresult
  | error fault =>
    rw [hrun] at hresult
    cases hresult
    exact ⟨fault, rfl⟩

/-- Tidying up fails only if the argument file cannot be removed. -/
theorem tidyUp_error {argumentFile? : Option Path} {failure : Failure}
    (h : tidyUp builder chunk argumentFile? w = (.error failure, v)) :
    ∃ fault, failure = .files fault := by
  unfold tidyUp at h
  rw [run_bind] at h
  cases hremove : removeArgumentFile argumentFile? w with
  | mk removed u =>
    rw [hremove] at h
    cases removed with
    | ok _ =>
      simp only [run_clearMarker] at h
      cases h
    | error failure' =>
      cases h
      cases argumentFile? with
      | none => cases hremove
      | some argumentFile => exact withFiles_error hremove

/-- A verdict is lost only if the argument file cannot be removed. -/
theorem closeRound_of_ok {argumentFile? : Option Path} {verdict : Verdict} {name : String}
    {result : Except Failure Verdict} (hname : chunk.name = .ok name)
    (h : closeRound builder chunk argumentFile? (.ok verdict) w = (result, v)) :
    result = .ok verdict ∨ ∃ fault, result = .error (.files fault) := by
  rw [run_closeRound hname, run_bind] at h
  cases htidy : tidyUp builder chunk argumentFile? w with
  | mk tidied t =>
    rw [htidy] at h
    cases tidied with
    | ok _ =>
      cases h
      exact .inl rfl
    | error failure =>
      cases h
      obtain ⟨fault, rfl⟩ := tidyUp_error htidy
      exact .inr ⟨fault, rfl⟩

-- ---------------------------------------------------------------------------
-- Whole rounds
-- ---------------------------------------------------------------------------

/-- A round does not come to a job, and then it is not done with any files, or it comes to a job,
runs it and is closed. -/
theorem round_parts {dirty : DirtyFiles} {result : Except Failure Verdict}
    (h : round ctx builder chunk dirty w = (result, v)) :
    Idle w v ∧ (∀ verdict, result = .ok verdict → verdict ≠ .ok ∧ (verdict = .abort ∨
        changedFiles ctx.project builder.settings builder.role dirty = [])) ∨
      ∃ files finals u job s ended t,
        openRound ctx builder chunk dirty (stated chunk w) = (.ok (.due files finals), u) ∧
        prepare ctx builder chunk files finals u = (.ok job, s) ∧
        runJob ctx builder chunk job s = (ended, t) ∧
        closeRound builder chunk (some job.argumentFile)
          (ended.mapError (roundFailure builder chunk)) t = (result, v) := by
  unfold round at h
  simp only [run_bind, run_chunkState, run_attempt] at h
  have hopened := Quiet.keeps_idle (quiet_openRound ctx builder chunk dirty) (stated chunk w)
  cases hopen : openRound ctx builder chunk dirty (stated chunk w) with
  | mk opened u =>
    rw [hopen] at h hopened
    have hbefore : Idle w u := (idle_stated chunk w).trans hopened
    cases opened with
    | error failure =>
      left
      change (do
        tidyUp builder chunk none
        throw (roundFailure builder chunk failure) : Build Verdict) u = (result, v) at h
      rw [run_bind_of_ok (run_tidyUp_none builder chunk u)] at h
      cases h
      exact ⟨hbefore.trans (idle_cleared builder.role chunk u), nofun⟩
    | ok opening =>
      cases opening with
      | decided verdict =>
        left
        change (do
          tidyUp builder chunk none
          return verdict : Build Verdict) u = (result, v) at h
        rw [run_bind_of_ok (run_tidyUp_none builder chunk u)] at h
        cases h
        refine ⟨hbefore.trans (idle_cleared builder.role chunk u), ?_⟩
        rintro _ ⟨⟩
        obtain ⟨hok, -, hempty⟩ := decided_of_openRound hopen
        exact ⟨hok, hempty⟩
      | due files finals =>
        change runRound ctx builder chunk files finals u = (result, v) at h
        unfold runRound at h
        rw [run_bind, run_attempt] at h
        have hprepared := Quiet.keeps_idle (quiet_prepare ctx builder chunk files finals) u
        cases hprepare : prepare ctx builder chunk files finals u with
        | mk prepared s =>
          rw [hprepare] at h hprepared
          cases prepared with
          | error failure =>
            left
            have hclosed := (idle_closeRound builder chunk _ _).of_eq h
            refine ⟨hbefore.trans (hprepared.trans hclosed), ?_⟩
            rintro verdict rfl
            have hfailed := closeRound_cases h
            cases hfailed
          | ok job =>
            right
            cases hjob : runJob ctx builder chunk job s with
            | mk ended t =>
              refine ⟨files, finals, u, job, s, ended, t, rfl, hprepare, hjob, ?_⟩
              have hrun : attempt (runJob ctx builder chunk job) s = (.ok ended, t) := by
                rw [run_attempt, hjob]
              exact (run_bind_of_ok hrun).symm.trans h

theorem sameCalls_settleJob (job : Job) (reported : CompilerOutput) :
    Keeps SameCalls (settleJob ctx builder chunk job reported) := by
  have hquiet {action : Build Unit} (h : Keeps Quiet action) : Keeps SameCalls action :=
    h.mono fun _ _ hstep => hstep.calls
  have hreconcile : Keeps SameCalls (reconcileRun ctx builder.name chunk job.generationOutputs
      job.compilerOutput reported.compiled) :=
    (quiet_reconcileRun _ _ _ _ _ _).mono fun _ _ hstep => hstep.calls
  have hannounce (compiled : CompiledItems) : Keeps SameCalls (announce ctx builder chunk job
      (reported.messages chunk.representative.name.display) compiled) := by
    unfold announce
    cases builder.role with
    | stubs => exact Keeps.bind (fun _ => rfl) fun _ => hquiet (quiet_tellAll ctx _)
    | classes =>
      refine Keeps.bind (hquiet (quiet_tellAll ctx _)) fun _ => ?_
      exact (steady_registerRound ctx _ _ _).mono fun _ _ hstep => hstep.calls
  unfold settleJob
  refine Keeps.bind hreconcile fun compiled => ?_
  refine Keeps.bind (fun _ => rfl) fun ordered => ?_
  split
  · exact Keeps.pure _
  · exact Keeps.bind (hannounce compiled) fun _ => keeps_verdictOr _ _ _

/-- A round starts the compiler once, as it is launched and with the parameters of its job, unless it
fails before, is aborted or has nothing to compile. -/
theorem starts_round {dirty : DirtyFiles} {result : Except Failure Verdict}
    (h : round ctx builder chunk dirty w = (result, v)) :
    v.calls = w.calls ∧ (∀ verdict, result = .ok verdict → verdict = .abort ∨
        changedFiles ctx.project builder.settings builder.role dirty = []) ∨
      ∃ files finals u job s, ∃ invocation : Invocation,
      openRound ctx builder chunk dirty (stated chunk w) = (.ok (.due files finals), u) ∧
      prepare ctx builder chunk files finals u = (.ok job, s) ∧
      launch ctx builder chunk job s = (.ok invocation, s) ∧
      v.calls = w.calls ++ [invocation.call (programParameters job.optimize builder.role
        job.argumentFile builder.settings.invokeDynamic) s] := by
  rcases round_parts h with ⟨hidle, hends⟩ | ⟨files, finals, u, job, s, ended, t, hopen, hprepare,
    hjob, hclose⟩
  · exact .inl ⟨hidle.calls, fun verdict hresult => (hends verdict hresult).2⟩
  · have hopened : Idle w u := (idle_stated chunk w).trans
      ((Quiet.keeps_idle (quiet_openRound _ _ _ _)).of_eq hopen)
    have hprepared : Idle u s := (Quiet.keeps_idle (quiet_prepare _ _ _ _ _)).of_eq hprepare
    have hclosed : Idle t v := (idle_closeRound _ _ _ _).of_eq hclose
    have hcompiled : (∀ verdict, ended ≠ .ok verdict) ∧ t.calls = s.calls ∨
        ∃ invocation : Invocation, launch ctx builder chunk job s = (.ok invocation, s) ∧
          t.calls = s.calls ++ [invocation.call (programParameters job.optimize builder.role
            job.argumentFile builder.settings.invokeDynamic) s] := by
      unfold runJob at hjob
      cases hcompile : compileJob ctx builder chunk job s with
      | mk compiled mid =>
        have hmid := (unregistered_compileJob hcompile).2
        cases compiled with
        | error failure =>
          rw [run_bind_of_error hcompile] at hjob
          cases hjob
          exact hmid.imp_left fun ⟨_, hsame⟩ => ⟨nofun, hsame⟩
        | ok reported =>
          rw [run_bind_of_ok hcompile] at hjob
          rw [(sameCalls_settleJob job reported).of_eq hjob]
          exact hmid.imp_left fun ⟨hfailed, _⟩ => absurd rfl (hfailed reported)
    rw [hclosed.calls]
    rw [hprepared.calls, hopened.calls] at hcompiled
    rcases hcompiled with ⟨hfailed, hsame⟩ | ⟨invocation, hlaunch, hcall⟩
    · refine .inl ⟨hsame, ?_⟩
      rintro verdict rfl
      cases ended with
      | ok verdict => exact absurd rfl (hfailed verdict)
      | error failure => cases closeRound_cases hclose
    · exact .inr ⟨files, finals, u, job, s, invocation, hopen, hprepare, hlaunch, hcall⟩

/-- A round starts the compiler once, with the argument file of its job, unless it fails before or
has nothing to compile. -/
theorem calls_round {dirty : DirtyFiles} {result : Except Failure Verdict}
    (h : round ctx builder chunk dirty w = (result, v)) :
    v.calls = w.calls ∧ (result = .ok .ok ∨ result = .ok .additionalPassRequired →
        changedFiles ctx.project builder.settings builder.role dirty = []) ∨
      ∃ files finals u job s call,
      openRound ctx builder chunk dirty (stated chunk w) = (.ok (.due files finals), u) ∧
      prepare ctx builder chunk files finals u = (.ok job, s) ∧ v.calls = w.calls ++ [call] ∧
      call.argumentFile = Invocation.parameterContent s.files (programParameters job.optimize
        builder.role job.argumentFile builder.settings.invokeDynamic) := by
  rcases starts_round h with ⟨hsame, hends⟩ | ⟨files, finals, u, job, s, invocation, hopen,
    hprepare, -, hcall⟩
  · refine .inl ⟨hsame, fun hdone => ?_⟩
    rcases hdone with hdone | hdone
    · exact (hends _ hdone).resolve_left nofun
    · exact (hends _ hdone).resolve_left nofun
  · exact .inr ⟨files, finals, u, job, s, _, hopen, hprepare, hcall, rfl⟩

end Build

end GroovyRounds
