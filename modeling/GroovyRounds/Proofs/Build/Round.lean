import GroovyRounds.Proofs.Build.CompilerRun

/-!
# How a round goes

Every step of a round that comes to a verdict, in the order in which the steps
are made, with the worlds between them. What a theorem has to know of a round
it reads off these cases.
-/

namespace GroovyRounds.Build

open Program

variable {ctx : Context} {builder : Builder} {chunk : Chunk} {u v w : World}

-- ---------------------------------------------------------------------------
-- Parts with one way to go
-- ---------------------------------------------------------------------------

theorem run_launch (job : Job) (w : World) :
    (launch ctx builder chunk job w).2 = w := by
  simp [launch, run_bind]

/-- The world in which a chunk has a state. -/
def stated (chunk : Chunk) (w : World) : World :=
  { w with session := w.session.setState chunk (w.session.state chunk) }

theorem run_chunkState (w : World) :
    chunkState chunk w = (.ok (w.session.state chunk), stated chunk w) := rfl

/-- The world in which the chunk has taken note of an order to retry. -/
def escalated (chunk : Chunk) (shouldRetry : Bool) (w : World) : World :=
  { w with
    session := w.session.setState chunk
      ((w.session.state chunk).escalate shouldRetry w.tracker.forced).2 }

theorem run_orderRebuild (shouldRetry : Bool) (w : World) :
    orderRebuild chunk shouldRetry w =
      (.ok ((w.session.state chunk).escalate shouldRetry w.tracker.forced).1,
        escalated chunk shouldRetry w) := rfl

/-- The world in which the stubs of a round are known. -/
def withStubs (chunk : Chunk) (outputs : Outputs) (compiled : CompiledItems) (w : World) :
    World :=
  { w with
    tempRoots := outputs.entries.foldl
      (fun temp (target, root) => temp.add target (Path.ofString root)) w.tempRoots
    session := w.session.setState chunk
      ((w.session.state chunk).rememberStubs compiled.values.flatten) }

theorem run_registerStubs (job : Job) (compiled : CompiledItems) (w : World) :
    registerStubs chunk job compiled w =
      (.ok (), withStubs chunk job.generationOutputs compiled w) := rfl

/-- A round without files is decided at once. Any other needs a place for each class. -/
theorem openRound_cases {dirty : DirtyFiles} {opening : Opening}
    (h : openRound ctx builder chunk dirty w = (.ok opening, v)) :
    changedFiles ctx.project builder.settings builder.role dirty = [] ∧ v = w ∧
        opening = .decided (if (w.session.state chunk).needsRound builder.role
          then .additionalPassRequired else .nothingDone) ∨
      changedFiles ctx.project builder.settings builder.role dirty ≠ [] ∧
        (finalOutputs ctx builder.name chunk w = (.ok none, v) ∧ opening = .decided .abort ∨
          ∃ finals, finalOutputs ctx builder.name chunk w = (.ok (some finals), v) ∧
            opening = .due (changedFiles ctx.project builder.settings builder.role dirty)
              finals) := by
  unfold openRound at h
  split at h
  · rename_i hempty
    rw [run_bind_of_ok (run_verdictOr _ _ _ w)] at h
    cases h
    exact .inl ⟨by simpa using hempty, rfl, rfl⟩
  · rename_i hempty
    right
    refine ⟨by simpa using hempty, ?_⟩
    obtain ⟨found, u, hfinals, h⟩ := bind_eq_ok_iff.mp h
    cases found with
    | none =>
      cases h
      exact .inl ⟨hfinals, rfl⟩
    | some finals =>
      cases h
      exact .inr ⟨finals, hfinals, rfl⟩

/-- A round with something to compile has files and a place for each class. -/
theorem due_of_openRound {dirty : DirtyFiles} {files : List Path}
    {finals : OrderedMap TargetId String}
    (h : openRound ctx builder chunk dirty w = (.ok (.due files finals), v)) :
    files = changedFiles ctx.project builder.settings builder.role dirty ∧ files ≠ [] ∧
      finalOutputs ctx builder.name chunk w = (.ok (some finals), v) := by
  rcases openRound_cases h with ⟨-, -, hdecided⟩ | ⟨hfiles, ⟨-, hdecided⟩ | ⟨_, hfinals, hdue⟩⟩
  · cases hdecided
  · cases hdecided
  · cases hdue
    exact ⟨rfl, hfiles, hfinals⟩

/-- A round that is decided at once has compiled nothing and orders nothing. -/
theorem decided_of_openRound {dirty : DirtyFiles} {verdict : Verdict}
    (h : openRound ctx builder chunk dirty w = (.ok (.decided verdict), v)) :
    verdict ≠ .ok ∧ verdict ≠ .chunkRebuildRequired ∧ (verdict = .abort ∨
      changedFiles ctx.project builder.settings builder.role dirty = []) := by
  rcases openRound_cases h with ⟨hempty, -, hdecided⟩ | ⟨-, ⟨-, hdecided⟩ | ⟨_, -, hdue⟩⟩
  · split at hdecided <;> cases hdecided <;> exact ⟨nofun, nofun, .inr hempty⟩
  · cases hdecided
    exact ⟨nofun, nofun, .inl rfl⟩
  · cases hdue

-- ---------------------------------------------------------------------------
-- The run
-- ---------------------------------------------------------------------------

/-- The compiler ran to its end, and its statuses were told. -/
theorem runCompiler_cases {R : World → World → Prop} [Std.Refl R] [IsTrans World R]
    {invocation : Invocation} {parameters : List String} {reported : CompilerOutput}
    (hR : Across ctx R (invocation.program ctx parameters w).actions)
    (h : runCompiler ctx chunk invocation parameters w = (.ok reported, v)) :
    ∃ u, R { w with calls := w.calls ++ [invocation.call parameters w] } u ∧
      Quiet { u with outputs := u.outputs ++ [reported] } v ∧ reported.exitCode ≠ none := by
  unfold runCompiler at h
  obtain ⟨_, _, hget, h⟩ := bind_eq_ok_iff.mp h
  cases hget
  cases hrun : invocation.run ctx (fun status => ctx.refuses (statusMessage chunk status))
      parameters w with
  | mk running failure? =>
    simp only [hrun] at h
    obtain ⟨_, _, hset, h⟩ := bind_eq_ok_iff.mp h
    cases hset
    obtain ⟨_, t, htell, h⟩ := bind_eq_ok_iff.mp h
    cases failure? with
    | some failure => cases h
    | none =>
      cases h
      obtain ⟨u, hu, hworld, hexit⟩ := Invocation.run_cases hR hrun
      refine ⟨u, hu, ?_, hexit⟩
      rw [← hworld]
      have hquiet : Keeps Quiet (running.reported.statuses.forM fun status =>
          tell ctx (statusMessage chunk status)) :=
        Keeps.forM fun status _ => quiet_tell ctx _
      exact hquiet.of_eq htell

/-- A job ends with an order to rebuild, or with what it made announced. -/
theorem runJob_cases {job : Job} {verdict : Verdict}
    (h : runJob ctx builder chunk job w = (.ok verdict, v)) :
    ∃ invocation reported compiled t u,
      launch ctx builder chunk job w = (.ok invocation, w) ∧
      runCompiler ctx chunk invocation (programParameters job.optimize builder.role
        job.argumentFile builder.settings.invokeDynamic) w = (.ok reported, t) ∧
      reconcileRun ctx builder.name chunk job.generationOutputs job.compilerOutput
        reported.compiled t = (.ok compiled, u) ∧
      (verdict = .chunkRebuildRequired ∧ v = escalated chunk reported.shouldRetry u ∨
        announce ctx builder chunk job
            (reported.messages chunk.representative.name.display) compiled
            (escalated chunk reported.shouldRetry u) = (.ok (), v) ∧
          verdict = if (v.session.state chunk).needsRound builder.role
            then .additionalPassRequired else .ok) := by
  obtain ⟨reported, t, hcompile, h⟩ := bind_eq_ok_iff.mp h
  obtain ⟨invocation, t₀, hlaunch, hrun⟩ := bind_eq_ok_iff.mp hcompile
  have ht₀ : w = t₀ := by rw [← run_launch job w, hlaunch]
  subst ht₀
  obtain ⟨compiled, u, hreconcile, h⟩ := bind_eq_ok_iff.mp h
  refine ⟨invocation, reported, compiled, t, u, hlaunch, hrun, hreconcile, ?_⟩
  rw [run_bind_of_ok (run_orderRebuild _ u)] at h
  split at h
  · cases h
    exact .inl ⟨rfl, rfl⟩
  · obtain ⟨_, t', hannounce, h⟩ := bind_eq_ok_iff.mp h
    simp only [run_verdictOr] at h
    cases h
    exact .inr ⟨hannounce, rfl⟩

/-- What is announced with the builder's role: stubs, or classes. -/
theorem announce_cases {job : Job} {messages : List Message} {compiled : CompiledItems}
    (h : announce ctx builder chunk job messages compiled w = (.ok (), v)) :
    builder.role = .stubs ∧
        messages.forM (tell ctx) (withStubs chunk job.generationOutputs compiled w) =
          (.ok (), v) ∨
      builder.role = .classes ∧ ∃ u, messages.forM (tell ctx) w = (.ok (), u) ∧
        registerRound ctx builder.name job.files compiled u = (.ok (), v) := by
  unfold announce at h
  cases hrole : builder.role with
  | stubs =>
    simp only [hrole] at h
    rw [run_bind_of_ok (run_registerStubs job compiled w)] at h
    exact .inl ⟨rfl, h⟩
  | classes =>
    simp only [hrole] at h
    obtain ⟨_, u, htell, h⟩ := bind_eq_ok_iff.mp h
    exact .inr ⟨rfl, u, htell, h⟩

-- ---------------------------------------------------------------------------
-- Whole rounds
-- ---------------------------------------------------------------------------

/-- The world in which a round has tidied up, but for its argument file. -/
def cleared (role : Role) (chunk : Chunk) (w : World) : World :=
  match role with
  | .stubs => w
  | .classes =>
    { w with
      session := w.session.setState chunk { w.session.state chunk with marked := false } }

theorem run_clearMarker (role : Role) (w : World) :
    clearMarker role chunk w = (.ok (), cleared role chunk w) := by
  cases role <;> rfl

theorem files_cleared (role : Role) (w : World) : (cleared role chunk w).files = w.files := by
  cases role <;> rfl

/-- The round is tidied up after: its argument file is gone, and the marker is cleared. -/
theorem tidyUp_cases {argumentFile? : Option Path}
    (h : tidyUp builder chunk argumentFile? w = (.ok (), v)) :
    ∃ u, Quiet w u ∧ v = cleared builder.role chunk u := by
  unfold tidyUp at h
  obtain ⟨_, u, hremove, h⟩ := bind_eq_ok_iff.mp h
  rw [run_clearMarker] at h
  cases h
  refine ⟨u, ?_, rfl⟩
  have hquiet : Keeps Quiet (removeArgumentFile argumentFile?) := by
    unfold removeArgumentFile
    split
    · exact quiet_withFiles (FileAction.sameCwd_removeFileIfPresent _)
    · exact Keeps.pure _
  exact hquiet.of_eq hremove

/-- A round without an argument file is tidied up by its marker. -/
theorem run_tidyUp_none (builder : Builder) (chunk : Chunk) (w : World) :
    tidyUp builder chunk none w = (.ok (), cleared builder.role chunk w) := by
  simp only [tidyUp, removeArgumentFile, run_bind, run_pure, run_clearMarker]

theorem run_timed_of_name {name : String} (hname : chunk.name = .ok name)
    (result : Except Failure Verdict) (w : World) : timed chunk result w = (.ok (), w) := by
  simp only [timed, hname, run_pure]

theorem run_closeRound {name : String} (hname : chunk.name = .ok name) (builder : Builder)
    (argumentFile? : Option Path) (result : Except Failure Verdict) (w : World) :
    closeRound builder chunk argumentFile? result w =
      (do tidyUp builder chunk argumentFile?; ofExcept result : Build Verdict) w := by
  rw [closeRound, run_bind_of_ok (run_timed_of_name hname result w)]

/-- Timing a round changes nothing. -/
theorem run_timed_world (result : Except Failure Verdict) (w : World) :
    (timed chunk result w).2 = w := by
  cases hname : chunk.name with
  | ok name => simp only [timed, hname, run_pure]
  | error fault => cases result <;> simp only [timed, hname, run_throw]

theorem run_timed {result : Except Failure Verdict} {a : Unit}
    (h : timed chunk result w = (.ok a, v)) : w = v := by
  rw [← run_timed_world result w, h]

theorem runRound_cases {files : List Path} {finals : OrderedMap TargetId String}
    {verdict : Verdict} (h : runRound ctx builder chunk files finals w = (.ok verdict, v)) :
    ∃ job t u, prepare ctx builder chunk files finals w = (.ok job, t) ∧
      runJob ctx builder chunk job t = (.ok verdict, u) ∧
      tidyUp builder chunk (some job.argumentFile) u = (.ok (), v) := by
  unfold runRound at h
  obtain ⟨prepared, t, hprepare, h⟩ := bind_eq_ok_iff.mp h
  cases prepared with
  | error failure =>
    obtain ⟨_, _, hfailed, h⟩ := bind_eq_ok_iff.mp h
    cases hfailed
    obtain ⟨_, _, _, h⟩ := bind_eq_ok_iff.mp h
    obtain ⟨_, _, _, h⟩ := bind_eq_ok_iff.mp h
    cases h
  | ok job =>
    obtain ⟨result, u, hjob, h⟩ := bind_eq_ok_iff.mp h
    obtain ⟨_, u', htimed, h⟩ := bind_eq_ok_iff.mp h
    have hu := run_timed htimed
    subst hu
    obtain ⟨_, v', htidy, h⟩ := bind_eq_ok_iff.mp h
    rw [run_ofExcept] at h
    cases result with
    | error failure => cases h
    | ok found =>
      cases h
      exact ⟨job, t, u, attempt_eq_ok_iff.mp hprepare, attempt_eq_ok_iff.mp hjob, htidy⟩

/-- A round is decided at once, or runs its job; either way it tidies up. -/
theorem round_cases {dirty : DirtyFiles} {verdict : Verdict}
    (h : round ctx builder chunk dirty w = (.ok verdict, v)) :
    ∃ opening u, openRound ctx builder chunk dirty (stated chunk w) = (.ok opening, u) ∧
      (opening = .decided verdict ∧ v = cleared builder.role chunk u ∨
        ∃ files finals job s t, opening = .due files finals ∧
          prepare ctx builder chunk files finals u = (.ok job, s) ∧
          runJob ctx builder chunk job s = (.ok verdict, t) ∧
          tidyUp builder chunk (some job.argumentFile) t = (.ok (), v)) := by
  unfold round at h
  rw [run_bind_of_ok (run_chunkState w)] at h
  obtain ⟨opened, u, hopen, h⟩ := bind_eq_ok_iff.mp h
  cases opened with
  | error failure =>
    obtain ⟨_, _, _, h⟩ := bind_eq_ok_iff.mp h
    cases h
  | ok opening =>
    refine ⟨opening, u, attempt_eq_ok_iff.mp hopen, ?_⟩
    cases opening with
    | decided decided =>
      obtain ⟨_, v', htidy, h⟩ := bind_eq_ok_iff.mp h
      cases h
      rw [run_tidyUp_none] at htidy
      cases htidy
      exact .inl ⟨rfl, rfl⟩
    | due files finals =>
      obtain ⟨job, s, t, hprepare, hjob, htidy⟩ := runRound_cases h
      exact .inr ⟨files, finals, job, s, t, rfl, hprepare, hjob, htidy⟩

/-- A round without files is decided by the marker. -/
theorem run_round_without_files (ctx : Context) (builder : Builder) (chunk : Chunk)
    {dirty : DirtyFiles}
    (h : changedFiles ctx.project builder.settings builder.role dirty = []) :
    round ctx builder chunk dirty w =
      (.ok (if (w.session.state chunk).needsRound builder.role then .additionalPassRequired
        else .nothingDone), cleared builder.role chunk (stated chunk w)) := by
  have hopen : openRound ctx builder chunk dirty (stated chunk w) =
      (.ok (.decided (if (w.session.state chunk).needsRound builder.role
        then .additionalPassRequired else .nothingDone)), stated chunk w) := by
    rw [openRound, if_pos (by rw [h]; rfl), run_bind_of_ok (run_verdictOr _ _ _ _), stated,
      Session.state_setState]
    rfl
  rw [round, run_bind_of_ok (run_chunkState w), run_bind_of_ok (attempt_eq_ok_iff.mpr hopen)]
  simp only [run_bind, run_tidyUp_none, run_pure]

end GroovyRounds.Build
