import GroovyRounds.Proofs.Build.Frame

/-!
# What a run of the compiler does

Whether it runs in this process or in a child process, the compiler program
changes the world by its actions only, one after another. So whatever holds
across each of them holds across the whole run (`across_execute`).
-/

namespace GroovyRounds

-- ---------------------------------------------------------------------------
-- Actions
-- ---------------------------------------------------------------------------

/-- What an action of the compiler program does to the world. -/
inductive ActionEffect (ctx : Context) : CompilerAction → World → World → Prop where
  | emit (stream text : String) (w : World) : ActionEffect ctx (.emit stream text) w w
  | write (p : Path) (content : List UInt8) (w : World) :
      ActionEffect ctx (.write p content) w
        { w with files := (Running.writeDeep p content w.files).2 }
  | remove (p : Path) (w : World) :
      ActionEffect ctx (.remove p) w { w with files := (FileAction.removeFile p w.files).2 }
  | postProcess (chunk : Chunk) (compiled : Option String) (w : World) :
      ActionEffect ctx (.postProcess chunk compiled) w (w.postProcess ctx chunk compiled)
  | schedule {chunk : Chunk} {source : Path} {v w : World}
      (h : v.schedule? ctx chunk source = some w) :
      ActionEffect ctx (.schedule chunk source) v w
  /-- A source that cannot be scheduled is not. -/
  | unscheduled (chunk : Chunk) (source : Path) (w : World) :
      ActionEffect ctx (.schedule chunk source) w w

/-- The relation holds across every action, whatever it does. -/
def Across (ctx : Context) (R : World → World → Prop) (actions : List CompilerAction) : Prop :=
  ∀ action ∈ actions, ∀ v w, ActionEffect ctx action v w → R v w

theorem Across.tail {ctx : Context} {R : World → World → Prop} {action : CompilerAction}
    {actions : List CompilerAction} (h : Across ctx R (action :: actions)) :
    Across ctx R actions :=
  fun other hother => h other (List.mem_cons_of_mem _ hother)

-- ---------------------------------------------------------------------------
-- What no action touches
-- ---------------------------------------------------------------------------

/-- Only files, tracker and session changed: nothing was registered, told or recorded. -/
structure Unrecorded (before after : World) : Prop where
  cwd : after.files.cwd = before.files.cwd
  tempRoots : after.tempRoots = before.tempRoots
  index : after.index = before.index
  graph : after.graph = before.graph
  classes : after.classes = before.classes
  messages : after.messages = before.messages
  calls : after.calls = before.calls
  outputs : after.outputs = before.outputs
  journal : after.journal = before.journal
  console : after.console = before.console

namespace Unrecorded

variable {u v w : World}

theorem refl (w : World) : Unrecorded w w :=
  ⟨rfl, rfl, rfl, rfl, rfl, rfl, rfl, rfl, rfl, rfl⟩

theorem trans (h : Unrecorded u v) (h' : Unrecorded v w) : Unrecorded u w where
  cwd := h'.cwd.trans h.cwd
  tempRoots := h'.tempRoots.trans h.tempRoots
  index := h'.index.trans h.index
  graph := h'.graph.trans h.graph
  classes := h'.classes.trans h.classes
  messages := h'.messages.trans h.messages
  calls := h'.calls.trans h.calls
  outputs := h'.outputs.trans h.outputs
  journal := h'.journal.trans h.journal
  console := h'.console.trans h.console

instance : Std.Refl Unrecorded := ⟨refl⟩

instance : IsTrans World Unrecorded := ⟨fun _ _ _ => trans⟩

end Unrecorded

theorem FileAction.sameCwd_writeDeep (p : Path) (content : List UInt8) :
    Program.Keeps SameCwd (Running.writeDeep p content) :=
  Program.Keeps.bind (sameCwd_makeDirectories _ _) fun _ => sameCwd_writeBytes _ _

/-- A source that can be scheduled is, and its chunk is marked. -/
theorem World.eq_of_schedule? {ctx : Context} {chunk : Chunk} {source : Path} {v w : World}
    (h : v.schedule? ctx chunk source = some w) :
    w = { v with
      tracker := v.tracker.schedule source
      session := v.session.setState chunk { v.session.state chunk with marked := true } } := by
  unfold schedule? at h
  split at h
  · cases h
  · exact (Option.some.inj h).symm

theorem unrecorded_effect {ctx : Context} {action : CompilerAction} {v w : World}
    (h : ActionEffect ctx action v w) : Unrecorded v w := by
  cases h with
  | emit stream text => exact Unrecorded.refl v
  | write p content =>
    exact { Unrecorded.refl v with cwd := FileAction.sameCwd_writeDeep p content v.files }
  | remove p => exact { Unrecorded.refl v with cwd := FileAction.sameCwd_removeFile p v.files }
  | postProcess chunk compiled => exact { Unrecorded.refl v with }
  | schedule h =>
    obtain rfl := World.eq_of_schedule? h
    exact { Unrecorded.refl v with }
  | unscheduled chunk source => exact Unrecorded.refl v

-- ---------------------------------------------------------------------------
-- In process
-- ---------------------------------------------------------------------------

namespace Running

variable {ctx : Context} {refuses : Refusal} {R : World → World → Prop}

@[simp] theorem world_feed (stream text : String) (running : Running) :
    (running.feed refuses stream text).1.world = running.world := rfl

@[simp] theorem world_finish (code : Int) (running : Running) :
    (running.finish refuses code).1.world = running.world := rfl

theorem world_onFiles (action : FileAction Unit) (running : Running) :
    (running.onFiles action).1.world =
      { running.world with files := (action running.world.files).2 } := by
  unfold onFiles
  split <;> simp [*]

variable (refuses) in
theorem effect_perform (running : Running) (action : CompilerAction) :
    ActionEffect ctx action running.world (running.perform ctx refuses action).1.world := by
  cases action with
  | emit stream text => exact .emit stream text _
  | write p content =>
    rw [perform, world_onFiles]
    exact .write p content _
  | remove p =>
    rw [perform, world_onFiles]
    exact .remove p _
  | postProcess chunk compiled => exact .postProcess chunk compiled _
  | schedule chunk source =>
    simp only [perform, schedule]
    split
    · rename_i h
      exact .schedule h
    · exact .unscheduled chunk source _

variable [Std.Refl R] [IsTrans World R]

theorem across_performAll {actions : List CompilerAction} (h : Across ctx R actions)
    (running : Running) :
    R running.world (running.performAll ctx refuses actions).1.world := by
  induction actions generalizing running with
  | nil => exact Std.Refl.refl _
  | cons action actions ih =>
    have hstep := h action List.mem_cons_self _ _ (effect_perform refuses running action)
    unfold performAll
    cases hp : running.perform ctx refuses action with
    | mk next failure? =>
      rw [hp] at hstep
      cases failure? with
      | some failure => exact hstep
      | none => exact IsTrans.trans _ _ _ hstep (ih h.tail next)

omit [Std.Refl R] [IsTrans World R] in
theorem world_conclude (ending : CompilerEnding) (running : Running) :
    (running.conclude refuses ending).1.world = running.world := by
  unfold conclude
  split
  · unfold endReturned
    split <;> simp
  · rfl
  · unfold endFailed
    split
    · rename_i h
      simpa using congrArg (·.1.world) h.symm
    · rename_i h
      simpa using congrArg (·.1.world) h.symm

theorem across_runInProcess {run : CompilerRun} (h : Across ctx R run.actions)
    (running : Running) :
    R running.world (running.runInProcess ctx refuses run).1.world := by
  simp only [runInProcess, world_conclude]
  exact across_performAll h running

-- ---------------------------------------------------------------------------
-- In a child process
-- ---------------------------------------------------------------------------

theorem across_performChild {actions : List CompilerAction} (h : Across ctx R actions)
    (w : World) (child : ChildOutput) : R w (performChild ctx actions w child).1 := by
  induction actions generalizing w child with
  | nil => exact Std.Refl.refl _
  | cons action actions ih =>
    have hstep := h action List.mem_cons_self
    cases action with
    | emit stream text => exact ih h.tail _ _
    | postProcess chunk compiled =>
      exact IsTrans.trans _ _ _ (hstep _ _ (.postProcess chunk compiled w)) (ih h.tail _ _)
    | schedule chunk source =>
      refine IsTrans.trans _ _ _ (hstep w _ ?_) (ih h.tail _ _)
      cases hs : w.schedule? ctx chunk source with
      | some v => exact .schedule hs
      | none => exact .unscheduled chunk source w
    | write p content =>
      have hwrite := hstep _ _ (.write p content w)
      unfold performChild
      split
      · rename_i hw
        rw [hw] at hwrite
        exact IsTrans.trans _ _ _ hwrite (ih h.tail _ _)
      · rename_i hw
        rw [hw] at hwrite
        exact hwrite
    | remove p =>
      have hremove := hstep _ _ (.remove p w)
      unfold performChild
      split
      · rename_i hw
        rw [hw] at hremove
        exact IsTrans.trans _ _ _ hremove (ih h.tail _ _)
      · rename_i hw
        rw [hw] at hremove
        exact hremove

omit [Std.Refl R] [IsTrans World R] in
theorem world_readStream (charset : Charset) (stream text : String) (running : Running) :
    (running.readStream refuses charset stream text).1.world = running.world := by
  unfold readStream
  split <;> simp

omit [Std.Refl R] [IsTrans World R] in
theorem world_readChild (charset : Charset) (child : ChildOutput) (running : Running) :
    (running.readChild refuses charset child).1.world = running.world := by
  simp only [readChild]
  split <;> simp [world_readStream]

theorem across_runForked {run : CompilerRun} (h : Across ctx R run.actions) (charset : Charset)
    (running : Running) :
    R running.world (running.runForked ctx refuses charset run).1.world := by
  simp only [runForked, world_readChild]
  exact across_performChild h running.world {}

-- ---------------------------------------------------------------------------
-- How a run ends
-- ---------------------------------------------------------------------------

omit [Std.Refl R] [IsTrans World R] in
/-- A run that is finished has an exit code. -/
theorem exitCode_finish {code : Int} {running after : Running}
    (h : running.finish refuses code = (after, none)) :
    after.reported.exitCode = some code := by
  simp only [finish, CompilerOutput.finish] at h
  split at h
  · cases h
  · cases h
    rfl

omit [Std.Refl R] [IsTrans World R] in
theorem exitCode_conclude {ending : CompilerEnding} {running after : Running}
    (h : running.conclude refuses ending = (after, none)) :
    after.reported.exitCode ≠ none := by
  unfold conclude at h
  split at h
  · unfold endReturned at h
    split at h
    · cases h
    · simp [exitCode_finish h]
  · cases h
  · unfold endFailed at h
    split at h
    · cases h
    · simp [exitCode_finish h]

omit [Std.Refl R] [IsTrans World R] in
theorem exitCode_readChild {charset : Charset} {child : ChildOutput} {running after : Running}
    (h : running.readChild refuses charset child = (after, none)) :
    after.reported.exitCode ≠ none := by
  simp only [readChild] at h
  split at h
  · cases h
  · simp [exitCode_finish h]

end Running

-- ---------------------------------------------------------------------------
-- Whole runs
-- ---------------------------------------------------------------------------

namespace Invocation

open Running

variable {ctx : Context} {refuses : Running.Refusal} {R : World → World → Prop}
variable {invocation : Invocation} {parameters : List String} {w : World} {running : Running}

theorem across_execute [Std.Refl R] [IsTrans World R] {run : CompilerRun}
    (h : Across ctx R run.actions) (charset : Charset) (running : Running) :
    R running.world (invocation.execute ctx refuses charset run running).1.world := by
  cases invocation with
  | inProcess => exact across_runInProcess h running
  | forked => exact across_runForked h charset running

theorem exitCode_execute {run : CompilerRun} {charset : Charset} {before after : Running}
    (h : invocation.execute ctx refuses charset run before = (after, none)) :
    after.reported.exitCode ≠ none := by
  cases invocation with
  | inProcess => exact exitCode_conclude h
  | forked => exact exitCode_readChild h

/-- A run that came to its end started the compiler once and kept what it reported. Its actions
are all that happened in between. -/
theorem run_cases [Std.Refl R] [IsTrans World R]
    (hR : Across ctx R (invocation.program ctx parameters w).actions)
    (h : invocation.run ctx refuses parameters w = (running, none)) :
    ∃ u, R { w with calls := w.calls ++ [invocation.call parameters w] } u ∧
      running.world = { u with outputs := u.outputs ++ [running.reported] } ∧
      running.reported.exitCode ≠ none := by
  unfold run at h
  split at h
  · cases h
  · rename_i charset _
    dsimp only at h
    obtain ⟨hclose, hnone⟩ := Prod.mk.inj h
    generalize hlast : invocation.execute ctx refuses charset _ _ = last at hclose hnone
    obtain ⟨last, failure?⟩ := last
    dsimp only at hclose hnone
    subst hclose hnone
    have hexit := exitCode_execute hlast
    refine ⟨last.world, ?_, rfl, hexit⟩
    have hacross : R _ (invocation.execute ctx refuses charset
        (invocation.program ctx parameters w) _).1.world := across_execute hR charset
      { world := { w with calls := w.calls ++ [invocation.call parameters w] } }
    rwa [hlast] at hacross

end Invocation

end GroovyRounds
