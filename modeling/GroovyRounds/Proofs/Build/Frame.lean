import GroovyRounds.Build.ChunkBuild
import GroovyRounds.Proofs.FileSystem.WorkingDirectory

/-!
# What the parts of a round leave alone

All parts of a round but the run of the compiler keep the bookkeeping of the
rounds and only add messages: that is `Steady`. Up to the run, and again from
there to the registration of what was made, they only touch files besides:
that is `Quiet`. Most of them tell nothing either: that is `FilesOnly`.
-/

namespace GroovyRounds

-- ---------------------------------------------------------------------------
-- Steady changes
-- ---------------------------------------------------------------------------

/-- Between the two worlds the rounds were left as they were; messages may have been told. -/
structure Steady (before after : World) : Prop where
  cwd : after.files.cwd = before.files.cwd
  tempRoots : after.tempRoots = before.tempRoots
  session : after.session = before.session
  current : after.tracker.current = before.tracker.current
  next : after.tracker.next = before.tracker.next
  forced : after.tracker.forced = before.tracker.forced
  calls : after.calls = before.calls
  outputs : after.outputs = before.outputs
  journal : after.journal = before.journal
  messages : before.messages <+: after.messages

namespace Steady

variable {u v w : World}

theorem refl (w : World) : Steady w w :=
  ⟨rfl, rfl, rfl, rfl, rfl, rfl, rfl, rfl, rfl, List.prefix_refl _⟩

theorem trans (h : Steady u v) (h' : Steady v w) : Steady u w where
  cwd := h'.cwd.trans h.cwd
  tempRoots := h'.tempRoots.trans h.tempRoots
  session := h'.session.trans h.session
  current := h'.current.trans h.current
  next := h'.next.trans h.next
  forced := h'.forced.trans h.forced
  calls := h'.calls.trans h.calls
  outputs := h'.outputs.trans h.outputs
  journal := h'.journal.trans h.journal
  messages := h.messages.trans h'.messages

instance : Std.Refl Steady := ⟨refl⟩

instance : IsTrans World Steady := ⟨fun _ _ _ => trans⟩

end Steady

-- ---------------------------------------------------------------------------
-- Quiet changes
-- ---------------------------------------------------------------------------

/-- Only files and the console changed besides, so nothing was registered. -/
structure Quiet (before after : World) : Prop extends Steady before after where
  tracker : after.tracker = before.tracker
  index : after.index = before.index
  graph : after.graph = before.graph
  classes : after.classes = before.classes

namespace Quiet

variable {u v w : World}

theorem refl (w : World) : Quiet w w :=
  ⟨Steady.refl w, rfl, rfl, rfl, rfl⟩

theorem trans (h : Quiet u v) (h' : Quiet v w) : Quiet u w where
  toSteady := h.toSteady.trans h'.toSteady
  tracker := h'.tracker.trans h.tracker
  index := h'.index.trans h.index
  graph := h'.graph.trans h.graph
  classes := h'.classes.trans h.classes

instance : Std.Refl Quiet := ⟨refl⟩

instance : IsTrans World Quiet := ⟨fun _ _ _ => trans⟩

end Quiet

-- ---------------------------------------------------------------------------
-- Changes of the files
-- ---------------------------------------------------------------------------

/-- Nothing but files changed, and the working directory is the same. -/
structure FilesOnly (before after : World) : Prop where
  cwd : after.files.cwd = before.files.cwd
  rest : after = { before with files := after.files }

namespace FilesOnly

variable {u v w : World}

theorem refl (w : World) : FilesOnly w w :=
  ⟨rfl, rfl⟩

theorem trans (h : FilesOnly u v) (h' : FilesOnly v w) : FilesOnly u w where
  cwd := h'.cwd.trans h.cwd
  rest := by
    rw [h'.rest, h.rest]

theorem quiet (h : FilesOnly v w) : Quiet v w := by
  rw [h.rest]
  exact { Quiet.refl v with cwd := h.cwd }

instance : Std.Refl FilesOnly := ⟨refl⟩

instance : IsTrans World FilesOnly := ⟨fun _ _ _ => trans⟩

end FilesOnly

-- ---------------------------------------------------------------------------
-- Changes beside the files
-- ---------------------------------------------------------------------------

/-- The files were left as they were. -/
def SameFiles (before after : World) : Prop :=
  after.files = before.files

instance : Std.Refl SameFiles := ⟨fun _ => rfl⟩

instance : IsTrans World SameFiles := ⟨fun _ _ _ h h' => h'.trans h⟩

namespace Build

open Program

variable {α : Type}

-- ---------------------------------------------------------------------------
-- Single actions
-- ---------------------------------------------------------------------------

@[simp] theorem run_attempt (action : Build α) (w : World) :
    attempt action w = (.ok (action w).1, (action w).2) := rfl

theorem attempt_eq_ok_iff {action : Build α} {result : Except Failure α} {v w : World} :
    attempt action w = (.ok result, v) ↔ action w = (result, v) := by
  rw [run_attempt]
  constructor
  · intro h
    cases h
    rfl
  · intro h
    rw [h]

@[simp] theorem run_ofExcept (result : Except Failure α) (w : World) :
    ofExcept result w = (result, w) := by
  cases result <;> rfl

@[simp] theorem run_onFiles (action : FileAction α) (w : World) :
    onFiles action w = (.ok (action w.files).1, { w with files := (action w.files).2 }) := rfl

theorem run_withFiles (action : FileAction α) (w : World) :
    withFiles action w =
      ((action w.files).1.mapError .files, { w with files := (action w.files).2 }) := by
  simp only [withFiles, run_bind, run_onFiles]
  cases (action w.files).1 <;> rfl

theorem keeps_attempt {R : World → World → Prop} {action : Build α} (h : Keeps R action) :
    Keeps R (attempt action) :=
  h

theorem keeps_ofExcept {R : World → World → Prop} [Std.Refl R] (result : Except Failure α) :
    Keeps R (ofExcept result) := by
  intro w
  rw [run_ofExcept]
  exact Std.Refl.refl w

theorem FilesOnly.keeps_quiet {action : Build α} (h : Keeps FilesOnly action) :
    Keeps Quiet action :=
  h.mono fun _ _ => FilesOnly.quiet

theorem filesOnly_onFiles {action : FileAction α} (h : Keeps SameCwd action) :
    Keeps FilesOnly (onFiles action) :=
  fun w => ⟨h w.files, rfl⟩

theorem quiet_onFiles {action : FileAction α} (h : Keeps SameCwd action) :
    Keeps Quiet (onFiles action) :=
  FilesOnly.keeps_quiet (filesOnly_onFiles h)

theorem filesOnly_withFiles {action : FileAction α} (h : Keeps SameCwd action) :
    Keeps FilesOnly (withFiles action) := by
  unfold withFiles
  refine Keeps.bind (filesOnly_onFiles h) fun result => ?_
  split
  · exact Keeps.pure _
  · exact Keeps.throw _

theorem quiet_withFiles {action : FileAction α} (h : Keeps SameCwd action) :
    Keeps Quiet (withFiles action) :=
  FilesOnly.keeps_quiet (filesOnly_withFiles h)

theorem quiet_print (text : String) : Keeps Quiet (print text) :=
  fun w => { Quiet.refl w with }

theorem quiet_tell (ctx : Context) (message : Message) : Keeps Quiet (tell ctx message) := by
  unfold tell
  split
  · exact Keeps.throw _
  · refine Keeps.bind (Keeps.modify fun w => ?_) fun _ => ?_
    · exact { Quiet.refl w with messages := List.prefix_append _ _ }
    · split
      · exact quiet_print _
      · exact Keeps.pure _

/-- A message that was told is the last one. -/
theorem messages_tell {ctx : Context} {message : Message} {a : PUnit} {v w : World}
    (h : tell ctx message w = (.ok a, v)) : v.messages = w.messages ++ [message] := by
  unfold tell at h
  cases hrefuses : ctx.refuses message with
  | some failure =>
    simp only [hrefuses] at h
    cases h
  | none =>
    simp only [hrefuses] at h
    obtain ⟨_, _, hput, h⟩ := bind_eq_ok_iff.mp h
    cases hput
    cases hecho : ctx.echo with
    | none =>
      simp only [hecho] at h
      cases h
      rfl
    | some verbose =>
      simp only [hecho] at h
      cases h
      rfl

theorem sameFiles_tell (ctx : Context) (message : Message) :
    Keeps SameFiles (tell ctx message) := by
  unfold tell
  split
  · exact Keeps.throw _
  · refine Keeps.bind (Keeps.modify fun w => rfl) fun _ => ?_
    split
    · exact Keeps.modify fun w => rfl
    · exact Keeps.pure _

theorem keeps_chunkName {R : World → World → Prop} [Std.Refl R] (chunk : Chunk) :
    Keeps R (chunkName chunk) := by
  unfold chunkName
  split
  · exact Keeps.pure _
  · exact Keeps.throw _

theorem chunkName_eq_ok_iff {chunk : Chunk} {name : String} {v w : World} :
    chunkName chunk w = (.ok name, v) ↔ chunk.name = .ok name ∧ v = w := by
  unfold chunkName
  cases chunk.name with
  | error fault =>
    constructor
    · intro h
      cases h
    · rintro ⟨hname, -⟩
      cases hname
  | ok found =>
    constructor
    · intro h
      cases h
      exact ⟨rfl, rfl⟩
    · rintro ⟨hname, rfl⟩
      cases hname
      rfl

-- ---------------------------------------------------------------------------
-- Before the run
-- ---------------------------------------------------------------------------

theorem filesOnly_clearDirectory (directory : Path) :
    Keeps FilesOnly (clearDirectory directory) := by
  unfold clearDirectory
  refine Keeps.bind (filesOnly_withFiles (FileAction.keeps_probe _)) fun found => ?_
  split
  · refine Keeps.bind (filesOnly_onFiles (FileAction.sameCwd_removeTree _)) fun result => ?_
    split
    · exact Keeps.pure _
    · exact Keeps.throw _
  · exact Keeps.pure _

theorem filesOnly_makeDirectory (directory : Path) :
    Keeps FilesOnly (makeDirectory directory) := by
  unfold makeDirectory
  refine Keeps.bind (filesOnly_onFiles (FileAction.sameCwd_makeDirectories _ _)) fun result => ?_
  split
  · exact Keeps.pure _
  · exact Keeps.throw _

theorem filesOnly_stubOutputs (ctx : Context) (chunk : Chunk) :
    Keeps FilesOnly (stubOutputs ctx chunk) := by
  refine Keeps.foldlM (fun outputs target _ => ?_) _
  refine Keeps.bind (keeps_ofExcept _) fun directory => ?_
  refine Keeps.bind ?_ fun _ => Keeps.pure _
  exact Keeps.bind (filesOnly_clearDirectory _) fun _ => filesOnly_makeDirectory _

/-- Output directories are made until one is missing. -/
theorem keeps_makeOutputs {R : World → World → Prop} [Std.Refl R] [IsTrans World R]
    {ctx : Context} {builder : String} (hfiles : ∀ v w, FilesOnly v w → R v w)
    (hmissing : ∀ target, Keeps R (tell ctx (noOutputMessage target builder)))
    (targets : List TargetId) (outputs : FinalOutputs) :
    Keeps R (makeOutputs ctx builder targets outputs) := by
  induction targets generalizing outputs with
  | nil => exact Keeps.pure _
  | cons target targets ih =>
    unfold makeOutputs
    split
    · exact Keeps.bind (hmissing _) fun _ => Keeps.pure _
    · refine Keeps.bind ((filesOnly_withFiles
        (FileAction.sameCwd_makeDirectories _ _)).mono hfiles) fun _ => ?_
      exact Keeps.bind Keeps.get fun _ => ih _

/-- Nothing is told of outputs that are all there. -/
theorem filesOnly_of_makeOutputs {ctx : Context} {builder : String} {targets : List TargetId}
    {outputs finals : FinalOutputs} {v w : World}
    (h : makeOutputs ctx builder targets outputs w = (.ok (some finals), v)) : FilesOnly w v := by
  induction targets generalizing outputs w with
  | nil =>
    cases h
    exact FilesOnly.refl _
  | cons target targets ih =>
    cases houtput : target.output with
    | none =>
      simp only [makeOutputs, houtput] at h
      obtain ⟨_, _, _, h⟩ := bind_eq_ok_iff.mp h
      cases h
    | some directory =>
      simp only [makeOutputs, houtput] at h
      obtain ⟨_, u, hmade, h⟩ := bind_eq_ok_iff.mp h
      obtain ⟨_, _, hget, h⟩ := bind_eq_ok_iff.mp h
      cases hget
      exact ((filesOnly_withFiles (FileAction.sameCwd_makeDirectories _ _)).of_eq hmade).trans
        (ih h)

theorem filesOnly_writeArgumentFile (directory : Path) (file : ArgumentFile) (encoding : Json) :
    Keeps FilesOnly (writeArgumentFile directory file encoding) := by
  have hcreate (content : List UInt8) : Keeps FilesOnly
      (withFiles (FileAction.createFresh directory parameterFront ".txt" content)) :=
    filesOnly_withFiles (FileAction.sameCwd_createFresh _ _ _ _)
  unfold writeArgumentFile
  dsimp only
  split
  · exact Keeps.bind (hcreate _) fun _ => Keeps.throw _
  · exact hcreate _

theorem filesOnly_generationOutputs (ctx : Context) (role : Role) (chunk : Chunk)
    (finals : OrderedMap TargetId String) :
    Keeps FilesOnly (generationOutputs ctx role chunk finals) := by
  cases role with
  | stubs => exact filesOnly_stubOutputs ctx chunk
  | classes => exact Keeps.pure _

theorem filesOnly_compilerOutput (chunk : Chunk) (outputs : OrderedMap TargetId String) :
    Keeps FilesOnly (compilerOutput chunk outputs) := by
  unfold compilerOutput
  split
  · exact Keeps.pure _
  · exact Keeps.throw _

theorem filesOnly_prepare (ctx : Context) (builder : Builder) (chunk : Chunk) (files : List Path)
    (finals : OrderedMap TargetId String) :
    Keeps FilesOnly (prepare ctx builder chunk files finals) := by
  unfold prepare
  refine Keeps.bind (keeps_ofExcept _) fun optimize => Keeps.bind Keeps.get fun _ => ?_
  refine Keeps.bind (keeps_ofExcept _) fun classes => ?_
  refine Keeps.bind (filesOnly_generationOutputs ctx _ chunk finals) fun outputs => ?_
  refine Keeps.bind (filesOnly_compilerOutput chunk outputs) fun output => ?_
  refine Keeps.bind Keeps.get fun _ => ?_
  exact Keeps.bind (filesOnly_writeArgumentFile _ _ _) fun _ => Keeps.pure _

theorem quiet_prepare (ctx : Context) (builder : Builder) (chunk : Chunk) (files : List Path)
    (finals : OrderedMap TargetId String) :
    Keeps Quiet (prepare ctx builder chunk files finals) :=
  FilesOnly.keeps_quiet (filesOnly_prepare ctx builder chunk files finals)

@[simp] theorem run_verdictOr (role : Role) (chunk : Chunk) (verdict : Verdict) (w : World) :
    verdictOr role chunk verdict w =
      (.ok (if (w.session.state chunk).needsRound role then .additionalPassRequired else verdict),
        w) := by
  by_cases h : (w.session.state chunk).needsRound role <;> simp [verdictOr, run_bind, h]

theorem keeps_verdictOr {R : World → World → Prop} [Std.Refl R] (role : Role) (chunk : Chunk)
    (verdict : Verdict) : Keeps R (verdictOr role chunk verdict) := by
  intro w
  rw [run_verdictOr]
  exact Std.Refl.refl w

theorem keeps_openRound {R : World → World → Prop} [Std.Refl R] [IsTrans World R]
    {ctx : Context} {builder : Builder} (hfiles : ∀ v w, FilesOnly v w → R v w)
    (hmissing : ∀ target, Keeps R (tell ctx (noOutputMessage target builder.name)))
    (chunk : Chunk) (dirty : DirtyFiles) : Keeps R (openRound ctx builder chunk dirty) := by
  unfold openRound
  dsimp only
  split
  · exact Keeps.bind (keeps_verdictOr _ _ _) fun _ => Keeps.pure _
  · refine Keeps.bind (keeps_makeOutputs hfiles hmissing _ _) fun found => ?_
    split
    · exact Keeps.pure _
    · exact Keeps.pure _

theorem quiet_openRound (ctx : Context) (builder : Builder) (chunk : Chunk)
    (dirty : DirtyFiles) : Keeps Quiet (openRound ctx builder chunk dirty) :=
  keeps_openRound (fun _ _ => FilesOnly.quiet) (fun _ => quiet_tell ctx _) chunk dirty

-- ---------------------------------------------------------------------------
-- After the run
-- ---------------------------------------------------------------------------

theorem filesOnly_reconcile (chunk : Chunk) (owner : TargetId)
    (outputs : OrderedMap TargetId String) (compilerOutput : String) (item : OutputItem) :
    Keeps FilesOnly (reconcile chunk owner outputs compilerOutput item) := by
  unfold reconcile
  split
  · exact Keeps.pure _
  · refine Keeps.bind Keeps.get fun _ => ?_
    exact Keeps.bind (filesOnly_withFiles (FileAction.sameCwd_moveDeep _ _)) fun _ => Keeps.pure _

theorem quiet_reconcile (chunk : Chunk) (owner : TargetId) (outputs : OrderedMap TargetId String)
    (compilerOutput : String) (item : OutputItem) :
    Keeps Quiet (reconcile chunk owner outputs compilerOutput item) :=
  FilesOnly.keeps_quiet (filesOnly_reconcile _ _ _ _ _)

section Reconciling

variable {R : World → World → Prop} [Std.Refl R] [IsTrans World R] {ctx : Context}
  {builder : String} (hfiles : ∀ v w, FilesOnly v w → R v w)
  (hwarn : ∀ item owner fault, Keeps R (tell ctx (moveWarning item owner fault builder)))

include hfiles hwarn

/-- Reconciling moves files, and warns where it cannot. -/
theorem keeps_reconcileItem (chunk : Chunk) (owner : TargetId)
    (outputs : OrderedMap TargetId String) (compilerOutput : String) (item : OutputItem) :
    Keeps R (reconcileItem ctx builder chunk owner outputs compilerOutput item) := by
  unfold reconcileItem
  refine Keeps.bind (keeps_attempt ((filesOnly_reconcile _ _ _ _ _).mono hfiles)) fun result => ?_
  split
  · exact Keeps.pure _
  · split
    · exact Keeps.bind (hwarn _ _ _) fun _ => Keeps.pure _
    · exact Keeps.throw _
  · exact Keeps.throw _

theorem keeps_reconcileAll (chunk : Chunk) (outputs : OrderedMap TargetId String)
    (compilerOutput : String) (items : List OutputItem) (compiled : CompiledItems) :
    Keeps R (reconcileAll ctx builder chunk outputs compilerOutput items compiled) := by
  induction items generalizing compiled with
  | nil => exact Keeps.pure _
  | cons item items ih =>
    unfold reconcileAll
    refine Keeps.bind Keeps.get fun _ => ?_
    split
    · exact ih _
    · exact Keeps.bind (keeps_reconcileItem hfiles hwarn _ _ _ _ _) fun _ => ih _

theorem keeps_reconcileRun (chunk : Chunk) (outputs : OrderedMap TargetId String)
    (compilerOutput : String) (items : List OutputItem) :
    Keeps R (reconcileRun ctx builder chunk outputs compilerOutput items) :=
  Keeps.bind (keeps_reconcileAll hfiles hwarn _ _ _ _ _) fun _ =>
    Keeps.bind (keeps_chunkName _) fun _ => Keeps.pure _

end Reconciling

theorem quiet_reconcileItem (ctx : Context) (builder : String) (chunk : Chunk)
    (owner : TargetId) (outputs : OrderedMap TargetId String) (compilerOutput : String)
    (item : OutputItem) :
    Keeps Quiet (reconcileItem ctx builder chunk owner outputs compilerOutput item) :=
  keeps_reconcileItem (fun _ _ => FilesOnly.quiet) (fun _ _ _ => quiet_tell ctx _) _ _ _ _ _

theorem quiet_reconcileAll (ctx : Context) (builder : String) (chunk : Chunk)
    (outputs : OrderedMap TargetId String) (compilerOutput : String) (items : List OutputItem)
    (compiled : CompiledItems) :
    Keeps Quiet (reconcileAll ctx builder chunk outputs compilerOutput items compiled) :=
  keeps_reconcileAll (fun _ _ => FilesOnly.quiet) (fun _ _ _ => quiet_tell ctx _) _ _ _ _ _

theorem quiet_reconcileRun (ctx : Context) (builder : String) (chunk : Chunk)
    (outputs : OrderedMap TargetId String) (compilerOutput : String) (items : List OutputItem) :
    Keeps Quiet (reconcileRun ctx builder chunk outputs compilerOutput items) :=
  keeps_reconcileRun (fun _ _ => FilesOnly.quiet) (fun _ _ _ => quiet_tell ctx _) _ _ _ _

theorem quiet_tellAll (ctx : Context) (messages : List Message) :
    Keeps Quiet (messages.forM (tell ctx)) :=
  Keeps.forM fun message _ => quiet_tell ctx message

theorem quiet_readClass (output source : String) : Keeps Quiet (readClass output source) := by
  unfold readClass
  refine Keeps.bind (quiet_withFiles (FileAction.sameCwd_readBytes _)) fun content => ?_
  split
  · exact Keeps.pure _
  · exact Keeps.throw _

theorem Quiet.keeps_steady {action : Build α} (h : Keeps Quiet action) : Keeps Steady action :=
  h.mono fun _ _ => Quiet.toSteady

theorem steady_registerClass (target : TargetId) (output source : String) :
    Keeps Steady (registerClass target output source) :=
  Keeps.bind (Quiet.keeps_steady (quiet_readClass output source)) fun _ =>
    Keeps.modify fun w => { Steady.refl w with }

theorem steady_registerItem (ctx : Context) (builder : String) (target : TargetId)
    (item : OutputItem) : Keeps Steady (registerItem ctx builder target item) := by
  have hnote (p : Path) : Keeps Steady (modifyTracker (·.registerSucceeded p)) :=
    Keeps.modify fun w => { Steady.refl w with }
  unfold registerItem
  refine Keeps.bind (keeps_attempt (steady_registerClass _ _ _)) fun result => ?_
  cases result with
  | ok _ => exact hnote _
  | error failure => exact Keeps.bind (Quiet.keeps_steady (quiet_tell _ _)) fun _ => hnote _

theorem steady_registerRound (ctx : Context) (builder : String) (files : List Path)
    (compiled : CompiledItems) : Keeps Steady (registerRound ctx builder files compiled) := by
  refine Keeps.bind (Keeps.modify fun w => { Steady.refl w with }) fun _ => ?_
  exact Keeps.forM fun entry _ => Keeps.forM fun item _ => steady_registerItem _ _ _ _

end Build

end GroovyRounds
