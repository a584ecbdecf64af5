import GroovyRounds.Proofs.Build.Keeping
import GroovyRounds.Proofs.Build.KnownStubs
import GroovyRounds.Proofs.Build.Scheduling

/-!
# Rounds that come to no result

A round that finds nothing to do, that is aborted, or that ends with an order to
rebuild its chunk registers nothing, and a round of one role never touches what
the other role registers (`round_registers`). Both follow from two frames, the
classes and the stubs that are known: every part of a round before its
announcement keeps both (`runKeeps_sameClasses`, `runKeeps_sameStubs`).
-/

namespace GroovyRounds

open Program

-- ---------------------------------------------------------------------------
-- What rounds register
-- ---------------------------------------------------------------------------

/-- No class was registered, and no source became due or done. -/
structure SameClasses (before after : World) : Prop where
  classes : after.classes = before.classes
  graph : after.graph = before.graph
  index : after.index = before.index
  tracker : after.tracker = before.tracker

/-- No stub was registered. -/
structure SameStubs (before after : World) : Prop where
  tempRoots : after.tempRoots = before.tempRoots
  stubSources : ∀ chunk,
    (after.session.state chunk).stubSources = (before.session.state chunk).stubSources

/-- What was told between the two worlds is all of one kind. -/
def Told (P : Message → Prop) (before after : World) : Prop :=
  ∃ told, after.messages = before.messages ++ told ∧ ∀ message ∈ told, P message

namespace SameClasses

variable {u v w : World}

theorem refl (w : World) : SameClasses w w :=
  ⟨rfl, rfl, rfl, rfl⟩

theorem trans (h : SameClasses u v) (h' : SameClasses v w) : SameClasses u w where
  classes := h'.classes.trans h.classes
  graph := h'.graph.trans h.graph
  index := h'.index.trans h.index
  tracker := h'.tracker.trans h.tracker

instance : Std.Refl SameClasses := ⟨refl⟩

instance : IsTrans World SameClasses := ⟨fun _ _ _ => trans⟩

end SameClasses

namespace SameStubs

variable {u v w : World}

theorem refl (w : World) : SameStubs w w :=
  ⟨rfl, fun _ => rfl⟩

theorem trans (h : SameStubs u v) (h' : SameStubs v w) : SameStubs u w where
  tempRoots := h'.tempRoots.trans h.tempRoots
  stubSources chunk := (h'.stubSources chunk).trans (h.stubSources chunk)

instance : Std.Refl SameStubs := ⟨refl⟩

instance : IsTrans World SameStubs := ⟨fun _ _ _ => trans⟩

end SameStubs

namespace Told

variable {P : Message → Prop} {u v w : World}

theorem of_eq (h : w.messages = v.messages) : Told P v w :=
  ⟨[], by simpa using h, nofun⟩

theorem trans (h : Told P u v) (h' : Told P v w) : Told P u w := by
  obtain ⟨first, hfirst, hP⟩ := h
  obtain ⟨second, hsecond, hP'⟩ := h'
  exact ⟨first ++ second, by rw [hsecond, hfirst, List.append_assoc],
    List.forall_mem_append.mpr ⟨hP, hP'⟩⟩

instance : Std.Refl (Told P) := ⟨fun _ => of_eq rfl⟩

instance : IsTrans World (Told P) := ⟨fun _ _ _ => trans⟩

end Told

theorem Quiet.sameClasses {v w : World} (h : Quiet v w) : SameClasses v w :=
  ⟨h.classes, h.graph, h.index, h.tracker⟩

theorem Steady.sameStubs {v w : World} (h : Steady v w) : SameStubs v w :=
  ⟨h.tempRoots, fun chunk => by rw [h.session]⟩

/-- A chunk is known by its targets. -/
theorem sameStubs_setState (w : World) (chunk : Chunk) (state : ChunkState)
    (h : state.stubSources = (w.session.state chunk).stubSources) :
    SameStubs w { w with session := w.session.setState chunk state } where
  tempRoots := rfl
  stubSources other := by
    simp only [Session.state, Session.state?, Session.setState, OrderedMap.find?_insert] at h ⊢
    split
    · next hids => simpa [hids] using h
    · rfl

-- ---------------------------------------------------------------------------
-- Before anything is announced
-- ---------------------------------------------------------------------------

section
variable {ctx : Context}
  (hown : ∀ calls call files, ∀ action ∈ (ctx.compiler calls call files).actions, action.IsOwn)
include hown

theorem runKeeps_sameClasses (P : Message → Prop) : RunKeeps ctx P SameClasses where
  files _ _ h := h.quiet.sameClasses
  tell message _ := (Build.quiet_tell ctx message).mono fun _ _ => Quiet.sameClasses
  state _ _ _ _ := ⟨rfl, rfl, rfl, rfl⟩
  calls _ _ := ⟨rfl, rfl, rfl, rfl⟩
  outputs _ _ := ⟨rfl, rfl, rfl, rfl⟩
  actions calls call files action hm v w heffect := by
    have hrecorded := unrecorded_effect heffect
    have hdisturbed := undisturbed_effect (hown calls call files action hm) heffect
    exact ⟨hrecorded.classes, hrecorded.graph, hrecorded.index, hdisturbed.tracker⟩

theorem runKeeps_sameStubs (P : Message → Prop) : RunKeeps ctx P SameStubs where
  files _ _ h := h.quiet.sameStubs
  tell message _ := (Build.quiet_tell ctx message).mono fun _ _ h => h.sameStubs
  state := sameStubs_setState
  calls w _ := { SameStubs.refl w with }
  outputs w _ := { SameStubs.refl w with }
  actions calls call files action hm v w heffect := by
    have hdisturbed := undisturbed_effect (hown calls call files action hm) heffect
    exact ⟨hdisturbed.tempRoots, fun chunk => by rw [hdisturbed.session]⟩

end

theorem runKeeps_told (ctx : Context) (P : Message → Prop) : RunKeeps ctx P (Told P) where
  files _ _ h := by
    apply Told.of_eq
    rw [h.rest]
  tell message hP := by
    unfold Build.tell
    split
    · exact Keeps.throw _
    · refine Keeps.bind (Keeps.modify fun w => ⟨[message], rfl, by simpa using hP⟩) fun _ => ?_
      split
      · exact fun w => Told.of_eq rfl
      · exact Keeps.pure _
  state _ _ _ _ := Told.of_eq rfl
  calls _ _ := Told.of_eq rfl
  outputs _ _ := Told.of_eq rfl
  actions _ _ _ _ _ _ _ heffect := Told.of_eq (unrecorded_effect heffect).messages

namespace Build

variable {ctx : Context} {builder : Builder} {chunk : Chunk} {dirty : DirtyFiles} {v w : World}
variable {P : Message → Prop} {R : World → World → Prop} [Std.Refl R] [IsTrans World R]

/-- A round that is decided before it prepares anything announces nothing. -/
theorem kept_of_decided (h : RunKeeps ctx (fun _ => True) R) {verdict : Verdict}
    (hverdict : verdict = .nothingDone ∨ verdict = .abort)
    (hround : round ctx builder chunk dirty w = (.ok verdict, v)) : R w v := by
  obtain ⟨opening, u, hopen, hend⟩ := round_cases hround
  rcases hend with ⟨rfl, rfl⟩ | ⟨files, finals, job, s, t, -, -, hjob, -⟩
  · have hstated : R w (stated chunk w) := h.state w chunk _ rfl
    have hopened : R (stated chunk w) u :=
      (keeps_openRound h.files (fun _ => h.tell _ trivial) chunk dirty).of_eq hopen
    have hcleared : R u (cleared builder.role chunk u) :=
      (keeps_clearMarker h builder.role).of_eq (run_clearMarker builder.role u)
    exact IsTrans.trans _ _ _ (IsTrans.trans _ _ _ hstated hopened) hcleared
  · -- A job that was run ends with another verdict.
    obtain ⟨_, _, _, _, _, -, -, -, ⟨rfl, -⟩ | ⟨-, hdefault⟩⟩ := runJob_cases hjob
    · simp at hverdict
    · split at hdefault <;> simp [hdefault] at hverdict

theorem kept_of_settleJob {job : Job} {reported : CompilerOutput} (h : RunKeeps ctx P R)
    (hmoved : ∀ item owner fault, P (moveWarning item owner fault builder.name))
    (hsettle : settleJob ctx builder chunk job reported w = (.ok .chunkRebuildRequired, v)) :
    R w v := by
  obtain ⟨compiled, u, hreconcile, hsettle⟩ := bind_eq_ok_iff.mp hsettle
  have hreconciled : R w u :=
    (keeps_reconcileRun h.files (fun _ _ _ => h.tell _ (hmoved _ _ _)) _ _ _ _).of_eq hreconcile
  obtain ⟨ordered, t, horder, hsettle⟩ := bind_eq_ok_iff.mp hsettle
  have hordered : R u t := (keeps_orderRebuild h reported.shouldRetry).of_eq horder
  split at hsettle
  · cases hsettle
    exact IsTrans.trans _ _ _ hreconciled hordered
  · -- What was announced does not end with an order.
    obtain ⟨_, _, -, hdefault⟩ := bind_eq_ok_iff.mp hsettle
    rw [run_verdictOr] at hdefault
    split at hdefault <;> cases hdefault

/-- A round that orders a rebuild announces nothing. -/
theorem kept_of_rebuild (h : RunKeeps ctx P R) (hstatus : ∀ status, P (statusMessage chunk status))
    (hmoved : ∀ item owner fault, P (moveWarning item owner fault builder.name))
    (hround : round ctx builder chunk dirty w = (.ok .chunkRebuildRequired, v)) : R w v := by
  have hstated : R w (stated chunk w) := h.state w chunk _ rfl
  obtain ⟨opening, u, hopen, hend⟩ := round_cases hround
  rcases openRound_cases hopen with ⟨-, -, hdecided⟩ | ⟨-, ⟨-, hdecided⟩ | ⟨_, hfinals, hdue⟩⟩
  · rcases hend with ⟨rfl, -⟩ | ⟨_, _, _, _, _, rfl, -⟩
    · split at hdecided <;> cases hdecided
    · cases hdecided
  · rcases hend with ⟨rfl, -⟩ | ⟨_, _, _, _, _, rfl, -⟩ <;> cases hdecided
  · rcases hend with ⟨rfl, -⟩ | ⟨files, finals, job, s, t, rfl, hprepare, hjob, htidy⟩
    · cases hdue
    have hopened : R (stated chunk w) u := h.files _ _ (filesOnly_of_makeOutputs hfinals)
    have hprepared : R u s := h.files _ _ ((filesOnly_prepare _ _ _ _ _).of_eq hprepare)
    obtain ⟨reported, mid, hcompile, hsettle⟩ := bind_eq_ok_iff.mp hjob
    have hcompiled : R s mid :=
      (keeps_compileJob (stepKeeps_of_runKeeps h) hstatus job).of_eq hcompile
    have hsettled : R mid t := kept_of_settleJob h hmoved hsettle
    have htidied : R t v :=
      (keeps_tidyUp (stepKeeps_of_runKeeps h) (keeps_clearMarker h _) _).of_eq htidy
    calc R w (stated chunk w) := hstated
      R _ u := hopened
      R _ s := hprepared
      R _ mid := hcompiled
      R _ t := hsettled
      R _ v := htidied

-- ---------------------------------------------------------------------------
-- Announcements
-- ---------------------------------------------------------------------------

theorem sameClasses_announce (hrole : builder.role = .stubs) (job : Job) (messages : List Message)
    (compiled : CompiledItems) :
    Keeps SameClasses (announce ctx builder chunk job messages compiled) := by
  unfold announce
  rw [hrole]
  have htold : Keeps SameClasses (messages.forM (tell ctx)) :=
    (quiet_tellAll ctx messages).mono fun _ _ h => h.sameClasses
  refine Keeps.bind (fun w => ?_) fun _ => htold
  rw [run_registerStubs]
  exact ⟨rfl, rfl, rfl, rfl⟩

theorem sameStubs_announce (hrole : builder.role = .classes) (job : Job) (messages : List Message)
    (compiled : CompiledItems) :
    Keeps SameStubs (announce ctx builder chunk job messages compiled) := by
  unfold announce
  rw [hrole]
  refine Keeps.bind ((quiet_tellAll ctx messages).mono fun _ _ h => h.sameStubs) fun _ => ?_
  exact (steady_registerRound ctx _ _ _).mono fun _ _ h => h.sameStubs

-- ---------------------------------------------------------------------------
-- Whole rounds
-- ---------------------------------------------------------------------------

/-- A round that comes to no result registers nothing; one that orders a rebuild has told of
progress and of files it could not move, and of nothing else. However a round ends, it leaves
alone what the other role registers. -/
theorem round_registers {result : Except Failure Verdict}
    (hown : ∀ calls call files, ∀ action ∈ (ctx.compiler calls call files).actions, action.IsOwn)
    (h : round ctx builder chunk dirty w = (result, v)) :
    (∀ verdict ∈ [Verdict.nothingDone, .abort, .chunkRebuildRequired], result = .ok verdict →
      SameClasses w v ∧ SameStubs w v) ∧
    (result = .ok .chunkRebuildRequired → Told (fun message => message.kind = .progress ∨
      ∃ item owner fault, message = moveWarning item owner fault builder.name) w v) ∧
    (builder.role = .stubs → SameClasses w v) ∧
    (builder.role = .classes → SameStubs w v) := by
  refine ⟨?_, ?_, ?_, ?_⟩
  · intro verdict hverdict hresult
    rw [hresult] at h
    simp only [List.mem_cons, List.not_mem_nil, or_false] at hverdict
    rcases hverdict with rfl | rfl | rfl
    · exact ⟨kept_of_decided (runKeeps_sameClasses hown _) (.inl rfl) h,
        kept_of_decided (runKeeps_sameStubs hown _) (.inl rfl) h⟩
    · exact ⟨kept_of_decided (runKeeps_sameClasses hown _) (.inr rfl) h,
        kept_of_decided (runKeeps_sameStubs hown _) (.inr rfl) h⟩
    · exact ⟨kept_of_rebuild (runKeeps_sameClasses hown fun _ => True) (fun _ => trivial)
          (fun _ _ _ => trivial) h,
        kept_of_rebuild (runKeeps_sameStubs hown fun _ => True) (fun _ => trivial)
          (fun _ _ _ => trivial) h⟩
  · intro hresult
    rw [hresult] at h
    exact kept_of_rebuild (runKeeps_told ctx _) (fun _ => .inl rfl)
      (fun item owner fault => .inr ⟨item, owner, fault, rfl⟩) h
  · intro hrole
    exact (keeps_round_of_announce (runKeeps_sameClasses hown _) (sameClasses_announce hrole)
      dirty).of_eq h
  · intro hrole
    exact (keeps_round_of_announce (runKeeps_sameStubs hown _) (sameStubs_announce hrole)
      dirty).of_eq h

/-- A compiler that asks for a rebuild. -/
def retryContext : Context :=
  { schedulingContext with
    compiler _ _ _ := {
      actions := [.emit CompilerOutput.errorStream "unable to resolve class B\n"]
      ending := .returned .null } }

theorem round_registers_retry :
    ∃ v, round retryContext (inProcessBuilder .classes) soleChunk
        [(soleTarget.toTargetId, soleSource)] soleWorld = (.ok .chunkRebuildRequired, v) ∧
      SameClasses soleWorld v ∧ SameStubs soleWorld v := by
  have hran : ∃ v, round retryContext (inProcessBuilder .classes) soleChunk
      [(soleTarget.toTargetId, soleSource)] soleWorld = (.ok .chunkRebuildRequired, v) :=
    eq_ok_of_toOption (by decide +kernel)
  obtain ⟨v, hv⟩ := hran
  have hown : ∀ calls call files, ∀ action ∈ (retryContext.compiler calls call files).actions,
      action.IsOwn := by
    intro _ _ _ action haction
    obtain rfl := List.mem_singleton.mp haction
    trivial
  exact ⟨v, hv, (round_registers hown hv).1 _ (by decide) rfl⟩

end Build

end GroovyRounds
