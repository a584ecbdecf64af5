import GroovyRounds.Proofs.Build.Delivery

/-!
# Whole rounds that deliver

From opening to tidying up, a round for which there is room comes to the verdict
that all went well (`run_round_of_sources`). Afterwards the file of every source
lies in the directory of its owner, the argument file is gone, and what was made
has been announced.
-/

namespace GroovyRounds

open FileSystem Path Program

namespace Build

variable {ctx : Context} {builder : Builder} {chunk : Chunk} {cwd : Path} {data temp : Location}
variable {owner : Path → TargetId} {content : Path → List UInt8} {sources order : List Path}
variable {orders : List Path → Prop} {dirty : DirtyFiles} {job : Job} {n : Nat} {t u v w : World}

-- ---------------------------------------------------------------------------
-- Steps that go well
-- ---------------------------------------------------------------------------

/-- A run that asks for no rebuild is settled when what it made is announced. -/
theorem run_settleJob {reported : CompilerOutput} {compiled : CompiledItems}
    (hretry : reported.shouldRetry = false)
    (hreconcile : reconcileRun ctx builder.name chunk job.generationOutputs job.compilerOutput
      reported.compiled w = (.ok compiled, u))
    (hannounce : announce ctx builder chunk job
      (reported.messages chunk.representative.name.display) compiled (stated chunk u) =
        (.ok (), v))
    (hunmarked : (v.session.state chunk).marked = false) :
    settleJob ctx builder chunk job reported w = (.ok .ok, v) := by
  have hescalate : (u.session.state chunk).escalate reported.shouldRetry u.tracker.forced =
      (false, u.session.state chunk) := by
    simp [ChunkState.escalate, hretry]
  have hstated : escalated chunk reported.shouldRetry u = stated chunk u := by
    rw [escalated, hescalate]
    rfl
  rw [settleJob, run_bind_of_ok hreconcile, run_bind_of_ok (run_orderRebuild _ u), hescalate,
    hstated]
  simp only [Bool.false_eq_true, if_false]
  rw [run_bind_of_ok hannounce, run_verdictOr]
  simp [ChunkState.needsRound, hunmarked]

/-- A round whose job came to a verdict ends with it, and its argument file is removed. -/
theorem run_round_of_job {finals : FinalOutputs} {name : String} {verdict : Verdict}
    {place : Location} {written : List UInt8} (hname : chunk.name = .ok name)
    (hopen : openRound ctx builder chunk dirty (stated chunk w) = (.ok (.due sources finals), t))
    (hprepare : prepare ctx builder chunk sources finals t = (.ok job, u))
    (hjob : runJob ctx builder chunk job u = (.ok verdict, v))
    (hargument : job.argumentFile = below place) (hheld : v.files.HoldsFile place written) :
    round ctx builder chunk dirty w =
      (.ok verdict, cleared builder.role chunk { v with files := v.files.prune place }) := by
  have hremove : removeArgumentFile (some job.argumentFile) v =
      (.ok (), { v with files := v.files.prune place }) := by
    rw [removeArgumentFile, hargument]
    exact withFiles_eq_ok_iff.mpr ⟨_, FileAction.run_removeFileIfPresent hheld, rfl⟩
  have htidy : tidyUp builder chunk (some job.argumentFile) v =
      (.ok (), cleared builder.role chunk { v with files := v.files.prune place }) := by
    rw [tidyUp, run_bind_of_ok hremove, run_clearMarker]
  have hclose : closeRound builder chunk (some job.argumentFile) (.ok verdict) v =
      (.ok verdict, cleared builder.role chunk { v with files := v.files.prune place }) := by
    rw [run_closeRound hname, run_bind_of_ok htidy, run_ofExcept]
  rw [round, run_bind_of_ok (run_chunkState w), run_bind_of_ok (attempt_eq_ok_iff.mpr hopen)]
  simp only [runRound]
  rw [run_bind_of_ok (attempt_eq_ok_iff.mpr hprepare)]
  simp only
  rw [run_bind_of_ok (attempt_eq_ok_iff.mpr hjob)]
  exact hclose

-- ---------------------------------------------------------------------------
-- Announcing what was made
-- ---------------------------------------------------------------------------

/-- The world in which what a round made is announced. -/
def announced (role : Role) (chunk : Chunk) (job : Job) (making : Making) (compiled : CompiledItems)
    (w : World) : World :=
  match role with
  | .stubs => withStubs chunk job.generationOutputs compiled w
  | .classes => registeredRound job.files compiled (madeClass making) w

theorem files_registeredAll {making : Making} (items : List (TargetId × OutputItem)) (w : World) :
    (registeredAll (madeClass making) items w).files = w.files ∧
      (registeredAll (madeClass making) items w).session = w.session := by
  induction items generalizing w with
  | nil => exact ⟨rfl, rfl⟩
  | cons item items ih => exact ih _

variable {role : Role} {making : Making} {compiled : CompiledItems}

theorem files_announced : (announced role chunk job making compiled w).files = w.files := by
  cases role with
  | stubs => rfl
  | classes => exact (files_registeredAll _ _).1

theorem marked_announced :
    ((announced role chunk job making compiled w).session.state chunk).marked =
      (w.session.state chunk).marked := by
  cases role with
  | stubs =>
    simp only [announced, withStubs, Session.state_setState]
    rfl
  | classes => rw [announced, registeredRound, (files_registeredAll _ _).2]

-- ---------------------------------------------------------------------------
-- Whole rounds
-- ---------------------------------------------------------------------------

/-- A builder whose compiler makes a file of each of these sources, in one of these orders and for
an owner in the chunk. -/
structure Compilable (ctx : Context) (builder : Builder) (chunk : Chunk) (cwd : Path)
    (temp : Location) (owner : Path → TargetId) (content : Path → List UInt8)
    (orders : List Path → Prop) (sources : List Path) : Prop where
  starts : builder.StartsFrom ctx chunk cwd (argumentFiles temp)
  spell : Spellable sources
  perm : ∀ order, orders order → order.Perm sources
  makes : ctx.MakesIn builder.role
    (builder.role.place ctx.project cwd chunk.representative.toTargetId) sources content orders
  admissible : ∀ target ∈ chunk.ids, ∀ p ∈ sources, Admissible
    (builder.role.place ctx.project cwd target ++ builder.role.fileNames p)
  owner_mem : ∀ p ∈ sources, owner p ∈ chunk.ids
  owned : ∀ p ∈ sources, ∀ roots, ctx.project.owner? roots p = some (owner p)
  class_name : builder.role = .classes → ∀ p ∈ sources, ∃ name,
    ClassFile.className (content p) = .ok name

/-- Class files of these sources fit into the directories of their owners. -/
theorem Compilable.fits (h : Compilable ctx builder chunk cwd temp owner content orders sources)
    (hrole : builder.role = .classes) (hperm : order.Perm sources) :
    (Role.classes.making owner content).Fits chunk (order.map Path.toString) := by
  have hspell := h.spell.mono hperm.subset
  have hread {p : Path} (hp : p ∈ order) : Path.ofString p.toString = p :=
    ofString_toString (hspell.valid p hp)
  exact
    { owner := List.forall_mem_map.mpr fun p hp => by
        simp only [Role.making, hread hp]
        exact h.owner_mem p (hperm.subset hp)
      apart := Role.filesApart_making hspell
      no_backslash := List.forall_mem_map.mpr fun p hp => by
        rw [Role.file_making (hspell.valid p hp)]
        exact not_mem_fileNames (hspell.no_backslash p hp) (by decide) (by decide)
      source_no_backslash := List.forall_mem_map.mpr hspell.no_backslash
      source_spelled := List.forall_mem_map.mpr fun p hp => by rw [hread hp]
      class_name := List.forall_mem_map.mpr fun p hp => by
        simp only [Role.making, hread hp]
        exact h.class_name hrole p (hperm.subset hp) }

/-- What was delivered is announced. -/
theorem run_announce (horderly : Orderly ctx chunk cwd data temp)
    (h : Compilable ctx builder chunk cwd temp owner content orders sources)
    (hperm : order.Perm sources)
    (hdelivered : Delivered chunk (builder.role.place ctx.project cwd) builder.role owner content
      sources w.files) :
    announce ctx builder chunk job []
        ((builder.role.making owner content).group (builder.role.place ctx.project cwd)
          (order.map Path.toString) .empty) w =
      (.ok (), announced builder.role chunk job (builder.role.making owner content)
        ((builder.role.making owner content).group (builder.role.place ctx.project cwd)
          (order.map Path.toString) .empty) w) := by
  unfold announce
  cases hrole : builder.role with
  | stubs => rfl
  | classes =>
    rw [hrole] at hdelivered
    refine run_registerRound_group (horderly.apart .classes) (h.fits hrole hperm)
      (List.Subset.refl _) (List.forall_mem_map.mpr fun p hp => ?_)
    have hp' := hperm.subset hp
    rw [Making.place, Role.file_making (h.spell.valid p hp')]
    simp only [Role.making, ofString_toString (h.spell.valid p hp')]
    exact hdelivered.there p hp'

/-- A job that is ready delivers the file of every source, and announces it. -/
theorem run_runJob_of_ready {name : String} (horderly : Orderly ctx chunk cwd data temp)
    (h : Compilable ctx builder chunk cwd temp owner content orders sources)
    (hnodup : sources.Nodup) (hname : chunk.name = .ok name) (hcwd : w.cwd = cwd)
    (hready : Ready ctx builder chunk cwd temp sources job n w.files)
    (hunmarked : (w.session.state chunk).marked = false) :
    ∃ (order : List Path) (files : FileSystem) (calls : List CompilerCall)
        (outputs : List CompilerOutput), orders order ∧
      runJob ctx builder chunk job w =
        (.ok .ok, announced builder.role chunk job (builder.role.making owner content)
          ((builder.role.making owner content).group (builder.role.place ctx.project cwd)
            (order.map Path.toString) .empty) (stated chunk { w with files, calls, outputs })) ∧
      Delivered chunk (builder.role.place ctx.project cwd) builder.role owner content sources
        files ∧
      Packaged (builder.role.place ctx.project cwd chunk.representative.toTargetId) sources
        files ∧
      Contained (filePlaces chunk (builder.role.place ctx.project cwd) builder.role owner sources)
        (filePlaces chunk (builder.role.place ctx.project cwd) builder.role owner sources)
        w.files files := by
  obtain ⟨order, call, made, horder, hcompile, hholds, hroom, hmade⟩ :=
    run_compile owner rfl rfl horderly hready h.spell hnodup hcwd h.starts h.perm h.makes
  obtain ⟨reported, hreported⟩ : ∃ reported, reported = MadeFile.report (order.map
      (builder.role.made content
        (builder.role.place ctx.project cwd chunk.representative.toTargetId))) := ⟨_, rfl⟩
  obtain ⟨files, hreconcile, hdelivered, hmoved⟩ := run_deliver builder.name
    (w := { w with
      files := made, calls := w.calls ++ [call], outputs := w.outputs ++ [reported] })
    (horderly.apart builder.role) hname hready.outputs hready.output h.spell hnodup
    (h.perm order horder) (fun p hp => ⟨h.owned p hp _, h.owner_mem p hp⟩) hholds hroom
  rw [← hreported] at hcompile hreconcile
  refine ⟨order, files, w.calls ++ [call], w.outputs ++ [reported], horder, ?_, hdelivered,
    fun p hp => ?_, hmade.trans hmoved⟩
  · rw [runJob, run_bind_of_ok hcompile]
    refine run_settleJob (by rw [hreported]; rfl) hreconcile ?_ ?_
    · have hmessages : reported.messages chunk.representative.name.display = [] := by
        rw [hreported]
        rfl
      rw [hmessages]
      exact run_announce horderly h (h.perm order horder) hdelivered
    · rw [marked_announced]
      simpa only [stated, Session.state_setState] using hunmarked
  · -- The package was made with the files, and no file was moved to its place.
    refine hmoved.paved ?_ fun above habove => ?_
    · rintro root ⟨q, hq, hroot⟩ hbelow
      exact (horderly.apart builder.role).not_file_above List.mem_cons_self
        (h.owner_mem q hq) hroot hbelow
    · refine (hholds p hp).reachable.directories above ?_ ?_
      · exact habove.trans (prefix_package _ _ _)
      · rintro rfl
        exact absurd habove.length_le (by simp [Role.fileNames])

/-- The trees that a round comes through: the output directories are made, the stub directories
are emptied, and the files are made and delivered. -/
structure RoundTrees (ctx : Context) (chunk : Chunk) (cwd : Path) (role : Role)
    (owner : Path → TargetId) (content : Path → List UInt8) (sources : List Path)
    (before opened empty after : FileSystem) : Prop where
  paved : ∀ target ∈ chunk.ids, ∀ above, above <+: outputPlace cwd target →
    opened.node? above = some .directory
  opens : Contained ∅ (outputPlaces chunk cwd) before opened
  empties : Emptied ctx role chunk opened empty
  free : ∀ goal ∈ filePlaces chunk (role.place ctx.project cwd) role owner sources,
    empty.node? goal ≠ some .directory
  delivered : Delivered chunk (role.place ctx.project cwd) role owner content sources after
  packaged : Packaged (role.place ctx.project cwd chunk.representative.toTargetId) sources after
  fills : empty.Rooted → Contained (filePlaces chunk (role.place ctx.project cwd) role owner sources)
    (filePlaces chunk (role.place ctx.project cwd) role owner sources) empty after

/-- After a round of stubs, there is as much room for classes as before. -/
theorem RoundTrees.roomy {a opened empty b : FileSystem}
    (h : RoundTrees ctx chunk cwd .stubs owner content sources a opened empty b)
    (horderly : Orderly ctx chunk cwd data temp) (howner : ∀ p ∈ sources, owner p ∈ chunk.ids)
    (hroomy : Roomy ctx chunk cwd temp a) : Roomy ctx chunk cwd temp b := by
  have hwide : ∀ goal ∈ filePlaces chunk (Role.stubs.place ctx.project cwd) .stubs owner sources,
      ∃ above ∈ stubPlaces ctx chunk, above <+: goal := by
    rintro _ ⟨p, hp, rfl | rfl⟩
    · exact ⟨_, ⟨_, List.mem_cons_self, rfl⟩, List.prefix_append _ _⟩
    · exact ⟨_, ⟨_, howner p hp, rfl⟩, List.prefix_append _ _⟩
  have hfills := (h.fills h.empties.1).widen hwide hwide
  refine horderly.roomy hfills (Set.Subset.refl _) Set.subset_union_left ?_
  refine horderly.roomy h.empties.contained (Set.Subset.refl _) Set.subset_union_left ?_
  exact horderly.roomy h.opens (Set.empty_subset _) Set.subset_union_right hroomy

/-- A round for whose files there is room delivers them. -/
theorem run_round_of_sources {name : String} (horderly : Orderly ctx chunk cwd data temp)
    (h : Compilable ctx builder chunk cwd temp owner content orders sources)
    (hsources : changedFiles ctx.project builder.settings builder.role dirty = sources)
    (hne : sources ≠ []) (hname : chunk.name = .ok name)
    (husable : Usable ctx chunk cwd temp w.files)
    (hstubs : builder.role = .stubs → StubsOpen ctx chunk w.files)
    (hrooms : builder.role = .classes → ∀ target ∈ chunk.ids, ∀ p ∈ sources,
      w.files.Room (outputPlace cwd target ++ Role.classes.fileNames p))
    (hunmarked : (w.session.state chunk).marked = false) :
    ∃ (order : List Path) (job : Job) (opened empty a b : FileSystem) (calls : List CompilerCall)
        (outputs : List CompilerOutput), orders order ∧ job.files = sources ∧
      round ctx builder chunk dirty w = (.ok .ok, cleared builder.role chunk
        { announced builder.role chunk job (builder.role.making owner content)
          ((builder.role.making owner content).group (builder.role.place ctx.project cwd)
            (order.map Path.toString) .empty)
          (stated chunk { stated chunk w with files := a, calls, outputs }) with files := b }) ∧
      RoundTrees ctx chunk cwd builder.role owner content sources w.files opened empty b := by
  obtain ⟨finals, opened, hopen, hpaved, hfinals, hrooted, hopens⟩ := run_openRound
    (w := stated chunk w) hsources hne husable horderly.separate
  have husable' : Usable ctx chunk cwd temp opened :=
    horderly.usable hopens (Set.empty_subset _) Set.subset_union_right husable
  obtain ⟨job, n, empty, prepared, hprepare, hready, hempties, -, hnone, hwritten⟩ :=
    run_prepare (w := { stated chunk w with files := opened }) horderly h.starts.optimize
      h.starts.encoding husable' hpaved hfinals
      (fun hrole => (hstubs hrole).opened hrooted hopens)
      (fun hrole => horderly.rooms_opened hopens (hrooms hrole))
      h.spell.valid h.admissible
  have hnodup : sources.Nodup := hsources ▸ nodup_eraseDups _
  have hcwd : World.cwd { stated chunk w with files := prepared } = cwd := by
    have hsame : prepared.cwd = w.files.cwd :=
      hwritten.cwd.trans (hempties.contained.cwd.trans hopens.cwd)
    rw [← husable.cwd_eq, World.cwd, Path.below]
    exact congrArg _ hsame
  obtain ⟨order, files, calls, outputs, horder, hjob, hdelivered, hpackaged, hchanged⟩ :=
    run_runJob_of_ready (w := { stated chunk w with files := prepared }) horderly h hnodup hname
      hcwd hready (by simpa only [stated, Session.state_setState] using hunmarked)
  -- The argument file still lies where it was created.
  obtain ⟨written, hheld⟩ := hready.held
  have haside : ∀ root ∈ filePlaces chunk (builder.role.place ctx.project cwd) builder.role owner
      sources, Aside (argumentPlace temp n) root := by
    rintro _ ⟨p, hp, rfl | rfl⟩
    · exact hready.aside _ List.mem_cons_self p hp
    · exact hready.aside _ (h.owner_mem p hp) p hp
  have hheld' : files.HoldsFile (argumentPlace temp n) written :=
    hchanged.holdsFile (fun root hroot => (haside root hroot).2) hheld
  have hremoved : Contained {argumentPlace temp n} ∅ files (files.prune (argumentPlace temp n)) :=
    contained_prune rfl
  refine ⟨order, job, opened, empty, files, files.prune (argumentPlace temp n), calls, outputs,
    horder, hready.sources_eq, ?_,
    ⟨hpaved, hopens, hempties, fun goal hgoal => ?_,
      ⟨fun p hp => ?_, fun p hp howner => ?_⟩, fun p hp => ?_, fun hrooted => ?_⟩⟩
  · have hround := run_round_of_job hname hopen hprepare hjob hready.argumentFile
      (by rw [files_announced]; exact hheld')
    rw [files_announced] at hround
    exact hround
  · have hroom : prepared.Room goal := by
      obtain ⟨p, hp, rfl | rfl⟩ := hgoal
      · exact hready.room _ List.mem_cons_self p hp
      · exact hready.room _ (h.owner_mem p hp) p hp
    rw [← hwritten.same ?_ (by simp)]
    · exact hroom.free
    · rintro _ rfl
      exact (haside goal hgoal).1
  · refine hremoved.holdsFile ?_ (hdelivered.there p hp)
    rintro _ rfl
    exact (hready.aside _ (h.owner_mem p hp) p hp).1
  · rw [hremoved.same ?_ (by simp)]
    · exact hdelivered.gone p hp howner
    · rintro _ rfl
      exact (hready.aside _ List.mem_cons_self p hp).1
  · refine hremoved.paved ?_ (hpackaged p hp)
    rintro _ rfl hbelow
    exact (hready.aside _ List.mem_cons_self p hp).1 (hbelow.trans (prefix_package _ _ _))
  · have hall := (hwritten.mono (Set.singleton_subset_iff.mpr (Set.mem_insert _ _))
      (Set.empty_subset _)).trans
        (hchanged.mono (Set.subset_insert (argumentPlace temp n) _) (Set.Subset.refl _))
    exact hall.prune (by simp [argumentPlace, FileAction.freshPlace])
      fun other => hrooted.none_below hnone

-- ---------------------------------------------------------------------------
-- Rounds of stubs, and rounds of classes
-- ---------------------------------------------------------------------------

/-- A round went through such trees, or had nothing to compile. -/
def RoundDone (ctx : Context) (chunk : Chunk) (cwd : Path) (role : Role)
    (owner : Path → TargetId) (content : Path → List UInt8) (sources : List Path)
    (before after : FileSystem) : Prop :=
  if sources = [] then after = before
  else ∃ opened empty,
    RoundTrees ctx chunk cwd role owner content sources before opened empty after

/-- A round delivers the files of all its sources. -/
theorem RoundDone.delivered {role : Role} {a b : FileSystem}
    (h : RoundDone ctx chunk cwd role owner content sources a b) :
    Delivered chunk (role.place ctx.project cwd) role owner content sources b := by
  rw [RoundDone] at h
  split at h
  · rename_i hnil
    subst hnil
    exact ⟨nofun, nofun⟩
  · obtain ⟨opened, empty, htrees⟩ := h
    exact htrees.delivered

/-- What a round of a role registers, when the compiler goes through its sources in this order. -/
def roundItems (role : Role) (making : Making) (place : TargetId → Location) (order : List Path) :
    List (TargetId × OutputItem) :=
  match role with
  | .stubs => []
  | .classes => (making.group place (order.map Path.toString) .empty).elements

/-- These items were registered, and no chunk was marked. -/
structure Registered (making : Making) (items : List (TargetId × OutputItem)) (w v : World) :
    Prop where
  classes : v.classes = (registeredAll (madeClass making) items w).classes
  graph : v.graph = (registeredAll (madeClass making) items w).graph
  messages : v.messages = w.messages
  unmarked : ∀ other, (w.session.state other).marked = false →
    (v.session.state other).marked = false

theorem marked_setState {session : Session} {state : ChunkState} {other : Chunk}
    (hother : (session.state other).marked = false) (hstate : state.marked = false) :
    ((session.setState chunk state).state other).marked = false := by
  unfold Session.setState Session.state Session.state? at *
  rw [OrderedMap.find?_insert]
  split
  · exact hstate
  · exact hother

theorem journal_registeredAll {made : OutputItem → CompiledClass}
    (items : List (TargetId × OutputItem)) (w : World) :
    (registeredAll made items w).journal = w.journal ∧
      (registeredAll made items w).messages = w.messages := by
  induction items generalizing w with
  | nil => exact ⟨rfl, rfl⟩
  | cons item items ih => exact ih _

/-- What was registered before decides what is registered, and nothing else does. -/
theorem registeredAll_congr (made : OutputItem → CompiledClass)
    (items : List (TargetId × OutputItem)) (hclasses : v.classes = w.classes)
    (hgraph : v.graph = w.graph) :
    (registeredAll made items v).classes = (registeredAll made items w).classes ∧
      (registeredAll made items v).graph = (registeredAll made items w).graph := by
  induction items generalizing v w with
  | nil => exact ⟨hclasses, hgraph⟩
  | cons item items ih =>
    refine ih ?_ ?_
    · simp only [registered, World.registerClass, hclasses]
    · simp only [registered, hgraph]

/-- What is announced in a round is registered, or is known of its stubs. -/
theorem registered_announced {order : List Path} {place : TargetId → Location}
    {a b : FileSystem} {calls : List CompilerCall} {outputs : List CompilerOutput}
    (hunmarked : (w.session.state chunk).marked = false) :
    Registered making (roundItems role making place order) w (cleared role chunk
      { announced role chunk job making (making.group place (order.map Path.toString) .empty)
        (stated chunk { stated chunk w with files := a, calls, outputs }) with files := b }) ∧
    (cleared role chunk
      { announced role chunk job making (making.group place (order.map Path.toString) .empty)
        (stated chunk { stated chunk w with files := a, calls, outputs }) with files := b }).journal =
      w.journal := by
  have hstated (other : Chunk) (hother : (w.session.state other).marked = false) :
      (((w.session.setState chunk (w.session.state chunk)).setState chunk
        ((w.session.setState chunk (w.session.state chunk)).state chunk)).state other).marked =
          false :=
    marked_setState (marked_setState hother hunmarked) (by simpa using hunmarked)
  cases role with
  | stubs =>
    refine ⟨⟨rfl, rfl, rfl, fun other hother => marked_setState (hstated other hother) ?_⟩, rfl⟩
    exact hstated chunk hunmarked
  | classes =>
    refine ⟨⟨(registeredAll_congr _ _ (by rfl) (by rfl)).1,
      (registeredAll_congr _ _ (by rfl) (by rfl)).2, (journal_registeredAll _ _).2,
      fun other hother => ?_⟩, (journal_registeredAll _ _).1⟩
    refine marked_setState ?_ rfl
    rw [announced, registeredRound]
    simp only [(files_registeredAll _ _).2]
    exact hstated other hother

/-- A round goes well: it delivers and registers what it makes. -/
theorem run_round_done {name : String} (horderly : Orderly ctx chunk cwd data temp)
    (h : Compilable ctx builder chunk cwd temp owner content orders sources)
    (hsources : changedFiles ctx.project builder.settings builder.role dirty = sources)
    (hname : chunk.name = .ok name) (husable : Usable ctx chunk cwd temp w.files)
    (hstubs : builder.role = .stubs → StubsOpen ctx chunk w.files)
    (hrooms : builder.role = .classes → ∀ target ∈ chunk.ids, ∀ p ∈ sources,
      w.files.Room (outputPlace cwd target ++ Role.classes.fileNames p))
    (hunmarked : (w.session.state chunk).marked = false) :
    ∃ verdict v order, round ctx builder chunk dirty w = (.ok verdict, v) ∧
      (verdict = .ok ∨ verdict = .nothingDone) ∧ order.Perm sources ∧
      (sources ≠ [] → orders order) ∧
      RoundDone ctx chunk cwd builder.role owner content sources w.files v.files ∧
      Registered (builder.role.making owner content)
        (roundItems builder.role (builder.role.making owner content)
          (builder.role.place ctx.project cwd) order) w v ∧ v.journal = w.journal := by
  by_cases hne : sources = []
  · have hround := run_round_without_files ctx builder chunk (w := w) (hsources.trans hne)
    simp only [ChunkState.needsRound, hunmarked, Bool.and_false, Bool.false_eq_true, if_false]
      at hround
    subst hne
    refine ⟨_, _, [], hround, .inr rfl, .refl _, absurd rfl, ?_, ?_, ?_⟩
    · rw [RoundDone, if_pos rfl, files_cleared]
      rfl
    · cases builder.role with
      | stubs =>
        exact ⟨rfl, rfl, rfl, fun other hother => marked_setState hother hunmarked⟩
      | classes =>
        refine ⟨rfl, rfl, rfl, fun other hother => marked_setState ?_ rfl⟩
        exact marked_setState hother hunmarked
    · cases builder.role <;> rfl
  · obtain ⟨order, job, opened, empty, a, b, calls, outputs, horder, -, hround, htrees⟩ :=
      run_round_of_sources horderly h hsources hne hname husable hstubs hrooms hunmarked
    refine ⟨_, _, order, hround, .inl rfl, h.perm order horder, fun _ => horder, ?_,
      registered_announced hunmarked⟩
    rw [RoundDone, if_neg hne, files_cleared]
    exact ⟨opened, empty, htrees⟩

/-- A round of stubs goes well, and takes no room from the classes. -/
theorem run_stubRound {name : String} (hrole : builder.role = .stubs)
    (horderly : Orderly ctx chunk cwd data temp)
    (h : Compilable ctx builder chunk cwd temp owner content orders sources)
    (hsources : changedFiles ctx.project builder.settings builder.role dirty = sources)
    (hname : chunk.name = .ok name) (hroomy : Roomy ctx chunk cwd temp w.files)
    (hstubs : StubsOpen ctx chunk w.files) (hunmarked : (w.session.state chunk).marked = false) :
    ∃ verdict files session tempRoots calls outputs,
      round ctx builder chunk dirty w =
        (.ok verdict, { w with files, session, tempRoots, calls, outputs }) ∧
      (verdict = .ok ∨ verdict = .nothingDone) ∧
      Roomy ctx chunk cwd temp files ∧ (session.state chunk).marked = false := by
  by_cases hne : sources = []
  · have hround := run_round_without_files ctx builder chunk (w := w) (hsources.trans hne)
    simp only [hrole, ChunkState.needsRound, hunmarked, Bool.and_false, Bool.false_eq_true,
      if_false] at hround
    refine ⟨_, w.files, w.session.setState chunk (w.session.state chunk), w.tempRoots, w.calls,
      w.outputs, hround, .inr rfl, hroomy, ?_⟩
    simpa only [Session.state_setState] using hunmarked
  · obtain ⟨order, job, opened, empty, a, b, calls, outputs, -, -, hround, htrees⟩ :=
      run_round_of_sources horderly h hsources hne hname hroomy.usable (fun _ => hstubs)
        (by simp [hrole]) hunmarked
    rw [hrole] at hround htrees
    refine ⟨_, b, _, _, calls, outputs, hround, .inl rfl, htrees.roomy horderly h.owner_mem hroomy,
      ?_⟩
    refine marked_announced.trans ?_
    simpa only [stated, Session.state_setState] using hunmarked

/-- The class that was made of a source, where it belongs. -/
def deliveredClass (place : TargetId → Location) (content : Path → List UInt8)
    (source : TargetId × Path) : CompiledClass where
  output := below (place source.1 ++ Role.classes.fileNames source.2)
  source := source.2
  name := "pkg." ++ source.2.stem
  content := content source.2

theorem classes_registeredAll {made : OutputItem → CompiledClass}
    (items : List (TargetId × OutputItem)) (w : World) :
    (registeredAll made items w).classes.elements.Perm
      (w.classes.elements ++ items.map fun item => (item.1, made item.2)) := by
  induction items generalizing w with
  | nil => simp [registeredAll]
  | cons item items ih =>
    refine (ih _).trans ?_
    have hpush := OrderedMap.elements_push w.classes item.1 (made item.2)
    refine (hpush.append_right _).trans ?_
    rw [List.append_assoc, List.singleton_append, List.map_cons]

theorem graph_registeredAll {made : OutputItem → CompiledClass}
    (items : List (TargetId × OutputItem)) (w : World) :
    (registeredAll made items w).graph = w.graph ++ items.map fun item =>
      { output := item.2.output, source := item.2.source, content := (made item.2).content } := by
  induction items generalizing w with
  | nil => simp [registeredAll]
  | cons item items ih =>
    refine (ih _).trans ?_
    simp [registered]

/-- What was delivered is grouped by the owners. -/
theorem elements_delivered {role : Role} {place : TargetId → Location} (hspell : Spellable sources)
    (hperm : order.Perm sources) :
    ((role.making owner content).group place (order.map Path.toString) .empty).elements.Perm
      (sources.map fun p =>
        (owner p, (role.making owner content).item (place (owner p)) p.toString)) := by
  refine (Making.elements_group _ _ _).trans ?_
  rw [List.map_map]
  refine (List.Perm.of_eq (List.map_congr_left fun p hp => ?_)).trans (hperm.map _)
  simp only [Function.comp_apply, Role.making,
    ofString_toString (hspell.valid p (hperm.subset hp))]

/-- The class that an item of a source stands for. -/
theorem madeClass_item {place : TargetId → Location} {p : Path} (hplaces : Apart chunk place)
    (hp : p.Valid) (howner : owner p ∈ chunk.ids)
    (hclass : ClassFile.className (content p) = .ok ("pkg." ++ p.stem)) :
    madeClass (Role.classes.making owner content)
        ((Role.classes.making owner content).item (place (owner p)) p.toString) =
      deliveredClass place content (owner p, p) := by
  have houtput : Path.ofString (spellBelow (place (owner p)) (Role.classes.fileNames p)) =
      below (place (owner p) ++ Role.classes.fileNames p) :=
    hplaces.ofString_spellBelow howner (isPlain_fileNames hp) fileNames_ne_nil
  simp only [madeClass, Making.item, Role.making, ofString_toString hp, hclass, Except.toOption,
    Option.getD_some, houtput, deliveredClass]

/-- A round of classes goes well: it brings every class to its owner, and registers it. -/
theorem run_classRound {name : String} (hrole : builder.role = .classes)
    (horderly : Orderly ctx chunk cwd data temp)
    (h : Compilable ctx builder chunk cwd temp owner content orders sources)
    (hclasses : ∀ p ∈ sources, ClassFile.className (content p) = .ok ("pkg." ++ p.stem))
    (hsources : changedFiles ctx.project builder.settings builder.role dirty = sources)
    (hname : chunk.name = .ok name) (hroomy : Roomy ctx chunk cwd temp w.files)
    (hunmarked : (w.session.state chunk).marked = false) :
    ∃ verdict v, round ctx builder chunk dirty w = (.ok verdict, v) ∧
      (verdict = .ok ∨ verdict = .nothingDone) ∧
      Delivered chunk (outputPlace cwd) .classes owner content sources v.files ∧
      v.classes.elements.Perm (w.classes.elements ++ sources.map fun p =>
        (owner p, deliveredClass (outputPlace cwd) content (owner p, p))) ∧
      v.graph.Perm (w.graph ++ sources.map fun p =>
        { output := (deliveredClass (outputPlace cwd) content (owner p, p)).output.toString
          source := p.toString, content := content p }) ∧
      v.journal = w.journal := by
  have hadmissible := h.admissible
  rw [hrole] at hadmissible
  obtain ⟨verdict, v, order, hround, hverdict, hperm, -, hdone, hregistered, hjournal⟩ :=
    run_round_done horderly h hsources hname hroomy.usable (by simp [hrole])
      (fun _ => hroomy.rooms horderly h.spell.valid hadmissible) hunmarked
  rw [hrole] at hdone hregistered
  refine ⟨verdict, v, hround, hverdict, hdone.delivered, ?_, ?_, hjournal⟩
  · rw [hregistered.classes]
    refine (classes_registeredAll _ _).trans (List.Perm.append_left _ ?_)
    refine ((elements_delivered h.spell hperm).map _).trans (.of_eq ?_)
    rw [List.map_map]
    refine List.map_congr_left fun p hp => ?_
    exact congrArg (Prod.mk (owner p)) (madeClass_item horderly.separate.apart
      (h.spell.valid p hp) (h.owner_mem p hp) (hclasses p hp))
  · rw [hregistered.graph]
    refine (List.Perm.of_eq (graph_registeredAll _ _)).trans (List.Perm.append_left _ ?_)
    refine ((elements_delivered h.spell hperm).map _).trans (.of_eq ?_)
    rw [List.map_map]
    refine List.map_congr_left fun p hp => ?_
    have hmade := madeClass_item horderly.separate.apart (h.spell.valid p hp)
      (h.owner_mem p hp) (hclasses p hp)
    simp only [Role.place, Function.comp_apply, hmade]
    simp only [Making.item, Role.file_making (h.spell.valid p hp), deliveredClass, spellBelow,
      toString_below_append _ fileNames_ne_nil]

end Build

end GroovyRounds
