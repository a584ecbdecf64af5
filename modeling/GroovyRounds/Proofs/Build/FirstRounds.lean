import GroovyRounds.Proofs.Build.CleanedUp
import GroovyRounds.Proofs.Build.Incremental
import GroovyRounds.Proofs.Build.StubRounds
import GroovyRounds.Proofs.Compiler.Sections
import GroovyRounds.Proofs.Groups
import GroovyRounds.Proofs.Project.SourceTrees

/-!
# The first rounds of a chunk

Up to its first round of classes, the building of a chunk starts the compiler in
rounds of stubs only, each on all Groovy files of the chunk but for those that get
no stubs, and then on all of them (`buildChunk_first_lists`). A later pass comes
before that only if a round of stubs has ordered a rebuild, and then all sources
are dirty again. A pass for scheduled sources follows a round of classes, which
has started the compiler unless there is nothing to compile.
-/

namespace GroovyRounds

open Path Program

namespace Build

variable {ctx : Context} {builder stubs classes : Builder} {chunk : Chunk} {v w : World}
variable {dirty sources : DirtyFiles} {result : Except Failure Verdict}

-- ---------------------------------------------------------------------------
-- The sources of a chunk
-- ---------------------------------------------------------------------------

/-- What is listed below the roots of a chunk's targets, target by target and root by root. -/
def listedSources (project : Project) (chunk : Chunk) (listing : Path → List Path) : DirtyFiles :=
  chunk.ids.flatMap fun target =>
    (project.roots target).flatMap fun root => (listing root).map fun p => (target, p)

theorem mem_listedSources_iff {project : Project} {listing : Path → List Path} {target : TargetId}
    {p : Path} : (target, p) ∈ listedSources project chunk listing ↔
      target ∈ chunk.ids ∧ ∃ root ∈ project.roots target, p ∈ listing root := by
  simp only [listedSources, List.mem_flatMap, List.mem_map, Prod.mk.injEq]
  constructor
  · rintro ⟨_, ht, root, hroot, _, hp, rfl, rfl⟩
    exact ⟨ht, root, hroot, hp⟩
  · rintro ⟨ht, root, hroot, hp⟩
    exact ⟨target, ht, root, hroot, p, hp, rfl, rfl⟩

/-- The sources of a chunk that can be found are the Groovy files below the roots. -/
theorem eq_listedSources (h : chunkSources ctx chunk w = (.ok sources, v)) :
    sources = listedSources ctx.project chunk (Project.groovyBelow w.files) := by
  obtain ⟨_, _, hget, hfound⟩ := bind_eq_ok_iff.mp h
  cases hget
  obtain ⟨perTarget, _, hmap, hflat⟩ := bind_eq_ok_iff.mp hfound
  cases hflat
  have hall : perTarget = chunk.ids.map fun target => (ctx.project.roots target).flatMap
      fun root => (Project.groovyBelow w.files root).map fun p => (target, p) := by
    clear h hfound
    generalize w.files = files at hmap
    generalize chunk.ids = targets at hmap
    induction targets generalizing perTarget w with
    | nil =>
      cases hmap
      rfl
    | cons target targets ih =>
      rw [List.mapM_cons] at hmap
      obtain ⟨found, t, hfirst, hmap⟩ := bind_eq_ok_iff.mp hmap
      obtain ⟨rest, _, hrest, hmap⟩ := bind_eq_ok_iff.mp hmap
      cases hmap
      rw [List.map_cons, ← ih rest hrest]
      cases hsources : ctx.project.sources files target groovyExtensions with
      | error fault =>
        simp only [hsources] at hfirst
        cases hfirst
      | ok paths =>
        simp only [hsources] at hfirst
        cases hfirst
        rw [Project.eq_groovyBelow_of_sources hsources, List.map_flatMap]
  rw [hall, listedSources, List.flatMap_def]

-- ---------------------------------------------------------------------------
-- What the compiler is told of them
-- ---------------------------------------------------------------------------

/-- The paths of all sources, each once. -/
def classPaths (sources : DirtyFiles) : List String :=
  pathsToCompile (sources.map (·.2))

/-- The paths of the sources that get stubs, each once. -/
def stubPaths (settings : Settings) (sources : DirtyFiles) : List String :=
  pathsToCompile ((sources.map (·.2)).filter fun p => !settings.excludesStub p)

theorem pathsToCompile_eraseDups (files : List Path) :
    pathsToCompile files.eraseDups = pathsToCompile files :=
  OrderedMap.eraseDups_map_eraseDups _ _

theorem ofString_withSlashes {p : Path} (hp : p.Valid) (h : '\\' ∉ p.toString.toList) :
    ofString (withSlashes p.toString) = p := by
  rw [withSlashes_eq h, ofString_toString hp]

/-- Without backslashes, the sources that get stubs are found again among the paths. -/
theorem stubPaths_eq_filter {settings : Settings}
    (h : ∀ p ∈ sources.map (·.2), p.Valid ∧ '\\' ∉ p.toString.toList) :
    stubPaths settings sources =
      (classPaths sources).filter fun path => !settings.excludesStub (.ofString path) := by
  rw [stubPaths, classPaths]
  generalize sources.map (·.2) = files at h
  have hkept : files.filter (fun p => !settings.excludesStub p) = files.filter
      ((fun path => !settings.excludesStub (.ofString path)) ∘ fun p => withSlashes p.toString) :=
    List.filter_congr fun p hp => by
      rw [Function.comp_apply, ofString_withSlashes (h p hp).1 (h p hp).2]
  rw [hkept, pathsToCompile, pathsToCompile, OrderedMap.filter_eraseDups, List.filter_map]

section
variable (h : ∀ source ∈ sources, isGroovy source.2.name = true ∧ source.2 ∉ ctx.project.resources)
include h

theorem roundSources_stubs (hrole : builder.role = .stubs) :
    roundSources ctx builder sources = stubPaths builder.settings sources := by
  rw [roundSources, changedFiles_of_isGroovy h, pathsToCompile_eraseDups, stubPaths]
  simp [hrole]

theorem roundSources_classes (hrole : builder.role = .classes) :
    roundSources ctx builder sources = classPaths sources := by
  rw [roundSources, changedFiles_of_isGroovy h, pathsToCompile_eraseDups, classPaths]
  simp [hrole]

end

/-- Where no classes are to be made, nothing is to be compiled. -/
theorem roundSources_eq_nil_of_subset (hrole : classes.role = .classes)
    (h : roundSources ctx classes sources = []) (hsub : dirty ⊆ sources) (builder : Builder) :
    roundSources ctx builder dirty = [] := by
  rw [List.eq_nil_iff_forall_not_mem] at h ⊢
  intro path hpath
  obtain ⟨p, hp, rfl⟩ := List.mem_map.mp (List.mem_eraseDups.mp hpath)
  obtain ⟨hm, hcompiled⟩ := List.mem_filter.mp (List.mem_eraseDups.mp hp)
  have hclass : isCompiled ctx.project classes.settings classes.role p = true := by
    simp only [isCompiled, Bool.and_eq_true] at hcompiled ⊢
    exact ⟨hcompiled.1, by simp [hrole]⟩
  exact h _ (List.mem_eraseDups.mpr (List.mem_map_of_mem (List.mem_eraseDups.mpr
    (List.mem_filter.mpr ⟨List.map_subset _ hsub hm, hclass⟩))))

-- ---------------------------------------------------------------------------
-- One round
-- ---------------------------------------------------------------------------

/-- The compiler was started in a round of this role, on these paths. -/
structure Compiles (role : Role) (paths : List String) (call : CompilerCall) : Prop where
  mode : call.parameters[1]? = some role.mode
  told : ∃ file : ArgumentFile, call.argumentFile = some file.bytes ∧ file.sources = paths

/-- How a round of this role starts the compiler on these paths. If it comes to a verdict and is not
aborted, it has done so or has had no reason to. -/
structure RoundCalls (role : Role) (paths : List String) (result : Except Failure Verdict)
    (calls : List CompilerCall) : Prop where
  compiles : ∀ call ∈ calls, Compiles role paths call
  made : ∀ verdict, result = .ok verdict → verdict ≠ .abort → paths ≠ [] → calls ≠ []

section
variable (htemp : ctx.tempDirectory.Valid)
include htemp

theorem round_calls (h : round ctx builder chunk dirty w = (result, v)) :
    ∃ calls, v.calls = w.calls ++ calls ∧
      RoundCalls builder.role (roundSources ctx builder dirty) result calls := by
  rcases starts_round h with ⟨hsame, hends⟩ | ⟨files, finals, u, job, s, invocation, hopen,
    hprepare, -, hcall⟩
  · refine ⟨[], by rw [hsame, List.append_nil], nofun, fun verdict hresult hne hpaths => ?_⟩
    have hempty := (hends verdict hresult).resolve_left hne
    exact absurd (by rw [roundSources, hempty]; rfl) hpaths
  · refine ⟨_, hcall, ?_, fun _ _ _ _ => List.cons_ne_nil _ _⟩
    obtain ⟨hfiles, -⟩ := due_of_openRound hopen
    obtain ⟨_, _, file, -, -, -, -, hfile, -, hsources, -⟩ := prepare_cases htemp hprepare
    simp only [List.mem_singleton, forall_eq]
    exact ⟨rfl, file, hfile, hsources.trans (congrArg pathsToCompile hfiles)⟩

theorem recordedRound_calls {rounds : Rounds} {role : Role}
    (hrun : rounds.run role chunk dirty = round ctx builder chunk dirty)
    (h : recordedRound rounds role chunk dirty w = (result, v)) :
    ∃ calls, v.calls = w.calls ++ calls ∧
      RoundCalls builder.role (roundSources ctx builder dirty) result calls := by
  simp only [recordedRound, run_bind, run_get, run_record] at h
  rw [hrun] at h
  cases hround : round ctx builder chunk dirty (noted [.started role dirty w.tracker] w) with
  | mk ended u =>
    obtain ⟨calls, hcalls, hmade⟩ := round_calls htemp hround
    rw [hround] at h
    cases ended with
    | error failure =>
      cases h
      exact ⟨calls, hcalls, hmade⟩
    | ok verdict =>
      cases h
      exact ⟨calls, hcalls, hmade⟩

end

-- ---------------------------------------------------------------------------
-- Up to the first round of classes
-- ---------------------------------------------------------------------------

/-- The compiler was started in rounds of stubs only, on these paths. -/
def StubsOnly (paths : List String) (calls : List CompilerCall) : Prop :=
  ∀ call ∈ calls, Compiles .stubs paths call

/-- The compiler was started in rounds of stubs, and then in a round of classes. -/
def ThenClasses (stubPaths classPaths : List String) (calls : List CompilerCall) : Prop :=
  ∃ front call back, calls = front ++ call :: back ∧ StubsOnly stubPaths front ∧
    (stubPaths ≠ [] → front ≠ []) ∧ Compiles .classes classPaths call

/-- How the compiler was started: in rounds of stubs only, and then there are no classes to make if
all was done, or in a round of classes after them. -/
def Starts (stubPaths classPaths : List String) (done : Prop) (calls : List CompilerCall) : Prop :=
  StubsOnly stubPaths calls ∧ (done → classPaths = []) ∨ ThenClasses stubPaths classPaths calls

section
variable {stubPaths classPaths : List String} {front calls : List CompilerCall} {done : Prop}

theorem ThenClasses.append (h : ThenClasses stubPaths classPaths calls)
    (later : List CompilerCall) : ThenClasses stubPaths classPaths (calls ++ later) := by
  obtain ⟨front, call, back, rfl, hfront, hstubs, hcall⟩ := h
  exact ⟨front, call, back ++ later, by simp, hfront, hstubs, hcall⟩

/-- More rounds of stubs may come before. -/
theorem Starts.after (h : StubsOnly stubPaths front) (h' : Starts stubPaths classPaths done calls) :
    Starts stubPaths classPaths done (front ++ calls) := by
  rcases h' with ⟨hcalls, hdone⟩ | ⟨first, call, back, rfl, hfirst, hstubs, hcall⟩
  · exact .inl ⟨List.forall_mem_append.mpr ⟨h, hcalls⟩, hdone⟩
  · refine .inr ⟨front ++ first, call, back, by simp, List.forall_mem_append.mpr ⟨h, hfirst⟩,
      fun hne => ?_, hcall⟩
    exact List.append_ne_nil_of_right_ne_nil _ (hstubs hne)

end

/-- The compiler is started again and again, and no start of it is forgotten. -/
def CallsGrow (before after : World) : Prop :=
  before.calls <+: after.calls

instance : Std.Refl CallsGrow := ⟨fun _ => List.prefix_refl _⟩

instance : IsTrans World CallsGrow := ⟨fun _ _ _ h h' => h.trans h'⟩

theorem callsGrow_round (dirty : DirtyFiles) :
    Keeps CallsGrow (round ctx builder chunk dirty) := by
  intro w
  have hround : round ctx builder chunk dirty w = (_, (round ctx builder chunk dirty w).2) := rfl
  rcases starts_round hround with
    ⟨hsame, -⟩ | ⟨_, _, _, _, _, _, -, -, -, hcall⟩
  · rw [CallsGrow, hsame]
  · rw [CallsGrow, hcall]
    exact List.prefix_append _ _

theorem passKeeps_callsGrow (ctx : Context) (stubs classes : Builder) (chunk : Chunk) :
    PassKeeps (.ofBuilders ctx stubs classes) chunk CallsGrow where
  round role dirty := by
    cases role with
    | stubs => exact callsGrow_round dirty
    | classes => exact callsGrow_round dirty
  tracker w _ := List.prefix_refl w.calls
  noted _ w := List.prefix_refl w.calls
  print text := (quiet_print text).mono fun _ _ hquiet => by rw [CallsGrow, hquiet.calls]

/-- A chunk that was given up is not built. -/
theorem ne_of_giveUp (chunk : Chunk) (text : String) (w : World) :
    ((do warnAbout chunk text; return false : Build Bool) w).1 ≠ .ok true := by
  intro hbuilt
  obtain ⟨_, _, -, hend⟩ := bind_eq_ok_iff.mp (Prod.ext hbuilt rfl)
  cases hend

/-- A pass has ended with a verdict, and not for an order to rebuild or to abort. -/
def WentThrough (result : Except Failure Verdict) : Prop :=
  ∃ verdict, result = .ok verdict ∧ verdict ≠ .chunkRebuildRequired ∧ verdict ≠ .abort

section
variable (htemp : ctx.tempDirectory.Valid)
variable (hstubs : stubs.role = .stubs) (hclasses : classes.role = .classes)
include htemp hstubs hclasses

/-- A pass that went through has started the compiler in its round of classes, unless there are none
to make. -/
theorem pass_starts (h : pass (.ofBuilders ctx stubs classes) chunk dirty w = (result, v)) :
    ∃ calls, v.calls = w.calls ++ calls ∧
      Starts (roundSources ctx stubs dirty) (roundSources ctx classes dirty)
        (WentThrough result) calls := by
  have hbegun : modifyTracker (·.setCurrent (dirty.map (·.2))) w = (.ok (), begun dirty w) := rfl
  unfold pass at h
  rw [run_bind_of_ok hbegun, run_bind] at h
  cases hfirst : recordedRound (.ofBuilders ctx stubs classes) .stubs chunk dirty
      (begun dirty w) with
  | mk first u =>
    have hrun : (Rounds.ofBuilders ctx stubs classes).run .stubs chunk dirty =
      round ctx stubs chunk dirty := rfl
    obtain ⟨front, hfront, hmade⟩ := recordedRound_calls htemp hrun hfirst
    rw [hstubs] at hmade
    have hsecond {verdict : Verdict} (hverdict : first = .ok verdict) (hne : verdict ≠ .abort)
        (h : recordedRound (.ofBuilders ctx stubs classes) .classes chunk dirty u = (result, v)) :
        ∃ calls, v.calls = w.calls ++ calls ∧
          Starts (roundSources ctx stubs dirty) (roundSources ctx classes dirty)
            (WentThrough result) calls := by
      have hrun : (Rounds.ofBuilders ctx stubs classes).run .classes chunk dirty =
        round ctx classes chunk dirty := rfl
      obtain ⟨back, hback, hclass⟩ := recordedRound_calls htemp hrun h
      rw [hclasses] at hclass
      refine ⟨front ++ back, by rw [hback, hfront, List.append_assoc]; rfl, ?_⟩
      cases back with
      | nil =>
        refine .inl ⟨by rw [List.append_nil]; exact hmade.compiles, ?_⟩
        rintro ⟨last, hlast, -, hdone⟩
        by_contra hpaths
        exact hclass.made last hlast hdone hpaths rfl
      | cons call back =>
        exact .inr ⟨front, call, back, rfl, hmade.compiles, hmade.made verdict hverdict hne,
          hclass.compiles call List.mem_cons_self⟩
    rw [hfirst] at h
    cases first with
    | error failure =>
      cases h
      exact ⟨front, hfront, .inl ⟨hmade.compiles, nofun⟩⟩
    | ok verdict =>
      cases verdict with
      | chunkRebuildRequired | abort =>
        cases h
        exact ⟨front, hfront, .inl ⟨hmade.compiles, by simp [WentThrough]⟩⟩
      | ok | nothingDone | additionalPassRequired => exact hsecond rfl nofun h

/-- As long as no round of classes has started the compiler, each pass is over files that are to be
compiled like all sources. -/
theorem passes_starts (sources dirty : DirtyFiles) (left : Nat) (rebuilt : Bool) (w : World)
    (hsame : ∀ builder ∈ [stubs, classes],
      roundSources ctx builder dirty = roundSources ctx builder sources) :
    let passed := passes (.ofBuilders ctx stubs classes) chunk sources left rebuilt dirty w
    ∃ calls, passed.2.calls = w.calls ++ calls ∧ Starts (roundSources ctx stubs sources)
      (roundSources ctx classes sources) (passed.1 = .ok true) calls := by
  induction left generalizing rebuilt dirty w with
  | zero =>
    have hfalse := ne_of_giveUp chunk ("giving up after " ++ toString maxRounds ++ " rounds") w
    refine ⟨[], ?_, .inl ⟨List.forall_mem_nil _, fun hdone => absurd hdone hfalse⟩⟩
    rw [List.append_nil]
    exact (quiet_giveUp chunk _ w).calls
  | succ left ih =>
    simp only [passes, run_bind]
    cases hpass : pass (.ofBuilders ctx stubs classes) chunk dirty w with
    | mk result u =>
      obtain ⟨calls, hcalls, hfirst⟩ := pass_starts htemp hstubs hclasses hpass
      rw [hsame stubs (by simp), hsame classes (by simp)] at hfirst
      -- The pass was the last one.
      have hlast {done : Prop} (hdone : done → WentThrough result) :
          Starts (roundSources ctx stubs sources) (roundSources ctx classes sources) done calls :=
        hfirst.imp_left fun hstubs => ⟨hstubs.1, fun h => hstubs.2 (hdone h)⟩
      -- Other passes follow.
      have hgoes (dirty : DirtyFiles) (rebuilt : Bool) (x : World) (hx : x.calls = u.calls)
          (hnext : (WentThrough result → roundSources ctx classes sources = []) →
            ∀ builder ∈ [stubs, classes],
              roundSources ctx builder dirty = roundSources ctx builder sources) :
          let passed := passes (.ofBuilders ctx stubs classes) chunk sources left rebuilt dirty x
          ∃ calls, passed.2.calls = w.calls ++ calls ∧ Starts (roundSources ctx stubs sources)
            (roundSources ctx classes sources) (passed.1 = .ok true) calls := by
        rcases hfirst with ⟨honly, hnone⟩ | hthen
        · obtain ⟨rest, hrest, hends⟩ := ih dirty rebuilt x (hnext hnone)
          refine ⟨calls ++ rest, ?_, .after honly hends⟩
          rw [hrest, hx, hcalls, List.append_assoc]
        · obtain ⟨later, hlater⟩ := keeps_passes (passKeeps_callsGrow ctx stubs classes chunk)
            sources left rebuilt dirty x
          refine ⟨calls ++ later, ?_, .inr (hthen.append later)⟩
          rw [← hlater, hx, hcalls, List.append_assoc]
      cases result with
      | error failure => exact ⟨calls, hcalls, hlast fun hdone => by cases hdone⟩
      | ok verdict =>
        cases verdict with
        | ok => exact ⟨calls, hcalls, hlast fun _ => ⟨_, rfl, by decide, by decide⟩⟩
        | nothingDone => exact ⟨calls, hcalls, hlast fun _ => ⟨_, rfl, by decide, by decide⟩⟩
        | abort => exact ⟨calls, hcalls, hlast fun hdone => by cases hdone⟩
        | chunkRebuildRequired =>
          cases rebuilt with
          | true =>
            have hfalse := ne_of_giveUp chunk "rebuild requested again after a full rebuild" u
            exact ⟨calls, (quiet_giveUp chunk _ u).calls.trans hcalls,
              hlast fun hdone => absurd hdone hfalse⟩
          | false => exact hgoes sources true (enforced u) rfl fun _ _ _ => rfl
        | additionalPassRequired =>
          refine hgoes (scheduledAmong sources u) rebuilt (advanced u) rfl
            fun hnone builder _ => ?_
          have hnil := hnone ⟨_, rfl, by decide, by decide⟩
          have hsub : scheduledAmong sources u ⊆ sources := List.filter_sublist.subset
          rw [roundSources_eq_nil_of_subset hclasses hnil hsub,
            roundSources_eq_nil_of_subset hclasses hnil (List.Subset.refl _)]

end

-- ---------------------------------------------------------------------------
-- Whole chunks
-- ---------------------------------------------------------------------------

/-- A text can spell every source root, and every file by its names. -/
structure Spelled (project : Project) (files : FileSystem) : Prop where
  roots : ∀ entry ∈ project.sourceRoots.entries, ∀ root ∈ entry.2, root.Valid
  names : ∀ entry ∈ files.nodes, ∀ name ∈ entry.1, IsComponent name

theorem Spelled.valid {project : Project} {files : FileSystem} {target : TargetId} {root p : Path}
    (h : Spelled project files) (hroot : root ∈ project.roots target)
    (hp : Project.FileBelow files root p) : p.Valid := by
  obtain ⟨found, hentry, hm⟩ := Project.exists_entry_of_mem_roots hroot
  obtain ⟨place, names, content, -, -, hne, hsight, rfl⟩ := hp
  refine valid_inside (h.roots _ hentry root hm) fun name hname => ?_
  obtain ⟨executable, hnode⟩ := FileSystem.sight_eq_file_iff.mp hsight
  rw [FileSystem.node?_of_ne_root (by simp [hne])] at hnode
  exact h.names _ (mem_of_lookup hnode) name (List.mem_append_right _ hname)

/-- What the compiler is told up to the first round of classes. -/
structure FirstLists (ctx : Context) (settings : Settings) (chunk : Chunk) (files : FileSystem)
    (built : Except Failure Bool) (sources : DirtyFiles) (calls : List CompilerCall) : Prop where
  /-- The sources are all Groovy files below the roots of the chunk's targets, in the order of
  targets, roots and paths. -/
  listed : ∃ listing, (∀ root, Project.ListsGroovy files root (listing root)) ∧
    sources = listedSources ctx.project chunk listing
  told : Starts (stubPaths settings sources) (classPaths sources) (built = .ok true) calls
  stubs : (∀ p ∈ sources.map (·.2), '\\' ∉ p.toString.toList) → stubPaths settings sources =
    (classPaths sources).filter fun path => !settings.excludesStub (.ofString path)
  owners : ∀ target p, (target, p) ∈ sources → '\\' ∉ p.toString.toList → ∀ temp,
    ctx.project.owner? temp (.ofString (withSlashes p.toString)) = some target

/-- However the building of a chunk ends, its starts of the compiler are those of its passes. -/
theorem buildChunk_starts (htemp : ctx.tempDirectory.Valid) (hstubs : stubs.role = .stubs)
    (hclasses : classes.role = .classes) {built : Except Failure Bool}
    (h : buildChunk ctx (.ofBuilders ctx stubs classes) chunk w = (built, v))
    (hsources : sources = listedSources ctx.project chunk (Project.groovyBelow w.files)) :
    ∃ calls, v.calls = w.calls ++ calls ∧ Starts (roundSources ctx stubs sources)
      (roundSources ctx classes sources) (built = .ok true) calls := by
  have hworld := unchanged_chunkSources ctx chunk w
  cases hfound : chunkSources ctx chunk w with
  | mk found u =>
    rw [hfound] at hworld
    subst hworld
    cases found with
    | error failure =>
      rw [buildChunk, run_bind_of_error hfound] at h
      cases h
      exact ⟨[], (List.append_nil _).symm, .inl ⟨nofun, nofun⟩⟩
    | ok found =>
      cases hsources.trans (eq_listedSources hfound).symm
      rw [run_buildChunk hfound] at h
      cases h
      exact passes_starts htemp hstubs hclasses sources sources maxRounds false w fun _ _ => rfl

/-- Up to its first round of classes, the building of a chunk without resources compiles all Groovy
files below the roots of its targets, and makes stubs of all but those that get none. If there are
no backslashes, the files that get stubs are found again among the paths of all, and the target
found for a path is the one that its file was listed for. -/
theorem buildChunk_first_lists (htemp : ctx.tempDirectory.Valid) (hstubs : stubs.role = .stubs)
    (hclasses : classes.role = .classes) (htidy : w.files.Tidy)
    (hspelled : Spelled ctx.project w.files) (hresources : ctx.project.resources = [])
    (hroots : ctx.project.RootsApart) {built : Except Failure Bool}
    (h : buildChunk ctx (.ofBuilders ctx stubs classes) chunk w = (built, v)) :
    ∃ sources calls, v.calls = w.calls ++ calls ∧
      FirstLists ctx stubs.settings chunk w.files built sources calls := by
  have hlists := Project.listsGroovy_groovyBelow htidy
  obtain ⟨sources, hsources⟩ : ∃ sources, sources =
    listedSources ctx.project chunk (Project.groovyBelow w.files) := ⟨_, rfl⟩
  have hlisted {target : TargetId} {p : Path} (hm : (target, p) ∈ sources) :
      ∃ root ∈ ctx.project.roots target, Project.FileBelow w.files root p ∧ p.HasGroovySuffix := by
    obtain ⟨-, root, hroot, hp⟩ := mem_listedSources_iff.mp (hsources ▸ hm)
    exact ⟨root, hroot, ((hlists root).mem_iff p).mp hp⟩
  have hgroovy : ∀ source ∈ sources,
      isGroovy source.2.name = true ∧ source.2 ∉ ctx.project.resources := by
    intro source hm
    obtain ⟨_, -, -, hsuffix⟩ := hlisted hm
    exact ⟨hsuffix.isGroovy, by simp [hresources]⟩
  have hvalid : ∀ source ∈ sources, source.2.Valid := by
    intro source hm
    obtain ⟨_, hroot, hbelow, -⟩ := hlisted hm
    exact hspelled.valid hroot hbelow
  obtain ⟨calls, hcalls, htold⟩ := buildChunk_starts htemp hstubs hclasses h hsources
  rw [roundSources_stubs hgroovy hstubs, roundSources_classes hgroovy hclasses] at htold
  refine ⟨sources, calls, hcalls, ⟨⟨_, hlists, hsources⟩, htold, fun hslashes => ?_, ?_⟩⟩
  · refine stubPaths_eq_filter fun p hp => ⟨?_, hslashes p hp⟩
    obtain ⟨source, hsource, rfl⟩ := List.mem_map.mp hp
    exact hvalid source hsource
  · intro target p hm hslash temp
    obtain ⟨root, hroot, hbelow, -⟩ := hlisted hm
    rw [ofString_withSlashes (hvalid _ hm) hslash]
    exact ctx.project.owner?_of_root hroots hroot hbelow.isWithin temp

/-- The paths in the source section of the argument file. -/
def toldSources (call : CompilerCall) : Option (List String) := do
  let file ← ArgumentFile.ofBytes? (← call.argumentFile)
  return file.sources

/-- Two sources are compiled, and stubs are made of one of them. -/
def selectiveBuilder : Builder :=
  { stubBuilder with settings := { stubBuilder.settings with stubExcludes := ["app/*.groovy"] } }

def selectiveRun : Except Failure Bool × World :=
  buildChunk (pairContext []) (.ofBuilders (pairContext []) selectiveBuilder classBuilder) pairChunk
    (pairWorld [])

theorem buildChunk_first_lists_pair :
    selectiveRun.2.calls.map toldSources =
        [some ["/src/core/A.groovy"], some ["/src/core/A.groovy", "/src/app/B.groovy"]] ∧
      ∃ sources calls, selectiveRun.2.calls = (pairWorld []).calls ++ calls ∧
        FirstLists (pairContext []) selectiveBuilder.settings pairChunk (pairWorld []).files
          selectiveRun.1 sources calls := by
  have htidy : (pairWorld []).files.Tidy :=
    ⟨FileSystem.rooted_of_nodes (by decide +kernel), by decide +kernel⟩
  have hspelled : Spelled (pairContext []).project (pairWorld []).files :=
    ⟨by decide +kernel, by decide +kernel⟩
  exact ⟨by decide +kernel, buildChunk_first_lists (by decide) rfl rfl htidy hspelled rfl
    (by decide +kernel) rfl⟩

/-- A module with three roots. The path of one is that of another with a backslash. -/
def slashedContext : Context :=
  { pairContext [] with
    project := { (pairContext []).project with
      sourceRoots := ⟨[(soleTarget.toTargetId, [{ anchor := .root, names := ["src", "a"] },
        { anchor := .root, names := ["src", "c"] },
        { anchor := .root, names := ["src\\a"] }])]⟩ } }

def slashedWorld : World where
  files := {
    nodes := [(["tmp"], .directory), (["src"], .directory), (["src", "a"], .directory),
      (["src", "a", "B.groovy"], .file [] false), (["src", "c"], .directory),
      (["src", "c", "C.groovy"], .file [] false), (["src\\a"], .directory),
      (["src\\a", "B.groovy"], .file [] false)]
    cwd := [] }

/-- Stubs are made of the files below all roots but one. -/
def slashedStubs : Builder :=
  { stubBuilder with settings := { stubBuilder.settings with stubExcludes := ["a/B.groovy"] } }

/-- The root of one module is spelled as if it lay below that of the other. -/
def climbingRoots : Project :=
  { (pairContext []).project with
    sourceRoots := ⟨[
      ((moduleTarget "core").toTargetId, [{ anchor := .root, names := ["src", "core"] }]),
      ((moduleTarget "app").toTargetId,
        [{ anchor := .root, names := ["src", "core", "..", "app"] }])]⟩ }

def climbingSource : Path where
  anchor := .root
  names := ["src", "core", "..", "app", "B.groovy"]

/-- With a backslash, the files that get stubs are listed in another order than they are compiled
in. And a root may lie beside another one although it is spelled below it: then its sources are
taken for those of the other module. -/
theorem first_lists_not_sublist :
    (slashedContext.project.RootsApart ∧ slashedContext.project.resources = [] ∧
      (buildChunk slashedContext (.ofBuilders slashedContext slashedStubs classBuilder) soleChunk
          slashedWorld).2.calls.map toldSources =
        [some ["/src/c/C.groovy", "/src/a/B.groovy"],
          some ["/src/a/B.groovy", "/src/c/C.groovy"]] ∧
      ¬ ["/src/c/C.groovy", "/src/a/B.groovy"].Sublist ["/src/a/B.groovy", "/src/c/C.groovy"]) ∧
    (climbingRoots.roots (moduleTarget "core").toTargetId).map (pairWorld []).files.locate =
        [.ok ["src", "core"]] ∧
      (climbingRoots.roots (moduleTarget "app").toTargetId).map (pairWorld []).files.locate =
        [.ok ["src", "app"]] ∧
      ((moduleTarget "app").toTargetId, climbingSource) ∈
        chunkFiles { pairContext [] with project := climbingRoots } pairChunk (pairWorld []).files ∧
      climbingRoots.owner? .empty climbingSource = some (moduleTarget "core").toTargetId := by
  refine ⟨⟨?_, rfl, ?_, ?_⟩, ?_, ?_, ?_, ?_⟩
  all_goals decide +kernel

end Build

end GroovyRounds
