import GroovyRounds.Proofs.Build.GroundedBuilds
import GroovyRounds.Proofs.CommandLine.Configuration
import GroovyRounds.Proofs.CommandLine.Reloading

/-!
# Building again

A `compile` command that has all it needs builds its chunks one after another, and
the tree that it leaves has all that the same command needs. What a build does to
a tree is one effect, which comes to nothing when it comes again, so the second
build leaves the tree as it found it, and it registers what the first one
registered (`compile_again`).
-/

namespace GroovyRounds

open FileSystem Path Build Program

variable {ctx : Context} {chunks todo : List Chunk} {chunk : Chunk} {cwd : Path}
variable {data temp : Location} {dirty : Chunk → DirtyFiles} {a b fs : FileSystem} {e : Effect}

-- ---------------------------------------------------------------------------
-- Chunk after chunk
-- ---------------------------------------------------------------------------

/-- The sources of a chunk can be spelled, and the compilers of both rounds make a file of each,
always in the same order; a class has the name of its source. -/
structure Served (ctx : Context) (stubs classes : Builder) (chunk : Chunk) (cwd : Path)
    (temp : Location) (stubOf classOf : Path → List UInt8) (dirty : DirtyFiles)
    (stubOrder order : List Path) : Prop where
  spell : Spellable (dirty.map (·.2))
  stubs : Crafts ctx stubs chunk cwd temp stubOf dirty stubOrder
  classes : Crafts ctx classes chunk cwd temp classOf dirty order
  names : ∀ source ∈ dirty,
    ClassFile.className (classOf source.2) = .ok ("pkg." ++ source.2.stem)

namespace CommandLine

variable {stubs classes : Builder} {stubOf classOf : Path → List UInt8}
variable {stubOrder order : Chunk → List Path} {v w : World}

/-- A world in which the classes of these chunks are registered, made in these orders. -/
def registeredChunks (ctx : Context) (cwd : Path) (classes : Builder)
    (classOf : Path → List UInt8) (order : Chunk → List Path) (chunks : List Chunk) (w : World) :
    World :=
  chunks.foldl (fun w chunk => registeredAll
    (madeClass (classes.role.making (ownerOf ctx chunk) classOf))
    (builderItems ctx cwd classes classOf chunk (order chunk)) w) w

theorem registeredChunks_congr (hclasses : v.classes = w.classes) (hgraph : v.graph = w.graph) :
    (registeredChunks ctx cwd classes classOf order chunks v).classes =
        (registeredChunks ctx cwd classes classOf order chunks w).classes ∧
      (registeredChunks ctx cwd classes classOf order chunks v).graph =
        (registeredChunks ctx cwd classes classOf order chunks w).graph := by
  induction chunks generalizing v w with
  | nil => exact ⟨hclasses, hgraph⟩
  | cons chunk chunks ih =>
    have hfirst := registeredAll_congr
      (madeClass (classes.role.making (ownerOf ctx chunk) classOf))
      (builderItems ctx cwd classes classOf chunk (order chunk)) hclasses hgraph
    exact ih hfirst.1 hfirst.2

/-- What the builds of these chunks do to a tree. -/
def chunksEffect (ctx : Context) (cwd : Path) (stubs classes : Builder)
    (stubOf classOf : Path → List UInt8) (dirty : Chunk → DirtyFiles) (chunks : List Chunk) :
    Effect :=
  .all (chunks.map (chunkEffect ctx cwd stubs classes stubOf classOf dirty))

/-- Classes were registered, and the tree was changed, as the builds of these chunks do. -/
structure BuiltAll (ctx : Context) (cwd : Path) (data : Location) (classes : Builder)
    (classOf : Path → List UInt8) (dirty : Chunk → DirtyFiles) (order : Chunk → List Path)
    (chunks todo : List Chunk) (e : Effect) (w v : World) : Prop where
  within : e.WithinBuilds chunks cwd data dirty
  turns : e.Turns w.files v.files
  consumer : v.classes = (registeredChunks ctx cwd classes classOf order todo w).classes
  graph : v.graph = (registeredChunks ctx cwd classes classOf order todo w).graph
  messages : v.messages = w.messages

/-- On a ground all chunks are built, one after another. -/
theorem run_buildChunks_on_ground (hstubRole : stubs.role = .stubs)
    (hlayout : Layout ctx chunks cwd data temp) (htodo : todo ⊆ chunks)
    (hserved : ∀ chunk ∈ todo, Served ctx stubs classes chunk cwd temp stubOf classOf
      (dirty chunk) (stubOrder chunk) (order chunk))
    (hground : Ground ctx chunks cwd data temp dirty w.files)
    (hunmarked : ∀ other, (w.session.state other).marked = false) :
    ∃ v, buildChunks ctx stubs classes todo w = (.ok true, v) ∧
      BuiltAll ctx cwd data classes classOf dirty order chunks todo
        (chunksEffect ctx cwd stubs classes stubOf classOf dirty todo) w v := by
  induction todo generalizing w with
  | nil => exact ⟨w, rfl, Effect.within_none, .refl hground.tidy, rfl, rfl, rfl⟩
  | cons chunk todo ih =>
    obtain ⟨hchunk, hrest⟩ := List.cons_subset.mp htodo
    obtain ⟨hfirst, hothers⟩ := List.forall_mem_cons.mp hserved
    obtain ⟨s, hs⟩ : ∃ s, s = { w with
        console := w.console ++ [Console.line ("Compiling " ++ chunk.shortName ++ "...")] } :=
      ⟨_, rfl⟩
    have hprint : Build.print (Console.line ("Compiling " ++ chunk.shortName ++ "...")) w =
        (.ok (), s) := by
      rw [hs]
      rfl
    obtain ⟨u, hbuild, hwithin, hturns, hregistered⟩ := run_buildChunk_on_ground (w := s)
      hstubRole hlayout (by rw [hs]; exact hground) hchunk hfirst.spell hfirst.stubs
      hfirst.classes hfirst.names (by rw [hs]; exact hunmarked)
    have hfiles : s.files = w.files := by rw [hs]
    rw [hfiles] at hturns
    obtain ⟨v, hrun, hbuilt⟩ := ih hrest hothers (hground.turns hlayout hwithin hturns)
      fun other => hregistered.unmarked other (by rw [hs]; exact hunmarked other)
    have hbefore := registeredAll_congr (v := s) (w := w)
      (madeClass (classes.role.making (ownerOf ctx chunk) classOf))
      (builderItems ctx cwd classes classOf chunk (order chunk)) (by rw [hs]) (by rw [hs])
    obtain ⟨hconsumer, hgraph⟩ :
        (registeredChunks ctx cwd classes classOf order todo u).classes =
            (registeredChunks ctx cwd classes classOf order (chunk :: todo) w).classes ∧
          (registeredChunks ctx cwd classes classOf order todo u).graph =
            (registeredChunks ctx cwd classes classOf order (chunk :: todo) w).graph :=
      registeredChunks_congr (hregistered.classes.trans hbefore.1)
        (hregistered.graph.trans hbefore.2)
    refine ⟨v, ?_, hwithin.andThen hbuilt.within, hturns.andThen hbuilt.turns,
      hbuilt.consumer.trans hconsumer, hbuilt.graph.trans hgraph, ?_⟩
    · rw [buildChunks, run_bind_of_ok hprint, run_bind_of_ok hbuild]
      exact hrun
    · rw [hbuilt.messages, hregistered.messages, hs]

-- ---------------------------------------------------------------------------
-- Whole builds
-- ---------------------------------------------------------------------------

/-- The builder of a role that a command works with. -/
def builderOf (settings : Settings) (role : Role) : Builder :=
  { role, settings }

/-- What the build of a project does to a tree. -/
def projectEffect (ctx : Context) (cwd : Path) (data : Location) (settings : Settings)
    (stubOf classOf : Path → List UInt8) (dirty : Chunk → DirtyFiles) (chunks : List Chunk) :
    Effect :=
  (cleanEffect data).andThen (chunksEffect ctx cwd (builderOf settings .stubs)
    (builderOf settings .classes) stubOf classOf dirty chunks)

/-- On a ground a project is built. -/
theorem run_buildProject_on_ground {settings : Settings}
    (hlayout : Layout ctx chunks cwd data temp)
    (hserved : ∀ chunk ∈ chunks, Served ctx (builderOf settings .stubs)
      (builderOf settings .classes) chunk cwd temp stubOf classOf (dirty chunk) (stubOrder chunk)
      (order chunk))
    (hground : Ground ctx chunks cwd data temp dirty w.files)
    (hunmarked : ∀ other, (w.session.state other).marked = false) :
    ∃ v, buildProject ctx settings chunks w = (.ok true, v) ∧
      BuiltAll ctx cwd data (builderOf settings .classes) classOf dirty order chunks chunks
        (projectEffect ctx cwd data settings stubOf classOf dirty chunks) w v := by
  obtain ⟨files, hclean, hcleaned⟩ := run_cleanStubRoot hlayout hground
    (builderOf settings .stubs).name
  have hground' := hground.turns hlayout within_clean hcleaned
  obtain ⟨v, hrun, hbuilt⟩ := run_buildChunks_on_ground (w := { w with files }) rfl hlayout
    (List.Subset.refl chunks) hserved hground' hunmarked
  obtain ⟨hconsumer, hgraph⟩ :
      (registeredChunks ctx cwd (builderOf settings .classes) classOf order chunks
          { w with files }).classes =
          (registeredChunks ctx cwd (builderOf settings .classes) classOf order chunks w).classes ∧
        (registeredChunks ctx cwd (builderOf settings .classes) classOf order chunks
          { w with files }).graph =
          (registeredChunks ctx cwd (builderOf settings .classes) classOf order chunks w).graph :=
    registeredChunks_congr rfl rfl
  refine ⟨v, ?_, within_clean.andThen hbuilt.within, hcleaned.andThen hbuilt.turns,
    hbuilt.consumer.trans hconsumer, hbuilt.graph.trans hgraph, hbuilt.messages⟩
  have hstart : startBuild ctx (builderOf settings .stubs) w = (.ok (), { w with files }) := hclean
  unfold buildProject
  exact (run_bind_of_ok hstart).trans hrun

-- ---------------------------------------------------------------------------
-- The command
-- ---------------------------------------------------------------------------

/-- What a command builds a project in. -/
def buildContext (site : Site) (args : CompileArguments) (description : ProjectDescription) :
    Context :=
  { site.context with project := description.project, echo := some args.verbose }

/-- A command has all that it needs: its settings and its project can be loaded, from files that lie
where no build writes, and the chunks of the project can be built on the tree. -/
structure Ready (site : Site) (args : CompileArguments) (settings : Settings)
    (description : ProjectDescription) (cwd : Path) (data temp : Location)
    (stubOf classOf : Path → List UInt8) (dirty : Chunk → DirtyFiles)
    (stubOrder order : Chunk → List Path) (fs : FileSystem) : Prop where
  settings_load : Settings.load fs site.runtimeSupport args.config site.environment = .ok settings
  project_load : ProjectDescription.load fs cwd args.projectFile = .ok description
  settings_outlying : ∀ path ∈ args.config, Outlying description.chunks cwd data fs path
  project_outlying : Outlying description.chunks cwd data fs args.projectFile
  layout : Layout (buildContext site args description) description.chunks cwd data temp
  ground : Ground (buildContext site args description) description.chunks cwd data temp dirty fs
  served : ∀ chunk ∈ description.chunks, Served (buildContext site args description)
    (builderOf settings .stubs) (builderOf settings .classes) chunk cwd temp stubOf classOf
    (dirty chunk) (stubOrder chunk) (order chunk)

section
variable {site : Site} {args : CompileArguments} {settings : Settings}
variable {description : ProjectDescription}

/-- A command has what it needs after a build as before. -/
theorem Ready.turns
    (h : Ready site args settings description cwd data temp stubOf classOf dirty stubOrder order a)
    (hwithin : e.WithinBuilds description.chunks cwd data dirty) (hturns : e.Turns a b) :
    Ready site args settings description cwd data temp stubOf classOf dirty stubOrder order b := by
  have hstart (p : Path) : b.start p = a.start p := by simp [FileSystem.start, hturns.cwd]
  refine { h with
    settings_load := Settings.load_again h.settings_load fun path hpath =>
      h.ground.retains hwithin hturns (h.settings_outlying path hpath)
    project_load := ProjectDescription.load_again h.project_load
      (h.ground.retains hwithin hturns h.project_outlying)
    settings_outlying := fun path hpath => ?_
    project_outlying := ?_
    ground := h.ground.turns h.layout hwithin hturns }
  · unfold Outlying
    rw [hstart]
    exact h.settings_outlying path hpath
  · unfold Outlying
    rw [hstart]
    exact h.project_outlying

/-- A command that has what it needs builds all chunks. -/
theorem run_compile_of_ready
    (h : Ready site args settings description cwd data temp stubOf classOf dirty stubOrder order
      w.files) (hmessages : w.messages = [])
    (hunmarked : ∀ other, (w.session.state other).marked = false) :
    ∃ v, compile site args w = (.ok (.built false v.classes.values.flatten.length), v) ∧
      BuiltAll (buildContext site args description) cwd data (builderOf settings .classes) classOf
        dirty order description.chunks description.chunks
        (projectEffect (buildContext site args description) cwd data settings stubOf classOf dirty
          description.chunks) (greeted w) v := by
  obtain ⟨v, hbuild, hbuilt⟩ := run_buildProject_on_ground (w := greeted w) h.layout h.served
    h.ground hunmarked
  have hcwd : w.cwd = cwd := h.ground.cwd_eq
  have hattempt : attempt (buildProject (buildContext site args description) settings
      description.chunks) (greeted w) = (.ok (.ok true), v) := by
    rw [run_attempt, hbuild]
  refine ⟨v, ?_, hbuilt⟩
  have hclean : v.messages = [] := hbuilt.messages.trans hmessages
  rw [run_compile, h.settings_load, hcwd, h.project_load]
  unfold buildPhase
  refine (run_bind_of_ok hattempt).trans ?_
  simp only [finishBuild, run_bind, run_get, run_pure, hclean, List.any_nil, Bool.not_true,
    Bool.or_false]

end

/-- Two modules in one chunk. -/
def pairProjectText : String :=
  "\x7b\"modules\": [" ++
    "\x7b\"name\": \"core\", \"sources\": [\"src/core\"], \"output\": \"out/core\"\x7d, " ++
    "\x7b\"name\": \"app\", \"sources\": [\"src/app\"], \"output\": \"out/app\"\x7d], " ++
    "\"chunks\": [[\"core\", \"app\"]], \"data_dir\": \"data\"\x7d"

/-- The project file of two modules beside their sources. -/
def pairFiles : FileSystem :=
  { (pairWorld []).files with
    nodes := (["project.json"], .file (Text.Utf8.encodeText pairProjectText) false) ::
      (pairWorld []).files.nodes }

def pairSite : Site where
  context := { pairDelivering with systemPrograms := [{ anchor := .relative, names := ["java"] }] }
  environment := []
  runtimeSupport := { anchor := .root, names := ["groovy.jar"] }

def pairSettings : Settings where
  runtimeSupport := { anchor := .root, names := ["groovy.jar"] }

def pairDescription : ProjectDescription where
  root := rootDirectory
  project := { pairDelivering.project with
    classpath := ⟨["core", "app"].map fun name => ((moduleTarget name).toTargetId, [])⟩ }
  targets := [moduleTarget "core", moduleTarget "app"]
  chunks := [pairChunk]

def pairEntries : ProjectFile.Entries :=
  [("modules", .array [
      .object [("name", .text "core"), ("sources", .array [.text "src/core"]),
        ("output", .text "out/core")],
      .object [("name", .text "app"), ("sources", .array [.text "src/app"]),
        ("output", .text "out/app")]]),
    ("chunks", .array [.array [.text "core", .text "app"]]), ("data_dir", .text "data")]

theorem read_pairProject : Json.read pairProjectText.toList = .ok (.object pairEntries) := by
  cbv

theorem load_pair :
    ProjectDescription.load pairFiles rootDirectory soleProjectArguments.projectFile =
      .ok pairDescription := by
  have hprobe : pairFiles.probe soleProjectArguments.projectFile =
      .ok (some (.file (Text.Utf8.encodeText pairProjectText) false)) := rfl
  simp only [ProjectDescription.load, hprobe, ProjectDescription.ofBytes,
    Text.Utf8.decodeText_encodeText, read_pairProject]
  rfl

def pairBuild : Context :=
  buildContext pairSite soleProjectArguments pairDescription

theorem starts_pair (role : Role) :
    (builderOf pairSettings role).StartsFrom pairBuild pairChunk rootDirectory
      (argumentFiles ["tmp"]) where
  optimize count := ⟨_, rfl⟩
  encoding _ := rfl
  launch optimize plan files hsettings hchunk hclasspath := by
    have hfront : ∀ (role : Role) (optimize : Bool),
        let front := Invocation.command "java" pairSettings.mainClass
          (processClasspath rootDirectory pairBuild.project pairSettings [] pairChunk optimize)
          pairSettings.machineParameters
          [if optimize then "optimize" else "do_not_optimize", role.mode]
        (∀ argument ∈ front, holdsZero argument = false) ∧ isTooLong front = false ∧
          front.foldl (fun size argument => size + argumentSize argument + 8) 0 + pathLimit + 8 ≤
            commandLimit := by
      decide +kernel
    refine ⟨.forked "java" pairSettings.mainClass plan.processClasspath
      pairSettings.machineParameters pairSettings.encoding, ?_, ?_⟩
    · change plan.choose files pairBuild = _
      unfold InvocationPlan.choose
      rw [hsettings, hchunk]
      rfl
    · rintro _ ⟨n, rfl, hadmissible⟩
      obtain ⟨hzero, hshort, hroom⟩ := hfront role optimize
      have hfault : startFault? files pairBuild (Invocation.command "java" pairSettings.mainClass
          plan.processClasspath pairSettings.machineParameters (programParameters optimize role
            (below (argumentPlace ["tmp"] n)) pairSettings.invokeDynamic)) = none := by
        rw [hclasspath]
        refine startFault?_of_system (by decide +kernel) (by decide +kernel) (by decide)
          (by decide +kernel) ?_ (isTooLong_concat hadmissible hshort hroom)
        exact List.forall_mem_append.mpr
          ⟨hzero, List.forall_mem_singleton.mpr (holdsZero_below hadmissible)⟩
      have hcharset : Charset.ofName pairSettings.encoding = .ok .utf8 := rfl
      change Invocation.prepare (.forked ..) pairBuild files (programParameters optimize role _
        pairSettings.invokeDynamic) = _
      simp only [Invocation.prepare, hcharset, hfault]

theorem served_pair : Served pairBuild (builderOf pairSettings .stubs)
    (builderOf pairSettings .classes) pairChunk rootDirectory ["tmp"] (fun _ => [])
    (fun p => ClassFile.least ("pkg." ++ p.stem)) pairDirty (pairDirty.map (·.2))
    (pairDirty.map (·.2)) where
  spell := by decide +kernel
  stubs := {
    starts := starts_pair .stubs
    perm := by decide +kernel
    makes := fun calls call files file hmode _ _ _ => ⟨_, rfl, (if_pos hmode).trans rfl, .inl rfl⟩
    admissible := by decide +kernel }
  classes := {
    starts := starts_pair .classes
    perm := by decide +kernel
    makes := fun calls call files file hmode _ _ _ => by
      have hother : call.parameters[1]? ≠ some Role.stubs.mode := by
        rw [hmode]
        decide
      exact ⟨_, rfl, (if_neg hother).trans rfl, .inl rfl⟩
    admissible := by decide +kernel }
  names := by
    have hnames : ∀ source ∈ pairDirty,
        (ClassFile.className (ClassFile.least ("pkg." ++ source.2.stem))).toOption =
          some ("pkg." ++ source.2.stem) := by
      decide +kernel
    exact fun source hsource => ok_of_toOption (hnames source hsource)

theorem layout_pair : Layout pairBuild [pairChunk] rootDirectory ["data"] ["tmp"] where
  data_root := rfl
  orderly := by decide +kernel
  outputs := by decide +kernel
  temp_outside := by decide
  roots_aside := by decide +kernel
  roots_apart := by decide +kernel

theorem ground_pair : Ground pairBuild [pairChunk] rootDirectory ["data"] ["tmp"]
    (fun _ => pairDirty) pairFiles where
  tidy := ⟨rooted_of_nodes (by decide +kernel), by decide +kernel⟩
  cwd_eq := rfl
  stubRoot := by decide +kernel
  outputs := by decide +kernel
  stubs := by decide +kernel
  roots := by decide +kernel
  sources := by decide +kernel
  rooms := by
    have hvacant : ∀ target ∈ pairChunk.ids,
        OutputOpen (outputPlace rootDirectory) target pairFiles ∧
          pairFiles.Vacant (outputPlace rootDirectory target) := by
      decide +kernel
    have hplaces : ∀ target ∈ pairChunk.ids, ∀ source ∈ pairDirty,
        let place := outputPlace rootDirectory target ++ Role.classes.fileNames source.2
        (∀ name ∈ place, IsPlain name) ∧ Admissible place := by
      decide +kernel
    refine List.forall_mem_singleton.mpr fun target ht source hsource => ?_
    obtain ⟨hplain, hadmissible⟩ := hplaces target ht source hsource
    exact (hvacant target ht).1.room (hvacant target ht).2 hplain (by simp [Role.fileNames])
      hadmissible
  paved := by decide +kernel
  name := ⟨0, List.forall_mem_singleton.mpr
    ⟨by decide +kernel, by decide +kernel, by decide +kernel⟩⟩

theorem ready_pair : Ready pairSite soleProjectArguments pairSettings pairDescription rootDirectory
    ["data"] ["tmp"] (fun _ => []) (fun p => ClassFile.least ("pkg." ++ p.stem))
    (fun _ => pairDirty) (fun _ => pairDirty.map (·.2)) (fun _ => pairDirty.map (·.2))
    pairFiles where
  settings_load := rfl
  project_load := load_pair
  settings_outlying := nofun
  project_outlying := by decide +kernel
  layout := layout_pair
  ground := ground_pair
  served := List.forall_mem_singleton.mpr served_pair

/-- One source root of this module is spelled through a directory above its output. -/
def windingProjectText : String :=
  "\x7b\"modules\":[\x7b\"name\":\"m\",\"sources\":[\"a\",\"x/../b\"],\"output\":\"x/o\"\x7d]\x7d"

def windingFiles : FileSystem where
  nodes := [(["project.json"], .file (Text.Utf8.encodeText windingProjectText) false),
    (["a"], .directory), (["a", "A.groovy"], .file [] false), (["b"], .directory),
    (["b", "B.groovy"], .file [] false), (["tmp"], .directory)]
  cwd := []

/-- The compiler makes a file of every source that it is told. -/
def windingSite : Site :=
  { pairSite with
    context := { pairSite.context with compiler := Script.compiler fun _ => [[.classes []]] } }

/-- The settings lie among the stubs. -/
def buriedArguments : CompileArguments :=
  { soleProjectArguments with
    config := some { anchor := .root, names := [".gbuild", "groovyStubs", "gbuild.ini"] } }

def buriedFiles : FileSystem where
  nodes := [(["project.json"], .file (Text.Utf8.encodeText windingProjectText) false),
    ([".gbuild"], .directory), ([".gbuild", "groovyStubs"], .directory),
    ([".gbuild", "groovyStubs", "gbuild.ini"], .file [] false)]
  cwd := []

/-- What a command comes to. -/
def firstRun (site : Site) (args : CompileArguments) (fs : FileSystem) :
    Except Failure Ending × World :=
  compile site args { files := fs }

/-- What the same command comes to on the tree that it left. -/
def secondRun (site : Site) (args : CompileArguments) (fs : FileSystem) :
    Except Failure Ending × World :=
  compile site args { files := (firstRun site args fs).2.files }

end CommandLine

end GroovyRounds
