import GroovyRounds.Proofs.Build.Classpath
import GroovyRounds.Proofs.Build.Incremental

/-!
# How the classpath reaches the compiler

Whether classes are loaded in the optimized way is decided once in a round. The
decision shows in its argument file, in the first parameter of the compiler and
in how it is started, and the full classpath stands in one of these places only
(`classpath_reaches_once`).
-/

namespace GroovyRounds

-- ---------------------------------------------------------------------------
-- The decision
-- ---------------------------------------------------------------------------

/-- The version is known and is not older than the first that can load classes in the optimized
way. -/
def IsRecent (version : Json) : Prop :=
  ∃ text order, version = .scalar (.text text) ∧
    Version.compare (some text.display) (some "1.6") = .ok order ∧ 0 ≤ order

theorem isOptimizedVersion_cases {version : Json} {able : Bool}
    (h : isOptimizedVersion version = .ok able) : able = true ↔ IsRecent version := by
  unfold isOptimizedVersion at h
  split at h
  · cases h
    simp [IsRecent]
  · rename_i text
    cases hcompare : Version.compare (some text.display) (some leastOptimizedVersion) with
    | error fault =>
      simp only [hcompare] at h
      cases h
    | ok order =>
      simp only [hcompare] at h
      cases h
      rw [decide_eq_true_iff]
      constructor
      · intro hle
        exact ⟨text, order, rfl, hcompare, hle⟩
      · rintro ⟨_, _, ⟨⟩, hsame, hle⟩
        cases hcompare.symm.trans hsame
        exact hle
  · cases h

theorem shouldOptimize_cases {settings : Settings} {chunk : Chunk} {count : Nat}
    {optimize : Bool} (h : shouldOptimize settings chunk count = .ok optimize) :
    optimize = true ↔ settings.inProcess = false ∧ settings.optimizeThreshold ≠ 0 ∧
      settings.optimizeThreshold ≤ count ∧ IsRecent (runtimeVersion settings chunk) := by
  unfold shouldOptimize at h
  split at h
  · cases h
    simp [*]
  · cases hable : isOptimizedVersion (runtimeVersion settings chunk) with
    | error failure =>
      rw [hable] at h
      cases h
    | ok able =>
      rw [hable] at h
      cases h
      rw [← isOptimizedVersion_cases hable]
      simp [*]
      tauto

-- ---------------------------------------------------------------------------
-- How the compiler is started
-- ---------------------------------------------------------------------------

/-- The invocation that the settings ask for gets the full classpath in this process, and that of
the compiler process in a child process. -/
theorem InvocationPlan.choose_cases {plan : InvocationPlan} {files : FileSystem} {ctx : Context}
    {invocation : Invocation} (h : plan.choose files ctx = .ok invocation) :
    plan.settings.inProcess = true ∧ invocation = .inProcess plan.fullClasspath plan.outputs ∨
      plan.settings.inProcess = false ∧ ∃ java, invocation = .forked java plan.settings.mainClass
        plan.processClasspath plan.settings.machineParameters plan.settings.encoding := by
  unfold choose at h
  dsimp only at h
  split at h
  · rename_i hinProcess
    left
    split at h
    · cases h
    · cases h
    · rename_i reference _ _
      cases hresolve : resolveRunner ctx reference with
      | error failure =>
        rw [hresolve] at h
        cases h
      | ok _ =>
        rw [hresolve] at h
        cases h
        exact ⟨hinProcess, rfl⟩
  · rename_i hforked
    cases h
    exact .inr ⟨eq_false_of_ne_true hforked, _, rfl⟩

/-- The command line of the child process in which the compiler was started. -/
def CompilerCall.commandLine? (call : CompilerCall) : Option (List String) :=
  match call.invocation with
  | .inProcess .. => none
  | .forked java mainClass classpath machine _ =>
    some (Invocation.command java mainClass classpath machine call.parameters)

/-- The compiler was started in this process and got these entries. -/
def CompilerCall.Gets (call : CompilerCall) (entries : List String) : Prop :=
  ∃ outputs, call.invocation = .inProcess entries outputs

/-- The compiler was started in a child process, and the first classpath of its command line is that
of these entries. -/
def CompilerCall.StartsWith (call : CompilerCall) (entries : List String) : Prop :=
  ∃ java machine rest, call.commandLine? =
      some (java :: machine ++ ["-classpath", joinClasspath entries] ++ rest ++ call.parameters) ∧
    "-classpath" ∉ machine

theorem not_mem_machineParameters (settings : Settings) :
    "-classpath" ∉ settings.machineParameters := by
  have hne (front back : String) (hlong : 1 < front.toList.length)
      (hfront : front.toList[1]? ≠ some 'c') : "-classpath" ≠ front ++ back := by
    intro heq
    rw [← List.getElem?_append_left hlong, ← String.toList_append, ← heq] at hfront
    exact hfront rfl
  have hheap : "-classpath" ≠ "-Xmx" ++ toString settings.heapSize ++ "m" := by
    rw [String.append_assoc]
    exact hne _ _ (by decide) (by decide)
  have hencoding : "-classpath" ≠ "-Dfile.encoding=" ++ settings.encoding :=
    hne _ _ (by decide) (by decide)
  have hroot : "-classpath" ∉ grapeRootParameters settings.grapeRoot := by
    unfold grapeRootParameters
    split
    · exact List.not_mem_nil
    · exact List.not_mem_nil
    · exact fun hm => hne _ _ (by decide) (by decide) (List.mem_singleton.mp hm)
  simp only [Settings.machineParameters, List.mem_append, List.mem_cons, List.not_mem_nil, or_false,
    not_or]
  exact ⟨⟨hheap, hencoding⟩, hroot⟩

theorem startsWith_forked {java mainClass encoding : String} {settings : Settings}
    {entries : List String} {call : CompilerCall}
    (h : call.invocation =
      .forked java mainClass entries settings.machineParameters encoding) :
    call.StartsWith entries := by
  refine ⟨java, settings.machineParameters, [mainClass], ?_, not_mem_machineParameters settings⟩
  rw [CompilerCall.commandLine?, h]
  rfl

-- ---------------------------------------------------------------------------
-- Where the full classpath stands
-- ---------------------------------------------------------------------------

/-- A route by which the full classpath reaches the compiler. -/
inductive Route where
  /-- It is handed to the runner in this process. -/
  | handed
  /-- It stands on the command line. -/
  | started
  /-- It stands in the argument file, and the classes are loaded in the optimized way. -/
  | told
deriving DecidableEq

/-- The full classpath reaches the compiler by this route; its process may have to do with the least
one. -/
def Reaches (full least : List String) (call : CompilerCall) (file : ArgumentFile) :
    Route → Prop
  | .handed => call.Gets full ∧ file.classpathLines = [] ∧
      call.parameters.head? = some "do_not_optimize"
  | .started => call.StartsWith full ∧ file.classpathLines = [] ∧
      call.parameters.head? = some "do_not_optimize"
  | .told => call.StartsWith least ∧ file.classpathLines = ["classpath", joinClasspath full] ∧
      call.parameters.head? = some "optimize"

section
variable {full least : List String} {call : CompilerCall} {file : ArgumentFile}

theorem not_startsWith_of_gets (h : call.Gets full) : ¬ call.StartsWith least := by
  rintro ⟨_, _, _, hcommand, -⟩
  obtain ⟨outputs, hinvocation⟩ := h
  rw [CompilerCall.commandLine?, hinvocation] at hcommand
  cases hcommand

/-- It never reaches the compiler by two routes. -/
theorem Reaches.unique {route route' : Route} (h : Reaches full least call file route)
    (h' : Reaches full least call file route') : route = route' := by
  have hmode (h : call.parameters.head? = some "optimize") :
      call.parameters.head? ≠ some "do_not_optimize" := by
    rw [h]
    decide
  cases route with
  | handed =>
    cases route' with
    | handed => rfl
    | started => exact absurd h'.1 (not_startsWith_of_gets h.1)
    | told => exact absurd h'.1 (not_startsWith_of_gets h.1)
  | started =>
    cases route' with
    | handed => exact absurd h.1 (not_startsWith_of_gets h'.1)
    | started => rfl
    | told => exact absurd h.2.2 (hmode h'.2.2)
  | told =>
    cases route' with
    | handed => exact absurd h'.2.2 (hmode h.2.2)
    | started => exact absurd h'.2.2 (hmode h.2.2)
    | told => rfl

end

-- ---------------------------------------------------------------------------
-- The classpath in the argument file
-- ---------------------------------------------------------------------------

theorem canonicalText_ne_empty {cwd : Path} (habsolute : cwd.isAbsolute = true) (p : Path) :
    canonicalText cwd p ≠ "" := by
  have hanchor : (p.canonical cwd).anchor ≠ .relative := by
    simpa [Path.isAbsolute] using Path.isAbsolute_canonical habsolute p
  rw [canonicalText, Path.toString_of_slashes hanchor]
  cases hslashes : (p.canonical cwd).anchor with
  | relative => exact absurd hslashes hanchor
  | root => simp [Anchor.slashes]
  | doubleRoot => simp [Anchor.slashes]

theorem joinClasspath_ne_empty {entry : String} {entries : List String}
    (hhead : entries.head? = some entry) (h : entry ≠ "") : joinClasspath entries ≠ "" := by
  cases entries with
  | nil => cases hhead
  | cons first rest =>
    cases hhead
    rw [joinClasspath]
    cases rest with
    | nil => simpa using h
    | cons second rest => simp [String.intercalate_cons_cons]

/-- An argument file has a section for the classpath just if it has a classpath. -/
theorem classpathLines_of_classpath {file : ArgumentFile} {optimize : Bool} {text : String}
    (hne : text ≠ "") (h : file.classpath = if optimize then text else "") :
    file.classpathLines = if optimize then ["classpath", text] else [] := by
  rw [ArgumentFile.classpathLines, h]
  cases optimize with
  | false => rfl
  | true => simp [hne]

namespace Build

open Program

variable {ctx : Context} {builder : Builder} {chunk : Chunk} {v w : World}

theorem joinClasspath_fullClasspath_ne (w : World) (project : Project) (settings : Settings)
    (extensions : List Extension) (chunk : Chunk) :
    joinClasspath (fullClasspath w.cwd project settings extensions chunk) ≠ "" :=
  joinClasspath_ne_empty (head_foldl_appendUnique _ _) (canonicalText_ne_empty rfl _)

/-- What a round that was prepared has decided and written down about the classpath. -/
theorem prepare_classpath {job : Job} {files : List Path} {finals : OrderedMap TargetId String}
    (htemp : ctx.tempDirectory.Valid)
    (h : prepare ctx builder chunk files finals w = (.ok job, v)) :
    shouldOptimize builder.settings chunk (pathsToCompile files).length = .ok job.optimize ∧
      job.classpath =
        fullClasspath w.cwd ctx.project builder.settings builder.extensions chunk ∧
      ∃ file : ArgumentFile,
        Invocation.parameterContent v.files (programParameters job.optimize builder.role
          job.argumentFile builder.settings.invokeDynamic) = some file.bytes ∧
        file.sources = pathsToCompile files ∧
        file.classpathLines =
          if job.optimize then ["classpath", joinClasspath job.classpath] else [] := by
  obtain ⟨_, u, hoptimize, -, houtputs, -, -, hclasspath, hwrite⟩ := prepare_parts h
  have hcwd : u.cwd = w.cwd :=
    ((filesOnly_generationOutputs _ _ _ _).of_eq houtputs).quiet.idle.cwd
  obtain ⟨_, hcontent⟩ := writeArgumentFile_cases htemp hwrite
  refine ⟨hoptimize, hcwd ▸ hclasspath, _, hcontent _ rfl, rfl,
    classpathLines_of_classpath ?_ rfl⟩
  rw [hclasspath]
  exact joinClasspath_fullClasspath_ne _ _ _ _ _

/-- A job is launched with its classpath in this process, and with the least one in a child process
that loads its classes in the optimized way. -/
theorem launch_cases {job : Job} {invocation : Invocation}
    (hchoose : builder.launch = InvocationPlan.choose)
    (h : launch ctx builder chunk job w = (.ok invocation, v)) :
    builder.settings.inProcess = true ∧
        (∃ outputs, invocation = .inProcess job.classpath outputs) ∨
      builder.settings.inProcess = false ∧
        ∃ java, invocation = .forked java builder.settings.mainClass
          (if job.optimize then bootstrapClasspath w.cwd builder.settings
            else fullClasspath w.cwd ctx.project builder.settings builder.extensions chunk)
          builder.settings.machineParameters builder.settings.encoding := by
  obtain ⟨_, _, hget, h⟩ := bind_eq_ok_iff.mp h
  cases hget
  rw [run_ofExcept, hchoose] at h
  rcases InvocationPlan.choose_cases (Prod.mk.inj h).1 with ⟨hinProcess, hinvocation⟩ |
    ⟨hforked, java, hinvocation⟩
  · exact .inl ⟨hinProcess, _, hinvocation⟩
  · refine .inr ⟨hforked, java, hinvocation.trans ?_⟩
    have hforked : builder.settings.inProcess = false := hforked
    simp only [processClasspath, hforked, Bool.not_false, Bool.and_true]

-- ---------------------------------------------------------------------------
-- Whole rounds
-- ---------------------------------------------------------------------------

/-- The full classpath reaches the compiler by one route only. It stands in the argument file just
if the compiler runs in a child process, there are sources enough, and the runtime is recent. -/
structure ReachesOnce (settings : Settings) (chunk : Chunk) (full least : List String)
    (call : CompilerCall) (file : ArgumentFile) : Prop where
  once : ∃! route, Reaches full least call file route
  told_iff : Reaches full least call file .told ↔
    call.commandLine?.isSome = true ∧ settings.optimizeThreshold ≠ 0 ∧
      settings.optimizeThreshold ≤ file.sources.length ∧ IsRecent (runtimeVersion settings chunk)

/-- The decision settles by which route the full classpath reaches the compiler. -/
theorem reaches_of_decision {full least : List String} {call : CompilerCall}
    {file : ArgumentFile} {optimize : Bool}
    (hstart : call.Gets full ∧ optimize = false ∨
      call.StartsWith (if optimize then least else full))
    (hfile : file.classpathLines = if optimize then ["classpath", joinClasspath full] else [])
    (hmode : call.parameters.head? =
      some (if optimize then "optimize" else "do_not_optimize")) :
    (∃! route, Reaches full least call file route) ∧
      (Reaches full least call file .told ↔ optimize = true) := by
  have htold (h : Reaches full least call file .told) : optimize = true := by
    cases optimize with
    | true => rfl
    | false => exact absurd (hmode.symm.trans h.2.2) (by decide)
  have hone (route : Route) (h : Reaches full least call file route) :
      ∃! route, Reaches full least call file route :=
    ⟨route, h, fun _ h' => h'.unique h⟩
  rcases hstart with ⟨hgets, rfl⟩ | hstarts
  · exact ⟨hone .handed ⟨hgets, hfile, hmode⟩, htold, nofun⟩
  · cases optimize with
    | false => exact ⟨hone .started ⟨hstarts, hfile, hmode⟩, htold, nofun⟩
    | true =>
      have htold' : Reaches full least call file .told := ⟨hstarts, hfile, hmode⟩
      exact ⟨hone .told htold', htold, fun _ => htold'⟩

/-- A round that starts the compiler as the settings ask for lets the full classpath reach it once,
with the sources of the round, each once. -/
theorem classpath_reaches_once {dirty : DirtyFiles} {result : Except Failure Verdict}
    (hchoose : builder.launch = InvocationPlan.choose) (htemp : ctx.tempDirectory.Valid)
    (h : round ctx builder chunk dirty w = (result, v)) :
    v.calls = w.calls ∨ ∃ call, ∃ file : ArgumentFile, v.calls = w.calls ++ [call] ∧
      call.argumentFile = some file.bytes ∧
      file.sources = roundSources ctx builder dirty ∧ file.sources.Nodup ∧
      ReachesOnce builder.settings chunk
        (fullClasspath w.cwd ctx.project builder.settings builder.extensions chunk)
        (bootstrapClasspath w.cwd builder.settings) call file := by
  rcases starts_round h with ⟨hsame, -⟩ | ⟨files, finals, u, job, s, invocation, hopen, hprepare,
    hlaunch, hcall⟩
  · exact .inl hsame
  right
  obtain ⟨rfl, -⟩ := due_of_openRound hopen
  have hopened : u.cwd = w.cwd := ((idle_stated chunk w).trans
    ((Quiet.keeps_idle (quiet_openRound _ _ _ _)).of_eq hopen)).cwd
  have hprepared : s.cwd = u.cwd :=
    ((Quiet.keeps_idle (quiet_prepare _ _ _ _ _)).of_eq hprepare).cwd
  obtain ⟨hoptimize, hclasspath, file, hcontent, hsources, hlines⟩ :=
    prepare_classpath htemp hprepare
  have hdecided := shouldOptimize_cases hoptimize
  have hlaunched := launch_cases hchoose hlaunch
  rw [hopened] at hclasspath
  rw [hclasspath] at hlines hlaunched
  rw [hprepared, hopened] at hlaunched
  have hmode : (invocation.call (programParameters job.optimize builder.role job.argumentFile
      builder.settings.invokeDynamic) s).parameters.head? =
        some (if job.optimize then "optimize" else "do_not_optimize") := rfl
  refine ⟨_, file, hcall, hcontent, hsources, hsources ▸ nodup_pathsToCompile _, ?_⟩
  rcases hlaunched with ⟨hinProcess, outputs, rfl⟩ | ⟨hforked, java, rfl⟩
  · have hfalse : job.optimize = false := by
      by_contra htrue
      rw [(hdecided.mp (eq_true_of_ne_false htrue)).1] at hinProcess
      cases hinProcess
    obtain ⟨honce, htold⟩ := reaches_of_decision (.inl ⟨⟨outputs, rfl⟩, hfalse⟩) hlines hmode
    exact ⟨honce, htold.trans (by simp [hfalse, Invocation.call, CompilerCall.commandLine?])⟩
  · obtain ⟨honce, htold⟩ := reaches_of_decision (.inr (startsWith_forked rfl)) hlines hmode
    refine ⟨honce, htold.trans (hdecided.trans ?_)⟩
    rw [hsources]
    exact and_congr_left' ⟨fun _ => rfl, fun _ => hforked⟩

/-- A builder that starts the compiler in a child process, with optimized class loading for two
files or more. -/
def forkingBuilder : Builder where
  role := .classes
  settings := {
    runtimeSupport := .ofString "/groovy.jar"
    bootstrapClasspath := [.ofString "/boot.jar"]
    optimizeThreshold := 2
    javaHome := some (.ofString "/jdk") }
  extensions := [{ classpath := ["/extension.jar"] }]

def forkingContext : Context :=
  { pairContext [] with systemPrograms := [.ofString "/jdk/bin/java"] }

/-- A round on the sources of both modules. -/
def forkingRound : RoundRun :=
  roundRun forkingContext forkingBuilder pairChunk [pairSource "core" "A", pairSource "app" "B"]
    (pairWorld [])

theorem classpath_reaches_once_told :
    ∃ call, ∃ file : ArgumentFile, forkingRound.after.calls = [call] ∧
      call.argumentFile = some file.bytes ∧
      file.sources = ["/src/core/A.groovy", "/src/app/B.groovy"] ∧
      Reaches ["/groovy.jar", "/extension.jar"] ["/groovy.jar", "/boot.jar"] call file .told := by
  obtain ⟨hforked, hsources, hfull, hleast⟩ :
      forkingRound.after.calls.map (·.commandLine?.isSome) = [true] ∧
        roundSources forkingContext forkingBuilder forkingRound.dirty =
          ["/src/core/A.groovy", "/src/app/B.groovy"] ∧
        fullClasspath forkingRound.before.cwd forkingContext.project forkingBuilder.settings
          forkingBuilder.extensions pairChunk = ["/groovy.jar", "/extension.jar"] ∧
        bootstrapClasspath forkingRound.before.cwd forkingBuilder.settings =
          ["/groovy.jar", "/boot.jar"] := by
    decide +kernel
  have hrecent : IsRecent (runtimeVersion forkingBuilder.settings pairChunk) :=
    ⟨_, 2, rfl, by rfl, by decide⟩
  have hround : round forkingContext forkingBuilder pairChunk forkingRound.dirty
      forkingRound.before = (forkingRound.result, forkingRound.after) := rfl
  have htemp : forkingContext.tempDirectory.Valid := by decide
  rcases classpath_reaches_once rfl htemp hround with hnone |
    ⟨call, file, hcall, hfile, hpaths, -, honce⟩
  · rw [hnone] at hforked
    cases hforked
  · have hcall : forkingRound.after.calls = [call] := hcall
    rw [hsources] at hpaths
    rw [hfull, hleast] at honce
    rw [hcall] at hforked
    refine ⟨call, file, hcall, hfile, hpaths, honce.told_iff.mpr ?_⟩
    rw [hpaths]
    exact ⟨List.singleton_inj.mp hforked, by decide, by decide, hrecent⟩

end Build

end GroovyRounds
