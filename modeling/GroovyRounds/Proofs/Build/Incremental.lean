import GroovyRounds.ClassFile.Least
import GroovyRounds.Proofs.Build.Settling
import GroovyRounds.Proofs.Build.Sources
import GroovyRounds.Proofs.Compiler.ArgumentFile

/-!
# Rounds one after another

What one round registers is what the next one tells the compiler. The index is
exact before the first round, and a round keeps it exact: either it registers
all its sources or none (`indexed_round`). So the classes in the argument file
of every round are those of the sources compiled before, but for those that are
compiled again (`classToSource_of_history`).
-/

namespace GroovyRounds

open Path FileSystem

namespace Build

open Program

-- ---------------------------------------------------------------------------
-- Rounds
-- ---------------------------------------------------------------------------

/-- The sources of a round, as the compiler is told them. -/
def roundSources (ctx : Context) (builder : Builder) (dirty : DirtyFiles) : List String :=
  pathsToCompile (changedFiles ctx.project builder.settings builder.role dirty)

/-- The compiler was started on these sources, and was told the classes of the compiled sources but
for those that it was started on, each with its source, and no other classes. -/
def TellsClasses (classOf : String → List String) (sources : List String)
    (compiled : Set String) (before after : World) : Prop :=
  ∃ call, ∃ file : ArgumentFile, after.calls = before.calls ++ [call] ∧
    call.argumentFile = some file.bytes ∧ file.sources = sources ∧
    (file.classToSource.map (·.1)).Nodup ∧
    ∀ name source, (name, source) ∈ file.classToSource ↔
      source ∈ compiled ∧ source ∉ sources ∧ name = dottedName (classOf source)

/-- What the compiler had done when it had run in a round. -/
structure Compilation where
  job : Job
  reported : CompilerOutput
  world : World

/-- The compilation of a round on these files, if the compiler ran to its end. -/
def compilation? (ctx : Context) (builder : Builder) (chunk : Chunk) (dirty : DirtyFiles)
    (w : World) : Option Compilation :=
  match openRound ctx builder chunk dirty (stated chunk w) with
  | (.ok (.due files finals), opened) =>
    match prepare ctx builder chunk files finals opened with
    | (.ok job, prepared) =>
      match compileJob ctx builder chunk job prepared with
      | (.ok reported, world) => some { job, reported, world }
      | _ => none
    | _ => none
  | _ => none

/-- A round that was run. -/
structure RoundRun where
  dirty : DirtyFiles
  before : World
  result : Except Failure Verdict
  after : World

/-- A round on these files, run in this world. -/
def roundRun (ctx : Context) (builder : Builder) (chunk : Chunk) (dirty : DirtyFiles)
    (w : World) : RoundRun where
  dirty
  before := w
  result := (round ctx builder chunk dirty w).1
  after := (round ctx builder chunk dirty w).2

/-- The round ended well, perhaps with sources waiting for the next one. -/
def RoundRun.IsDone (run : RoundRun) : Prop :=
  run.result = .ok .ok ∨ run.result = .ok .additionalPassRequired

/-- Rounds of one chunk, one after another. The index is empty before the first one; between
two of them all but the index may change. -/
inductive History (ctx : Context) (builder : Builder) (chunk : Chunk) (cwd : Path) :
    List RoundRun → SourceIndex → Prop where
  | start : History ctx builder chunk cwd [] {}
  | next {runs : List RoundRun} {index : SourceIndex} {run : RoundRun}
      (earlier : History ctx builder chunk cwd runs index) (hindex : run.before.index = index)
      (hcwd : run.before.cwd = cwd)
      (hround : round ctx builder chunk run.dirty run.before = (run.result, run.after)) :
      History ctx builder chunk cwd (runs ++ [run]) run.after.index

/-- The sources of a round belong to targets of the chunk, and the compiler made their classes. -/
@[mk_iff] structure Faithful (ctx : Context) (builder : Builder) (chunk : Chunk)
    (classOf : String → List String) (run : RoundRun) : Prop where
  valid : ∀ p ∈ changedFiles ctx.project builder.settings builder.role run.dirty, p.Valid
  no_backslash : ∀ p ∈ changedFiles ctx.project builder.settings builder.role run.dirty,
    '\\' ∉ p.toString.toList
  owned : ∀ p ∈ changedFiles ctx.project builder.settings builder.role run.dirty,
    ∃ target ∈ chunk.ids, ctx.project.owner? run.before.tempRoots p = some target
  not_excluded : ∀ p ∈ changedFiles ctx.project builder.settings builder.role run.dirty,
    p ∉ ctx.project.excluded
  makes : ∀ compilation ∈ compilation? ctx builder chunk run.dirty run.before,
    MakesClasses classOf (roundSources ctx builder run.dirty) compilation.job.compilerOutput
      compilation.reported.compiled compilation.world.files

instance (ctx : Context) (builder : Builder) (chunk : Chunk) (classOf : String → List String)
    (run : RoundRun) : Decidable (Faithful ctx builder chunk classOf run) :=
  decidable_of_iff _ (faithful_iff ctx builder chunk classOf run).symm

/-- When the compiler has run, no directory stands where a class of the round belongs. -/
def PlacesFree (ctx : Context) (builder : Builder) (chunk : Chunk) (cwd : Path)
    (classOf : String → List String) (run : RoundRun) : Prop :=
  ∀ compilation ∈ compilation? ctx builder chunk run.dirty run.before,
    ∀ source ∈ roundSources ctx builder run.dirty,
      ∀ target ∈ ctx.project.owner? run.before.tempRoots (.ofString source),
        compilation.world.files.node? (outputPlace cwd target ++ classFile (classOf source)) ≠
          some .directory

instance (ctx : Context) (builder : Builder) (chunk : Chunk) (cwd : Path)
    (classOf : String → List String) (run : RoundRun) :
    Decidable (PlacesFree ctx builder chunk cwd classOf run) :=
  inferInstanceAs (Decidable (∀ compilation ∈ compilation? ctx builder chunk run.dirty run.before,
    ∀ source ∈ roundSources ctx builder run.dirty,
      ∀ target ∈ ctx.project.owner? run.before.tempRoots (.ofString source),
        compilation.world.files.node? (outputPlace cwd target ++ classFile (classOf source)) ≠
          some .directory))

/-- The round did not fail for want of tidying up: its argument file could be removed. -/
def RoundRun.IsTidy (run : RoundRun) : Prop :=
  ∀ fault, run.result ≠ .error (.files fault)

section
variable {ctx : Context} {builder : Builder} {chunk : Chunk} {cwd : Path}
variable {classOf : String → List String} {compiled : Set String} {w : World}

-- ---------------------------------------------------------------------------
-- One round
-- ---------------------------------------------------------------------------

/-- The sources of a faithful round are Groovy sources, spelled as paths are. -/
theorem Faithful.source {run : RoundRun} (h : Faithful ctx builder chunk classOf run)
    {source : String} (hm : source ∈ roundSources ctx builder run.dirty) :
    (Path.ofString source).toString = source ∧ '\\' ∉ source.toList ∧ isGroovy source ∧
      Path.ofString source ∉ ctx.project.excluded ∧
      ∃ target ∈ chunk.ids,
        ctx.project.owner? run.before.tempRoots (.ofString source) = some target := by
  obtain ⟨p, hp, rfl⟩ := exists_of_mem_pathsToCompile h.no_backslash hm
  rw [ofString_toString (h.valid p hp)]
  exact ⟨rfl, h.no_backslash p hp, isGroovy_of_mem_changedFiles hp, h.not_excluded p hp,
    h.owned p hp⟩

/-- What a job knows of its sources and outputs in a round of classes. -/
theorem outputs_of_job {dirty : DirtyFiles} {files : List Path}
    {finals : OrderedMap TargetId String} {job : Job} {t u : World}
    (hrole : builder.role = .classes) (htemp : ctx.tempDirectory.Valid)
    (hsep : Separate chunk w.cwd)
    (hopen : openRound ctx builder chunk dirty (stated chunk w) =
      (.ok (.due files finals), u))
    (hprepare : prepare ctx builder chunk files finals u = (.ok job, t)) :
    pathsToCompile files = roundSources ctx builder dirty ∧
      (∀ target ∈ chunk.ids,
        finals.find? target = some (spellFolder (outputPlace w.cwd target))) ∧
      job.generationOutputs = finals ∧
      job.compilerOutput = spellFolder (outputPlace w.cwd chunk.representative.toTargetId) := by
  obtain ⟨rfl, -, hfinals⟩ := due_of_openRound hopen
  have houtputs (target : TargetId) (ht : target ∈ chunk.ids) :
      finals.find? target = some (spellFolder (outputPlace w.cwd target)) :=
    finalOutputs_cases (w := stated chunk w) hsep hfinals ht
  obtain ⟨_, _, _, -, hgenerated, hcompiler, -⟩ := prepare_cases htemp hprepare
  rw [hrole] at hgenerated
  cases hgenerated
  refine ⟨rfl, houtputs, rfl, ?_⟩
  rw [houtputs _ List.mem_cons_self] at hcompiler
  exact (Option.some.inj hcompiler).symm

/-- A round that is done was done before it was closed. -/
theorem ended_of_isDone {run : RoundRun} {argumentFile? : Option Path}
    {ended : Except Failure Verdict} {t : World} (hdone : run.IsDone)
    (hclose : closeRound builder chunk argumentFile?
      (ended.mapError (roundFailure builder chunk)) t = (run.result, run.after)) :
    ended = .ok .ok ∨ ended = .ok .additionalPassRequired := by
  have hcases (verdict : Verdict) (hresult : run.result = .ok verdict) : ended = .ok verdict := by
    rw [hresult] at hclose
    have hmap := closeRound_cases hclose
    cases ended with
    | ok ended => exact hmap
    | error failure => cases hmap
  exact hdone.imp (hcases _) (hcases _)

/-- A round that was done is still done when it is closed, if its argument file could be removed. -/
theorem isDone_of_ended {run : RoundRun} {argumentFile? : Option Path}
    {ended : Except Failure Verdict} {name : String} {t : World} (hname : chunk.name = .ok name)
    (htidy : run.IsTidy) (hended : ended = .ok .ok ∨ ended = .ok .additionalPassRequired)
    (hclose : closeRound builder chunk argumentFile?
      (ended.mapError (roundFailure builder chunk)) t = (run.result, run.after)) :
    run.IsDone := by
  have hcases (verdict : Verdict) (hverdict : ended = .ok verdict) : run.result = .ok verdict := by
    subst hverdict
    rcases closeRound_of_ok hname hclose with hresult | ⟨fault, hfault⟩
    · exact hresult
    · exact absurd hfault (htidy fault)
  exact hended.imp (hcases _) (hcases _)

/-- A round that leaves the index alone keeps it exact if it is not done with any source. -/
theorem indexed_of_not_done {run : RoundRun} (hindex : run.after.index = run.before.index)
    (hnone : ∀ source, ¬ (run.IsDone ∧ source ∈ roundSources ctx builder run.dirty))
    (hindexed : Indexed chunk cwd classOf run.before.index compiled) :
    Indexed chunk cwd classOf run.after.index
      (compiled ∪ {source | run.IsDone ∧ source ∈ roundSources ctx builder run.dirty}) := by
  have hset : {source | run.IsDone ∧ source ∈ roundSources ctx builder run.dirty} = ∅ :=
    Set.eq_empty_iff_forall_notMem.mpr hnone
  rw [hset, Set.union_empty, hindex]
  exact hindexed

/-- A faithful round keeps the index exact: it registers all its sources if it is done, and none
if it is not. -/
theorem indexed_round {run : RoundRun} (hrole : builder.role = .classes)
    (htemp : ctx.tempDirectory.Valid) (hsep : Separate chunk cwd)
    (hcwd : run.before.cwd = cwd)
    (hround : round ctx builder chunk run.dirty run.before = (run.result, run.after))
    (hclass : ∀ source ∈ roundSources ctx builder run.dirty, IsQualified (classOf source))
    (hinj : Set.InjOn classOf {source | source ∈ roundSources ctx builder run.dirty})
    (hfaithful : Faithful ctx builder chunk classOf run)
    (hmoved : AllMoved builder.name run.before run.after)
    (hfree : PlacesFree ctx builder chunk cwd classOf run) (htidy : run.IsTidy)
    (hindexed : Indexed chunk cwd classOf run.before.index compiled) :
    Indexed chunk cwd classOf run.after.index
      (compiled ∪ {source | run.IsDone ∧ source ∈ roundSources ctx builder run.dirty}) := by
  rcases round_parts hround with ⟨hidle, hends⟩ | ⟨files, finals, u, job, s, ended, t, hopen,
    hprepare, hjob, hclose⟩
  · refine indexed_of_not_done hidle.index ?_ hindexed
    rintro source ⟨hdone | hdone, hm⟩
    · exact (hends _ hdone).1 rfl
    · rw [roundSources, (hends _ hdone).2.resolve_left nofun] at hm
      cases hm
  · have hopened : Idle run.before u := (idle_stated chunk run.before).trans
      ((Quiet.keeps_idle (quiet_openRound _ _ _ _)).of_eq hopen)
    have hprepared : Idle u s := (Quiet.keeps_idle (quiet_prepare _ _ _ _ _)).of_eq hprepare
    have hclosed : Idle t run.after := (idle_closeRound _ _ _ _).of_eq hclose
    have hbefore := (hopened.trans hprepared).toUnregistered
    have hlost (hframe : Unregistered s t) (hended : ended ≠ .ok .ok)
        (hended' : ended ≠ .ok .additionalPassRequired) :
        Indexed chunk cwd classOf run.after.index
          (compiled ∪ {source | run.IsDone ∧ source ∈ roundSources ctx builder run.dirty}) := by
      refine indexed_of_not_done ((hbefore.trans hframe).trans hclosed.toUnregistered).index ?_
        hindexed
      rintro source ⟨hdone, -⟩
      exact (ended_of_isDone hdone hclose).elim hended hended'
    unfold runJob at hjob
    cases hcompile : compileJob ctx builder chunk job s with
    | mk compiledJob mid =>
      have hmid := (unregistered_compileJob hcompile).1
      cases compiledJob with
      | error failure =>
        rw [run_bind_of_error hcompile] at hjob
        cases hjob
        exact hlost hmid nofun nofun
      | ok reported =>
        rw [run_bind_of_ok hcompile] at hjob
        have hstart := hbefore.trans hmid
        have hends : { job, reported, world := mid } ∈
            compilation? ctx builder chunk run.dirty run.before := by
          simp only [compilation?, hopen, hprepare, hcompile, Option.mem_some]
        subst hcwd
        obtain ⟨-, houtputs, hgenerated, houtput⟩ :=
          outputs_of_job hrole htemp hsep hopen hprepare
        have hsettled := indexed_settleJob hrole hsep
          (fun target ht => hgenerated ▸ houtputs target ht) houtput
          (nodup_pathsToCompile _) hclass hinj
          (fun source hm => ⟨(hfaithful.source hm).1, (hfaithful.source hm).2.1⟩)
          (fun source hm => hstart.tempRoots ▸ (hfaithful.source hm).2.2.2.2)
          (hfaithful.makes _ hends)
          (fun source hm target howner =>
            hfree _ hends source hm target (hstart.tempRoots ▸ howner))
          (hstart.index ▸ hindexed) hjob
          (hmoved.within hstart.messages hclosed.messages)
        rcases hsettled with ⟨hframe, hended, hended'⟩ | ⟨hknown, ⟨name, hchunk⟩, hverdict⟩
        · exact hlost (hmid.trans hframe) hended hended'
        · have hdone : run.IsDone := isDone_of_ended hchunk htidy hverdict hclose
          have hset : {source | run.IsDone ∧ source ∈ roundSources ctx builder run.dirty} =
              {source | source ∈ roundSources ctx builder run.dirty} := by
            simp only [hdone, true_and]
          rw [hset, hclosed.index]
          exact hknown

-- ---------------------------------------------------------------------------
-- Rounds one after another
-- ---------------------------------------------------------------------------

/-- A history goes on with the next round. -/
theorem History.run {runs : List RoundRun} (earlier : History ctx builder chunk cwd runs w.index)
    (hcwd : w.cwd = cwd) (dirty : DirtyFiles) :
    History ctx builder chunk cwd (runs ++ [roundRun ctx builder chunk dirty w])
      (roundRun ctx builder chunk dirty w).after.index :=
  .next earlier rfl hcwd rfl

/-- Every round of a history follows the history of the rounds before it. -/
theorem History.before {earlier later : List RoundRun} {run : RoundRun} {index : SourceIndex}
    (history : History ctx builder chunk cwd (earlier ++ run :: later) index) :
    History ctx builder chunk cwd earlier run.before.index ∧ run.before.cwd = cwd ∧
      round ctx builder chunk run.dirty run.before = (run.result, run.after) := by
  generalize hruns : earlier ++ run :: later = runs at history
  induction history generalizing later with
  | start => exact absurd hruns (by simp)
  | next history hindex hcwd hround ih =>
    rcases List.eq_nil_or_concat later with rfl | ⟨front, last, rfl⟩
    · obtain ⟨rfl, hrun⟩ := List.append_inj' hruns rfl
      cases hrun
      exact ⟨hindex ▸ history, hcwd, hround⟩
    · rw [List.concat_eq_append, ← List.cons_append, ← List.append_assoc] at hruns
      exact ih (List.append_inj_left' hruns rfl)

/-- The index of a faithful history is exact: it knows the sources of the rounds that were done. -/
theorem indexed_history {runs : List RoundRun} {index : SourceIndex}
    (hrole : builder.role = .classes) (htemp : ctx.tempDirectory.Valid)
    (hsep : Separate chunk cwd) (history : History ctx builder chunk cwd runs index)
    (hclass : ∀ run ∈ runs, ∀ source ∈ roundSources ctx builder run.dirty,
      IsQualified (classOf source))
    (hinj : Set.InjOn classOf
      {source | ∃ run ∈ runs, source ∈ roundSources ctx builder run.dirty})
    (hfaithful : ∀ run ∈ runs, Faithful ctx builder chunk classOf run)
    (hmoved : ∀ run ∈ runs, AllMoved builder.name run.before run.after)
    (hfree : ∀ run ∈ runs, PlacesFree ctx builder chunk cwd classOf run)
    (htidy : ∀ run ∈ runs, run.IsTidy) :
    Indexed chunk cwd classOf index
      {source | ∃ run ∈ runs, run.IsDone ∧ source ∈ roundSources ctx builder run.dirty} := by
  induction history with
  | start => simpa using Indexed.empty chunk cwd classOf
  | @next runs _ run _ hindex hcwd hround ih =>
    have hlast : run ∈ runs ++ [run] := List.mem_append_right _ List.mem_cons_self
    have hknown := ih (fun run hm => hclass run (List.mem_append_left _ hm))
      (hinj.mono (by rintro _ ⟨r, hm, hsource⟩; exact ⟨r, List.mem_append_left _ hm, hsource⟩))
      (fun run hm => hfaithful run (List.mem_append_left _ hm))
      (fun run hm => hmoved run (List.mem_append_left _ hm))
      (fun run hm => hfree run (List.mem_append_left _ hm))
      (fun run hm => htidy run (List.mem_append_left _ hm))
    have hset : {source | ∃ r ∈ runs ++ [run],
          r.IsDone ∧ source ∈ roundSources ctx builder r.dirty} =
        {source | ∃ r ∈ runs, r.IsDone ∧ source ∈ roundSources ctx builder r.dirty} ∪
          {source | run.IsDone ∧ source ∈ roundSources ctx builder run.dirty} := by
      ext source
      simp [or_and_right, exists_or]
    rw [hset]
    exact indexed_round hrole htemp hsep hcwd hround (hclass run hlast)
      (hinj.mono (by intro _ hsource; exact ⟨run, hlast, hsource⟩)) (hfaithful run hlast)
      (hmoved run hlast) (hfree run hlast) (htidy run hlast) (hindex ▸ hknown)

/-- The argument file of a round names the classes of the sources that were compiled in an earlier
round and are left alone by this one, each with its source, and nothing else. -/
theorem classToSource_of_history {runs earlier later : List RoundRun} {run : RoundRun}
    {index : SourceIndex} (hrole : builder.role = .classes) (htemp : ctx.tempDirectory.Valid)
    (hsep : Separate chunk cwd) (history : History ctx builder chunk cwd runs index)
    (hclass : ∀ run ∈ runs, ∀ source ∈ roundSources ctx builder run.dirty,
      IsQualified (classOf source))
    (hinj : Set.InjOn classOf
      {source | ∃ run ∈ runs, source ∈ roundSources ctx builder run.dirty})
    (hfaithful : ∀ run ∈ runs, Faithful ctx builder chunk classOf run)
    (hmoved : ∀ run ∈ runs, AllMoved builder.name run.before run.after)
    (hfree : ∀ run ∈ runs, PlacesFree ctx builder chunk cwd classOf run)
    (htidy : ∀ run ∈ runs, run.IsTidy)
    (hrun : runs = earlier ++ run :: later) :
    run.after.calls = run.before.calls ∧
        (run.IsDone → roundSources ctx builder run.dirty = []) ∨
      TellsClasses classOf (roundSources ctx builder run.dirty)
        {source | ∃ r ∈ earlier, r.IsDone ∧ source ∈ roundSources ctx builder r.dirty}
        run.before run.after := by
  subst hrun
  obtain ⟨hbefore, hcwd, hround⟩ := history.before
  have hearlier {r : RoundRun} (hm : r ∈ earlier) : r ∈ earlier ++ run :: later :=
    List.mem_append_left _ hm
  have hindexed := indexed_history hrole htemp hsep hbefore (fun r hm => hclass r (hearlier hm))
    (hinj.mono (by rintro _ ⟨r, hm, hsource⟩; exact ⟨r, hearlier hm, hsource⟩))
    (fun r hm => hfaithful r (hearlier hm)) (fun r hm => hmoved r (hearlier hm))
    (fun r hm => hfree r (hearlier hm)) (fun r hm => htidy r (hearlier hm))
  subst hcwd
  rcases calls_round hround with ⟨hsame, hempty⟩ | ⟨files, finals, u, job, s, call, hopen,
    hprepare, hcalls, hcontent⟩
  · exact .inl ⟨hsame, fun hdone => by rw [roundSources, hempty hdone]; rfl⟩
  · right
    obtain ⟨hpaths, houtputs, -⟩ := outputs_of_job hrole htemp hsep hopen hprepare
    have hindex : u.index = run.before.index := ((idle_stated chunk run.before).trans
      ((Quiet.keeps_idle (quiet_openRound _ _ _ _)).of_eq hopen)).index
    obtain ⟨classes, _, file, hmap, -, -, -, hfile, -, hsources, hpairs⟩ :=
      prepare_cases htemp hprepare
    rw [hindex] at hmap
    have hknown : ∀ source ∈ {source | ∃ r ∈ earlier,
        r.IsDone ∧ source ∈ roundSources ctx builder r.dirty},
        ∃ r ∈ earlier, source ∈ roundSources ctx builder r.dirty :=
      fun source ⟨r, hm, _, hsource⟩ => ⟨r, hm, hsource⟩
    have hsource (source : String) (hm : ∃ r ∈ earlier, source ∈ roundSources ctx builder r.dirty) :
        isGroovy source ∧ Path.ofString source ∉ ctx.project.excluded := by
      obtain ⟨r, hr, hsource⟩ := hm
      obtain ⟨-, -, hgroovy, hexcluded, -⟩ := (hfaithful r (hearlier hr)).source hsource
      exact ⟨hgroovy, hexcluded⟩
    obtain ⟨hnodup, hmem⟩ := mem_classMap hindexed
      (fun source hm => by
        obtain ⟨r, hr, hsource⟩ := hknown source hm
        exact hclass r (hearlier hr) source hsource)
      (hinj.mono (by
        intro source hm
        obtain ⟨r, hr, hsource⟩ := hknown source hm
        exact ⟨r, hearlier hr, hsource⟩))
      (fun source hm => (hsource source (hknown source hm)).1)
      (fun source hm => (hsource source (hknown source hm)).2) houtputs hmap
    refine ⟨call, file, hcalls, hcontent.trans hfile, hsources.trans hpaths, ?_, ?_⟩
    · rw [hpairs]
      exact hnodup
    · intro name source
      rw [hpairs, ← hpaths]
      exact hmem name source

end

-- ---------------------------------------------------------------------------
-- Two modules
-- ---------------------------------------------------------------------------

/-- A module with a source root and an output directory of its own. -/
def moduleTarget (name : String) : Target where
  name := .text name
  output := some { anchor := .root, names := ["out", name] }
  kind := .production
  sdk := none

def pairChunk : Chunk where
  representative := moduleTarget "core"
  others := [moduleTarget "app"]

def pairSource (name stem : String) : TargetId × Path :=
  ((moduleTarget name).toTargetId, { anchor := .root, names := ["src", name, stem ++ ".groovy"] })

/-- The source `A` of one module is compiled to `pkg.A`, and `B` of the other to `pkg.B`. -/
def pairClass (source : String) : List String :=
  if source = "/src/core/A.groovy" then ["pkg", "A"] else ["pkg", "B"]

/-- The class of a source is written and reported. -/
def makeClass (name stem : String) : List CompilerAction :=
  [.write { anchor := .root, names := ["out", "core", "pkg", stem ++ ".class"] }
      (ClassFile.least ("pkg." ++ stem)),
    .emit CompilerOutput.outputStream ("%%compiled\t/out/core/pkg/" ++ stem ++
      ".class\t/src/" ++ name ++ "/" ++ stem ++ ".groovy\n")]

/-- The two modules, with a compiler that does these things in its runs. -/
def pairContext (runs : List (CompilerCall → List CompilerAction)) : Context where
  project := {
    dataRoot := { anchor := .root, names := ["data"] }
    sourceRoots := ⟨["core", "app"].map fun name =>
      ((moduleTarget name).toTargetId, [{ anchor := .root, names := ["src", name] }])⟩ }
  tempDirectory := { anchor := .root, names := ["tmp"] }
  searchPath := none
  runner _ _ := .callable
  compiler calls call _ := {
    actions := (runs.getD calls.length fun _ => []) call
    ending := .returned .null }

def classBuilder : Builder where
  role := .classes
  settings := { runtimeSupport := { anchor := .root, names := ["groovy.jar"] } }
  launch plan _ _ := .ok (.inProcess plan.fullClasspath plan.outputs)

def rootDirectory : Path where
  anchor := .root
  names := []

/-- The sources of the two modules, and these directories. -/
def pairWorld (directories : List Location) : World where
  files := {
    nodes := directories.map (·, .directory) ++
      [(["tmp"], .directory), (["src"], .directory), (["src", "core"], .directory),
        (["src", "core", "A.groovy"], .file [] false), (["src", "app"], .directory),
        (["src", "app", "B.groovy"], .file [] false)]
    cwd := [] }

/-- Both sources are compiled, and then one of them again. -/
def pairAgain : Context :=
  pairContext [fun _ => makeClass "core" "A" ++ makeClass "app" "B", fun _ => makeClass "core" "A"]

def bothRound : RoundRun :=
  roundRun pairAgain classBuilder pairChunk [pairSource "core" "A", pairSource "app" "B"]
    (pairWorld [])

def againRound : RoundRun :=
  roundRun pairAgain classBuilder pairChunk [pairSource "core" "A"] bothRound.after

theorem classToSource_of_history_again :
    ∃ index, History pairAgain classBuilder pairChunk rootDirectory [bothRound, againRound] index ∧
      Separate pairChunk rootDirectory ∧
      (∀ run ∈ [bothRound, againRound],
        Faithful pairAgain classBuilder pairChunk pairClass run ∧
          AllMoved classBuilder.name run.before run.after ∧
          PlacesFree pairAgain classBuilder pairChunk rootDirectory pairClass run ∧
          run.IsTidy) ∧
      (againRound.after.calls = againRound.before.calls ∧
          (againRound.IsDone → roundSources pairAgain classBuilder againRound.dirty = []) ∨
        TellsClasses pairClass (roundSources pairAgain classBuilder againRound.dirty)
          {source | ∃ r ∈ [bothRound],
            r.IsDone ∧ source ∈ roundSources pairAgain classBuilder r.dirty}
          againRound.before againRound.after) := by
  obtain ⟨hsep, hcwd, hfacts⟩ : Separate pairChunk rootDirectory ∧
      bothRound.after.cwd = rootDirectory ∧ ∀ run ∈ [bothRound, againRound],
        Faithful pairAgain classBuilder pairChunk pairClass run ∧ run.after.messages = [] ∧
          PlacesFree pairAgain classBuilder pairChunk rootDirectory pairClass run ∧
          run.result.toOption = some .ok ∧
          ∀ source ∈ roundSources pairAgain classBuilder run.dirty,
            IsQualified (pairClass source) ∧
              source ∈ ["/src/core/A.groovy", "/src/app/B.groovy"] := by
    decide +kernel
  have hhistory : History pairAgain classBuilder pairChunk rootDirectory
      [bothRound, againRound] againRound.after.index :=
    History.run (History.run (w := pairWorld []) .start rfl _) hcwd _
  have hmoved : ∀ run ∈ [bothRound, againRound],
      AllMoved classBuilder.name run.before run.after := by
    intro run hm item owner fault
    rw [(hfacts run hm).2.1, List.drop_nil]
    exact List.not_mem_nil
  have htidy : ∀ run ∈ [bothRound, againRound], run.IsTidy := by
    intro run hm fault hfault
    have hok := (hfacts run hm).2.2.2.1
    rw [hfault] at hok
    cases hok
  have hinj : ∀ source ∈ ["/src/core/A.groovy", "/src/app/B.groovy"],
      ∀ other ∈ ["/src/core/A.groovy", "/src/app/B.groovy"],
        pairClass source = pairClass other → source = other := by
    decide
  refine ⟨_, hhistory, hsep, fun run hm => ⟨(hfacts run hm).1, hmoved run hm,
    (hfacts run hm).2.2.1, htidy run hm⟩, ?_⟩
  have hruns : [bothRound, againRound] = [bothRound] ++ againRound :: [] := rfl
  refine classToSource_of_history rfl (by decide) hsep hhistory
    (fun run hm source hsource => ((hfacts run hm).2.2.2.2 source hsource).1) ?_
    (fun run hm => (hfacts run hm).1) hmoved (fun run hm => (hfacts run hm).2.2.1) htidy hruns
  rintro source ⟨run, hm, hsource⟩ other ⟨run', hm', hother⟩
  exact hinj source ((hfacts run hm).2.2.2.2 source hsource).2 other
    ((hfacts run' hm').2.2.2.2 other hother).2

-- ---------------------------------------------------------------------------
-- Rounds that are hindered
-- ---------------------------------------------------------------------------

/-- The compiler was told the classes in these lines. -/
theorem TellsClasses.linesBefore {classOf : String → List String} {sources : List String}
    {compiled : Set String} {before after : World} {text : String}
    (h : TellsClasses classOf sources compiled before after)
    (htext : (after.calls.drop before.calls.length).map (·.argumentFile) =
      [some (Text.Utf8.encodeText text)]) :
    ∃ file : ArgumentFile, ArgumentFile.written file.linesBefore <+: text.toList ∧
      file.sources = sources ∧ ∀ name source, (name, source) ∈ file.classToSource ↔
        source ∈ compiled ∧ source ∉ sources ∧ name = dottedName (classOf source) := by
  obtain ⟨call, file, hcalls, hfile, hsources, -, hpairs⟩ := h
  rw [hcalls, List.drop_left, List.map_singleton, hfile, List.singleton_inj,
    Option.some_inj] at htext
  refine ⟨file, ?_, hsources, hpairs⟩
  rw [← Text.Utf8.encodeText_inj htext, ArgumentFile.toList_content, ArgumentFile.lines]
  simp only [List.append_assoc, ArgumentFile.written_append]
  exact List.prefix_append _ _

/-- The first compiler puts a directory in the place of its argument file. -/
def pairHindered : Context :=
  pairContext [
    fun call => makeClass "core" "A" ++
      [.remove (.ofString (call.parameters.getD 2 "")),
        .write (.ofString (call.parameters.getD 2 "" ++ "/part")) []],
    fun _ => makeClass "app" "B",
    fun _ => makeClass "core" "A"]

/-- The round fails when its class was registered. -/
def untidyRound : RoundRun :=
  roundRun pairHindered classBuilder pairChunk [pairSource "core" "A"]
    (pairWorld [["out"], ["out", "app"], ["out", "app", "pkg"], ["out", "app", "pkg", "B.class"]])

/-- The class is moved into a directory of its name, and is not registered. -/
def blockedRound : RoundRun :=
  roundRun pairHindered classBuilder pairChunk [pairSource "app" "B"] untidyRound.after

def afterRound : RoundRun :=
  roundRun pairHindered classBuilder pairChunk [pairSource "core" "A"] blockedRound.after

/-- The argument file of the round over `B` names `A`, which only the round that failed made. -/
def blockedText : String :=
  "src_file\n/src/app/B.groovy\nend\nclass2src\npkg.A\n/src/core/A.groovy\nend\n" ++
    "outputpath\n/out/core/\nfinaloutputs\n/out/core/\n/out/app/\nend\n"

/-- The argument file of the round after it does not name `B`. -/
def afterText : String :=
  "src_file\n/src/core/A.groovy\nend\nclass2src\nend\n" ++
    "outputpath\n/out/core/\nfinaloutputs\n/out/core/\n/out/app/\nend\n"

/-- The compiler is told a class of a round that failed, and is not told one of a round that was
done. -/
theorem not_tellsClasses_of_hindered :
    ∃ index, History pairHindered classBuilder pairChunk rootDirectory
        [untidyRound, blockedRound, afterRound] index ∧
      Separate pairChunk rootDirectory ∧
      (∀ run ∈ [untidyRound, blockedRound, afterRound],
        Faithful pairHindered classBuilder pairChunk pairClass run ∧
          AllMoved classBuilder.name run.before run.after) ∧
      blockedRound.IsDone ∧ afterRound.IsDone ∧
      ¬ TellsClasses pairClass (roundSources pairHindered classBuilder blockedRound.dirty)
          {source | ∃ r ∈ [untidyRound],
            r.IsDone ∧ source ∈ roundSources pairHindered classBuilder r.dirty}
          blockedRound.before blockedRound.after ∧
      ¬ TellsClasses pairClass (roundSources pairHindered classBuilder afterRound.dirty)
          {source | ∃ r ∈ [untidyRound, blockedRound],
            r.IsDone ∧ source ∈ roundSources pairHindered classBuilder r.dirty}
          afterRound.before afterRound.after := by
  obtain ⟨hsep, hcwd, hcwd', hlooks, hundone, hdone, hdone', hblocked, hafter, htext, htext'⟩ :
      Separate pairChunk rootDirectory ∧ untidyRound.after.cwd = rootDirectory ∧
      blockedRound.after.cwd = rootDirectory ∧
      (∀ run ∈ [untidyRound, blockedRound, afterRound],
        Faithful pairHindered classBuilder pairChunk pairClass run ∧
          ∀ message ∈ run.after.messages,
            ¬ Text.Utf8.encodeText "Cannot move" <+: Text.Utf8.encodeText message.text) ∧
      untidyRound.result.toOption = none ∧ blockedRound.result.toOption = some .ok ∧
      afterRound.result.toOption = some .ok ∧
      roundSources pairHindered classBuilder blockedRound.dirty = ["/src/app/B.groovy"] ∧
      roundSources pairHindered classBuilder afterRound.dirty = ["/src/core/A.groovy"] ∧
      (blockedRound.after.calls.drop blockedRound.before.calls.length).map (·.argumentFile) =
        [some (Text.Utf8.encodeText blockedText)] ∧
      (afterRound.after.calls.drop afterRound.before.calls.length).map (·.argumentFile) =
        [some (Text.Utf8.encodeText afterText)] := by
    decide +kernel
  have hhistory : History pairHindered classBuilder pairChunk rootDirectory
      [untidyRound, blockedRound, afterRound] afterRound.after.index :=
    History.run (History.run (History.run (w := untidyRound.before) .start rfl _) hcwd _) hcwd' _
  have hdone_of {run : RoundRun} (h : run.result.toOption = some .ok) : run.IsDone := by
    cases hresult : run.result with
    | error failure =>
      rw [hresult] at h
      cases h
    | ok verdict =>
      rw [hresult] at h
      cases h
      exact .inl hresult
  have huntidy : ¬ untidyRound.IsDone := by
    rintro (hresult | hresult) <;> rw [hresult] at hundone <;> cases hundone
  refine ⟨_, hhistory, hsep, fun run hm => ⟨(hlooks run hm).1, allMoved_of_texts (hlooks run hm).2⟩,
    hdone_of hdone, hdone_of hdone', fun htells => ?_, fun htells => ?_⟩
  · obtain ⟨file, hwritten, hsources, hpairs⟩ := htells.linesBefore htext
    have hnone : file.classToSource = [] := by
      refine List.eq_nil_iff_forall_not_mem.mpr fun (name, source) hm => ?_
      obtain ⟨⟨r, hr, hrdone, -⟩, -⟩ := (hpairs name source).mp hm
      rw [List.mem_singleton.mp hr] at hrdone
      exact huntidy hrdone
    rw [ArgumentFile.linesBefore, ArgumentFile.sourceLines, ArgumentFile.classLines, hnone,
      hsources, hblocked] at hwritten
    revert hwritten
    decide +kernel
  · obtain ⟨file, hwritten, hsources, hpairs⟩ := htells.linesBefore htext'
    have hmade : ("pkg.B", "/src/app/B.groovy") ∈ file.classToSource := by
      refine (hpairs _ _).mpr ⟨⟨blockedRound, by simp, hdone_of hdone, ?_⟩, ?_, by decide⟩
      · rw [hblocked]
        exact List.mem_singleton_self _
      · rw [hafter]
        decide
    have honly : ∀ pair ∈ file.classToSource, pair = ("pkg.B", "/src/app/B.groovy") := by
      rintro ⟨name, source⟩ hm
      obtain ⟨⟨r, hr, hrdone, hsource⟩, -, rfl⟩ := (hpairs name source).mp hm
      rcases List.mem_pair.mp hr with rfl | rfl
      · exact absurd hrdone huntidy
      · rw [hblocked, List.mem_singleton] at hsource
        subst hsource
        decide
    obtain ⟨pair, rest, hsplit⟩ := List.exists_cons_of_ne_nil (List.ne_nil_of_mem hmade)
    have hfirst := honly pair (hsplit ▸ List.mem_cons_self)
    have hlines : file.linesBefore = ["src_file", "/src/core/A.groovy", "end", "class2src",
        "pkg.B"] ++ (["/src/app/B.groovy"] ++ { file with classToSource := rest }.classLines ++
          ["end"]) := by
      simp [ArgumentFile.linesBefore, ArgumentFile.sourceLines, ArgumentFile.classLines, hsplit,
        hfirst, hsources, hafter, ArgumentFile.sourceMark, ArgumentFile.endMark]
    rw [hlines, ArgumentFile.written_append] at hwritten
    have hfront := (List.prefix_append _ _).trans hwritten
    revert hfront
    decide +kernel

end Build

end GroovyRounds
