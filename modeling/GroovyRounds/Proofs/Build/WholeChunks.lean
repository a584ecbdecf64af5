import GroovyRounds.Compiler.Script
import GroovyRounds.Proofs.Build.DeliveredRounds
import GroovyRounds.Proofs.Build.Owners
import GroovyRounds.Proofs.Build.Rebuilds
import GroovyRounds.Proofs.Build.StubRounds

/-!
# Chunks that are built in one pass

Where nothing is in the way of the directories of a chunk, and the compiler makes
one file of every source, one round of stubs and one of classes build the chunk:
every class comes to the module that owns its source, and is registered there
(`buildChunk_delivers`).
-/

namespace GroovyRounds

open FileSystem Path Program

namespace Build

variable {ctx : Context} {stubs classes builder : Builder} {chunk : Chunk} {cwd : Path}
variable {data temp : Location} {dirty : DirtyFiles} {source : TargetId × Path} {u v w : World}

-- ---------------------------------------------------------------------------
-- One pass
-- ---------------------------------------------------------------------------

/-- A round that came to a verdict is recorded. -/
theorem run_recordedRound {rounds : Rounds} {role : Role} {verdict : Verdict}
    (h : rounds.run role chunk dirty (noted [.started role dirty w.tracker] w) =
      (.ok verdict, u)) :
    recordedRound rounds role chunk dirty w = (.ok verdict,
      noted [.ended role verdict u.tracker (u.outputs.drop w.outputs.length)] u) := by
  simp only [recordedRound, run_bind, run_get, run_record, h, run_pure]

/-- A chunk is built in one pass if both of its rounds go well. -/
theorem run_buildChunk_of_rounds {first second : Verdict}
    (hsources : chunkSources ctx chunk w = (.ok dirty, w))
    (hstubs : round ctx stubs chunk dirty (noted [.started .stubs dirty (begun dirty w).tracker]
      (begun dirty w)) = (.ok first, u))
    (hfirst : first = .ok ∨ first = .nothingDone)
    (hclasses : round ctx classes chunk dirty (noted [.started .classes dirty u.tracker]
      (noted [.ended .stubs first u.tracker (u.outputs.drop w.outputs.length)] u)) =
        (.ok second, v))
    (hsecond : second = .ok ∨ second = .nothingDone) :
    buildChunk ctx (.ofBuilders ctx stubs classes) chunk w = (.ok true,
      finished chunk w.tracker.forced
        (noted [.ended .classes second v.tracker (v.outputs.drop u.outputs.length)] v)) := by
  have hpass : pass (.ofBuilders ctx stubs classes) chunk dirty w = (.ok second,
      noted [.ended .classes second v.tracker (v.outputs.drop u.outputs.length)] v) := by
    have hbegun : modifyTracker (·.setCurrent (dirty.map (·.2))) w = (.ok (), begun dirty w) := rfl
    have hrecorded : recordedRound (.ofBuilders ctx stubs classes) .stubs chunk dirty
        (begun dirty w) = (.ok first, noted
          [.ended .stubs first u.tracker (u.outputs.drop w.outputs.length)] u) :=
      run_recordedRound hstubs
    have hrecorded' : recordedRound (.ofBuilders ctx stubs classes) .classes chunk dirty (noted
        [.ended .stubs first u.tracker (u.outputs.drop w.outputs.length)] u) = (.ok second, noted
          [.ended .classes second v.tracker (v.outputs.drop u.outputs.length)] v) :=
      run_recordedRound hclasses
    rw [pass, run_bind_of_ok hbegun, run_bind_of_ok hrecorded]
    rcases hfirst with rfl | rfl <;> exact hrecorded'
  have hpasses : passes (.ofBuilders ctx stubs classes) chunk dirty maxRounds false dirty w =
      (.ok true, noted [.ended .classes second v.tracker (v.outputs.drop u.outputs.length)] v) := by
    rw [show maxRounds = 9 + 1 from rfl, passes, run_bind_of_ok hpass]
    rcases hsecond with rfl | rfl <;> rfl
  rw [run_buildChunk hsources]
  simp only [hpasses]

-- ---------------------------------------------------------------------------
-- Sources and their owners
-- ---------------------------------------------------------------------------

/-- All source roots can be looked at, no two targets share what lies below one, and every source
found is to be compiled. -/
structure Sourced (ctx : Context) (chunk : Chunk) (files : FileSystem) : Prop where
  look : ∀ target ∈ chunk.ids, ∀ root ∈ ctx.project.roots target,
    ∃ found, files.probe root = .ok found
  apart : ctx.project.RootsApart
  spell : Spellable ((chunkFiles ctx chunk files).map (·.2))
  compiled : ∀ source ∈ chunkFiles ctx chunk files, source.2 ∉ ctx.project.resources

/-- A builder whose compiler makes a file of every dirty source that its rounds compile, at a place
that the system takes. -/
structure Delivers (ctx : Context) (builder : Builder) (chunk : Chunk) (cwd : Path)
    (content : Path → List UInt8) (dirty : DirtyFiles) : Prop where
  starts : builder.Starts ctx chunk
  makes : ctx.Makes builder.role
    (builder.role.place ctx.project cwd chunk.representative.toTargetId)
    (changedFiles ctx.project builder.settings builder.role dirty) content
  admissible : ∀ target ∈ chunk.ids, ∀ source ∈ dirty, Admissible
    (builder.role.place ctx.project cwd target ++ builder.role.fileNames source.2)

/-- The target that owns a source. -/
def ownerOf (ctx : Context) (chunk : Chunk) (p : Path) : TargetId :=
  (ctx.project.owner? .empty p).getD chunk.representative.toTargetId

theorem exists_of_mem_changedFiles {p : Path}
    (h : p ∈ changedFiles ctx.project builder.settings builder.role dirty) :
    ∃ source ∈ dirty, source.2 = p :=
  List.mem_map.mp (List.mem_filter.mp (List.mem_eraseDups.mp h)).1

/-- All source roots can be looked at, no two targets share what lies below one, and what is found
can be spelled. -/
structure Found (ctx : Context) (chunk : Chunk) (files : FileSystem) : Prop where
  look : ∀ target ∈ chunk.ids, ∀ root ∈ ctx.project.roots target,
    ∃ found, files.probe root = .ok found
  apart : ctx.project.RootsApart
  spell : Spellable ((chunkFiles ctx chunk files).map (·.2))

theorem Sourced.found {files : FileSystem} (h : Sourced ctx chunk files) : Found ctx chunk files :=
  { h with }

theorem Found.ownerOf_eq (h : Found ctx chunk w.files)
    (hsource : source ∈ chunkFiles ctx chunk w.files) : ownerOf ctx chunk source.2 = source.1 := by
  obtain ⟨-, -, howner⟩ := mem_chunkFiles h.look h.apart hsource
  rw [ownerOf, howner .empty, Option.getD_some]

/-- A builder whose compiler makes the files of a chunk's sources can compile them. -/
theorem Found.compilable {content : Path → List UInt8} {orders : List Path → Prop}
    {sources : List Path} (h : Found ctx chunk w.files)
    (hsources : changedFiles ctx.project builder.settings builder.role
      (chunkFiles ctx chunk w.files) = sources)
    (hstarts : builder.StartsFrom ctx chunk cwd (argumentFiles temp))
    (hperm : ∀ order, orders order → order.Perm sources)
    (hmakes : ctx.MakesIn builder.role
      (builder.role.place ctx.project cwd chunk.representative.toTargetId) sources content orders)
    (hadmissible : ∀ target ∈ chunk.ids, ∀ source ∈ chunkFiles ctx chunk w.files, Admissible
      (builder.role.place ctx.project cwd target ++ builder.role.fileNames source.2))
    (hclass : builder.role = .classes → ∀ source ∈ chunkFiles ctx chunk w.files,
      ClassFile.className (content source.2) = .ok ("pkg." ++ source.2.stem)) :
    Compilable ctx builder chunk cwd temp (ownerOf ctx chunk) content orders sources where
  starts := hstarts
  spell := h.spell.mono fun p hp => by
    obtain ⟨source, hsource, rfl⟩ := exists_of_mem_changedFiles (hsources ▸ hp)
    exact List.mem_map_of_mem hsource
  perm := hperm
  makes := hmakes
  admissible target ht p hp := by
    obtain ⟨source, hsource, rfl⟩ := exists_of_mem_changedFiles (hsources ▸ hp)
    exact hadmissible target ht source hsource
  owner_mem p hp := by
    obtain ⟨source, hsource, rfl⟩ := exists_of_mem_changedFiles (hsources ▸ hp)
    rw [h.ownerOf_eq hsource]
    exact (mem_chunkFiles h.look h.apart hsource).1
  owned p hp roots := by
    obtain ⟨source, hsource, rfl⟩ := exists_of_mem_changedFiles (hsources ▸ hp)
    rw [h.ownerOf_eq hsource]
    exact (mem_chunkFiles h.look h.apart hsource).2.2 roots
  class_name hrole p hp := by
    obtain ⟨source, hsource, rfl⟩ := exists_of_mem_changedFiles (hsources ▸ hp)
    exact ⟨_, hclass hrole source hsource⟩

section
variable {files : FileSystem} {content : Path → List UInt8} (hsourced : Sourced ctx chunk w.files)
include hsourced

theorem ownerOf_eq (h : source ∈ chunkFiles ctx chunk w.files) :
    ownerOf ctx chunk source.2 = source.1 :=
  hsourced.found.ownerOf_eq h

/-- A builder that delivers can compile the sources of a chunk. -/
theorem compilable (temp : Location)
    (h : Delivers ctx builder chunk cwd content (chunkFiles ctx chunk w.files))
    (hclass : builder.role = .classes → ∀ source ∈ chunkFiles ctx chunk w.files,
      ClassFile.className (content source.2) = .ok ("pkg." ++ source.2.stem)) :
    Compilable ctx builder chunk cwd temp (ownerOf ctx chunk) content
      (·.Perm (changedFiles ctx.project builder.settings builder.role
        (chunkFiles ctx chunk w.files)))
      (changedFiles ctx.project builder.settings builder.role (chunkFiles ctx chunk w.files)) :=
  hsourced.found.compilable rfl (h.starts.startsFrom cwd _) (fun _ => id) h.makes h.admissible
    hclass

/-- A round of classes compiles all sources, each once. -/
theorem changedFiles_chunkFiles (hrole : builder.role = .classes) :
    changedFiles ctx.project builder.settings builder.role (chunkFiles ctx chunk w.files) =
      ((chunkFiles ctx chunk w.files).map (·.2)).eraseDups := by
  rw [changedFiles_of_isGroovy fun source hsource =>
    ⟨(mem_chunkFiles hsourced.look hsourced.apart hsource).2.1, hsourced.compiled source hsource⟩]
  simp [hrole]

/-- The sources with their owners are the sources as they were found, each once. -/
theorem perm_owned : (((chunkFiles ctx chunk w.files).map (·.2)).eraseDups.map fun p =>
    (ownerOf ctx chunk p, p)).Perm (chunkFiles ctx chunk w.files).eraseDups := by
  have howned : (((chunkFiles ctx chunk w.files).map (·.2)).eraseDups.map fun p =>
      (ownerOf ctx chunk p, p)).Nodup :=
    (nodup_eraseDups ((chunkFiles ctx chunk w.files).map (·.2))).map
      fun p q heq => (Prod.mk.inj heq).2
  have hfound := nodup_eraseDups (chunkFiles ctx chunk w.files)
  refine (List.perm_ext_iff_of_nodup howned hfound).mpr fun source => ?_
  simp only [List.mem_map, List.mem_eraseDups]
  constructor
  · rintro ⟨_, ⟨found, hfound, rfl⟩, rfl⟩
    rw [ownerOf_eq hsourced hfound]
    exact hfound
  · intro hsource
    exact ⟨source.2, ⟨source, hsource, rfl⟩, by rw [ownerOf_eq hsourced hsource]⟩

end

-- ---------------------------------------------------------------------------
-- Whole chunks
-- ---------------------------------------------------------------------------

/-- The modules of a chunk, their directories and their sources are apart from each other, and
nothing of the chunk has been built. -/
structure Arranged (ctx : Context) (chunk : Chunk) (cwd : Path) (data temp : Location)
    (w : World) : Prop where
  orderly : Orderly ctx chunk cwd data temp
  roots : ctx.project.RootsApart
  spell : Spellable ((chunkFiles ctx chunk w.files).map (·.2))
  vacant : ∀ target ∈ chunk.ids, w.files.Vacant (outputPlace cwd target)
  fresh : w.session.state chunk = {}
  consumer : w.classes = .empty
  graph : w.graph = []

/-- A chunk was built in one pass of two rounds. The class of every source lies in the output
directory of its target, nothing is left of it in that of the representative, and each class is
registered once, under its target and with its name. -/
structure BuiltWhole (ctx : Context) (chunk : Chunk) (cwd : Path) (classOf : Path → List UInt8)
    (w v : World) : Prop where
  one_pass : ∃ first second : RoundRecord, first.role = .stubs ∧ second.role = .classes ∧
    first.dirty = chunkFiles ctx chunk w.files ∧ second.dirty = chunkFiles ctx chunk w.files ∧
    v.journal = w.journal ++ (first.entries ++ second.entries ++ [.finished])
  there : ∀ source ∈ chunkFiles ctx chunk w.files, v.files.HoldsFile
    (outputPlace cwd source.1 ++ ["pkg", source.2.stem ++ ".class"]) (classOf source.2)
  gone : ∀ source ∈ chunkFiles ctx chunk w.files, source.1 ≠ chunk.representative.toTargetId →
    v.files.node? (outputPlace cwd chunk.representative.toTargetId ++
      ["pkg", source.2.stem ++ ".class"]) = none
  registered : v.classes.elements.Perm ((chunkFiles ctx chunk w.files).eraseDups.map fun source =>
    (source.1, deliveredClass (outputPlace cwd) classOf source))
  associated : v.graph.Perm ((chunkFiles ctx chunk w.files).eraseDups.map fun source =>
    { output := (deliveredClass (outputPlace cwd) classOf source).output.toString
      source := source.2.toString, content := classOf source.2 })

/-- The two sources are compiled in rounds of both roles. -/
def pairDelivering : Context :=
  { pairContext [] with
    compiler := fun _ call _ =>
      { actions :=
          if call.parameters[1]? = some Role.stubs.mode then
            makeStub "core" "A" ++ makeStub "app" "B"
          else makeClass "core" "A" ++ makeClass "app" "B"
        ending := .returned .null } }

theorem starts_pairDelivering (hsettings : builder.settings = classBuilder.settings)
    (hlaunch : builder.launch = classBuilder.launch) :
    builder.Starts pairDelivering pairChunk where
  optimize count := by
    rw [hsettings]
    exact ⟨_, rfl⟩
  encoding _ := rfl
  launch plan files := by
    rw [hlaunch]
    exact ⟨_, rfl, fun _ => rfl⟩

theorem delivers_stubs_pair :
    Delivers pairDelivering stubBuilder pairChunk rootDirectory (fun _ => []) pairDirty where
  starts := starts_pairDelivering rfl rfl
  makes calls call files file hmode _ _ _ :=
    ⟨_, .refl _, (if_pos hmode).trans rfl, .inl rfl⟩
  admissible := by decide +kernel

theorem delivers_classes_pair : Delivers pairDelivering classBuilder pairChunk rootDirectory
    (fun p => ClassFile.least ("pkg." ++ p.stem)) pairDirty where
  starts := starts_pairDelivering rfl rfl
  makes calls call files file hmode _ _ _ := by
    have hother : call.parameters[1]? ≠ some Role.stubs.mode := by
      rw [hmode]
      decide
    exact ⟨_, .refl _, (if_neg hother).trans rfl, .inl rfl⟩
  admissible := by decide +kernel

/-- The compiler makes a file of every source that it is told. -/
def pairScripted : Context :=
  { pairContext [] with compiler := Script.compiler fun _ => [[.classes []]] }

/-- One of the two sources is a resource. -/
def pairResource : Context :=
  { pairScripted with
    project := { pairScripted.project with resources := [(pairSource "app" "B").2] } }

/-- A file stands where the output directories are to be made. -/
def blockedWorld : World :=
  { pairWorld [] with
    files := { (pairWorld []).files with
      nodes := (["out"], .file [] false) :: (pairWorld []).files.nodes } }

/-- The way to the output of this module leads through a file. -/
def windingTarget : Target :=
  { moduleTarget "app" with
    output := some { anchor := .root, names :=
      ["src", "core", "A.groovy", "..", "..", "..", "out", "app"] } }

def windingChunk : Chunk :=
  { pairChunk with others := [windingTarget] }

def pairWinding : Context :=
  { pairScripted with
    project := { pairScripted.project with
      sourceRoots := ⟨[moduleTarget "core", windingTarget].map fun target =>
        (target.toTargetId, [{ anchor := .root, names := ["src", target.name.display] }])⟩ } }

/-- The chunk is well arranged, and still it is not built whole in one pass. -/
def Spoiled (ctx : Context) (chunk : Chunk) (w : World) : Prop :=
  Arranged ctx chunk rootDirectory ["data"] ["tmp"] w ∧
    ¬ ∃ v, buildChunk ctx (.ofBuilders ctx stubBuilder classBuilder) chunk w = (.ok true, v) ∧
      BuiltWhole ctx chunk rootDirectory (fun p => ClassFile.least ("pkg." ++ p.stem)) w v

end Build

end GroovyRounds
