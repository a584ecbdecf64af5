import GroovyRounds.Proofs.Build.RoundEffects
import GroovyRounds.Proofs.Build.WholeChunks
import GroovyRounds.Proofs.Project.SourceTrees

/-!
# Grounds to build on

A tree is a ground for the chunks of a project if nothing in it is in the way of
their builds (`Ground`). What builds do to a tree leaves it a ground, with the same
sources (`Ground.turns`).
-/

namespace GroovyRounds

open FileSystem Path Build

-- ---------------------------------------------------------------------------
-- Places of a project
-- ---------------------------------------------------------------------------

/-- Where the directory of all stubs lies. -/
def stubRootPlace (data : Location) : Location :=
  data ++ ["groovyStubs"]

/-- Where a source root lies. -/
def rootPlace (cwd root : Path) : Location :=
  (cwd ++ root).names

/-- Where the packages of classes lie. -/
def classFolders (chunks : List Chunk) (cwd : Path) : Set Location :=
  {folder | ∃ chunk ∈ chunks, ∃ target ∈ chunk.ids, folder = outputPlace cwd target ++ ["pkg"]}

/-- Where the classes of these sources may lie. -/
def classPlaces (chunks : List Chunk) (cwd : Path) (dirty : Chunk → DirtyFiles) : Set Location :=
  {place | ∃ chunk ∈ chunks, ∃ target ∈ chunk.ids, ∃ source ∈ dirty chunk,
    place = outputPlace cwd target ++ Role.classes.fileNames source.2}

/-- The effect stays where chunks with these sources are built. -/
abbrev Effect.WithinBuilds (e : Effect) (chunks : List Chunk) (cwd : Path) (data : Location)
    (dirty : Chunk → DirtyFiles) : Prop :=
  e.Within (stubRootPlace data) (classFolders chunks cwd) (classPlaces chunks cwd dirty)

/-- The chunks of a project are in order, each by itself. No output directory lies in another one,
and no source root in the directory of stubs, in an output directory or around one of them. -/
structure Layout (ctx : Context) (chunks : List Chunk) (cwd : Path) (data temp : Location) :
    Prop where
  data_root : ctx.project.dataRoot = below data
  orderly : ∀ chunk ∈ chunks, Orderly ctx chunk cwd data temp
  outputs : ∀ chunk ∈ chunks, ∀ other ∈ chunks, ∀ target ∈ chunk.ids, ∀ target' ∈ other.ids,
    outputPlace cwd target <+: outputPlace cwd target' →
      outputPlace cwd target = outputPlace cwd target'
  temp_outside : ¬ stubRootPlace data <+: temp
  roots_aside : ∀ chunk ∈ chunks, ∀ target ∈ chunk.ids, ∀ root ∈ ctx.project.roots target,
    Aside (stubRootPlace data) (rootPlace cwd root) ∧ ∀ other ∈ chunks, ∀ target' ∈ other.ids,
      Aside (outputPlace cwd target') (rootPlace cwd root)
  roots_apart : ctx.project.RootsApart

/-- A tree on which chunks with these sources can be built: nothing stands on the ways to their
directories, there is room for their classes, and an argument file can be created. -/
structure Ground (ctx : Context) (chunks : List Chunk) (cwd : Path) (data temp : Location)
    (dirty : Chunk → DirtyFiles) (fs : FileSystem) : Prop where
  tidy : fs.Tidy
  cwd_eq : below fs.cwd = cwd
  stubRoot : fs.Open (below (stubRootPlace data))
  outputs : ∀ chunk ∈ chunks, ∀ target ∈ chunk.ids, OutputOpen (outputPlace cwd) target fs
  stubs : ∀ chunk ∈ chunks, ∀ target ∈ chunk.ids,
    fs.Open (below (ctx.project.stubPlace target).names)
  roots : ∀ chunk ∈ chunks, ∀ target ∈ chunk.ids, ∀ root ∈ ctx.project.roots target, fs.Open root
  sources : ∀ chunk ∈ chunks, chunkFiles ctx chunk fs = dirty chunk
  rooms : ∀ chunk ∈ chunks, ∀ target ∈ chunk.ids, ∀ source ∈ dirty chunk,
    fs.Room (outputPlace cwd target ++ Role.classes.fileNames source.2)
  paved : ∀ above, above <+: temp → fs.node? above = some .directory
  name : ∃ limit, ∀ chunk ∈ chunks, FreeName ctx chunk cwd temp limit fs

variable {ctx : Context} {chunks : List Chunk} {chunk other : Chunk} {cwd root : Path}
variable {data temp place : Location} {dirty : Chunk → DirtyFiles} {target target' : TargetId}
variable {names names' : List String} {a b : FileSystem} {e : Effect}

-- ---------------------------------------------------------------------------
-- Places that are apart
-- ---------------------------------------------------------------------------

theorem start_append (h : below a.cwd = cwd) : a.start root ++ root.names = rootPlace cwd root := by
  subst h
  unfold FileSystem.start rootPlace
  change _ = (Path.append (below a.cwd) root).names
  unfold Path.append
  split <;> rfl

namespace Layout

variable (h : Layout ctx chunks cwd data temp)
include h

/-- What lies below one of the output directories lies below no other. -/
theorem eq_of_prefix (hchunk : chunk ∈ chunks) (hother : other ∈ chunks) (ht : target ∈ chunk.ids)
    (ho : target' ∈ other.ids)
    (hbelow : outputPlace cwd target ++ names <+: outputPlace cwd target' ++ names') :
    outputPlace cwd target = outputPlace cwd target' ∧ names <+: names' := by
  have hin : outputPlace cwd target <+: outputPlace cwd target' ++ names' :=
    (List.prefix_append _ _).trans hbelow
  have heq : outputPlace cwd target = outputPlace cwd target' := by
    rcases List.prefix_or_prefix_of_prefix hin (List.prefix_append _ _) with hup | hdown
    · exact h.outputs chunk hchunk other hother target ht target' ho hup
    · exact (h.outputs other hother chunk hchunk target' ho target ht hdown).symm
  rw [heq, List.prefix_append_right_inj] at hbelow
  exact ⟨heq, hbelow⟩

theorem output_aside (hchunk : chunk ∈ chunks) (ht : target ∈ chunk.ids) (names : List String) :
    Aside (stubRootPlace data) (outputPlace cwd target ++ names) := by
  simpa [stubRootPlace] using ((h.orderly chunk hchunk).aside target ht).append [] names

theorem class_aside (hplace : place ∈ classPlaces chunks cwd dirty) :
    Aside (stubRootPlace data) place := by
  obtain ⟨chunk, hchunk, target, ht, source, -, rfl⟩ := hplace
  exact h.output_aside hchunk ht _

/-- No class lies on the way to an output directory. -/
theorem class_not_above_output (hplace : place ∈ classPlaces chunks cwd dirty)
    (hchunk : chunk ∈ chunks) (ht : target ∈ chunk.ids) (hlength : names.length ≤ 1) :
    ¬ place <+: outputPlace cwd target ++ names := by
  obtain ⟨other, hother, target', ht', source, -, rfl⟩ := hplace
  intro hbelow
  have hlong := (h.eq_of_prefix hother hchunk ht' ht hbelow).2.length_le
  simp only [Role.fileNames, List.length_cons, List.length_nil] at hlong
  omega

/-- No class lies on the way to another. -/
theorem class_not_above_class (hplace : place ∈ classPlaces chunks cwd dirty) {goal : Location}
    (hgoal : goal ∈ classPlaces chunks cwd dirty) (hbelow : place <+: goal) : place = goal := by
  obtain ⟨chunk, hchunk, target, ht, source, -, rfl⟩ := hplace
  obtain ⟨other, hother, target', ht', source', -, rfl⟩ := hgoal
  obtain ⟨heq, hnames⟩ := h.eq_of_prefix hchunk hother ht ht' hbelow
  rw [heq, hnames.eq_of_length_le (by simp [Role.fileNames])]

/-- No class lies on the way to a source root. -/
theorem class_not_above_root (hplace : place ∈ classPlaces chunks cwd dirty)
    (hchunk : chunk ∈ chunks) (ht : target ∈ chunk.ids) (hroot : root ∈ ctx.project.roots target) :
    Aside place (rootPlace cwd root) := by
  obtain ⟨other, hother, target', ht', source, -, rfl⟩ := hplace
  simpa using ((h.roots_aside chunk hchunk target ht root hroot).2 other hother target' ht').append
    (Role.classes.fileNames source.2) []

/-- The stub directory of a target lies in the directory of all stubs, not deep. -/
theorem stubPlace_names (hchunk : chunk ∈ chunks) (target : TargetId) :
    (ctx.project.stubPlace target).names =
      stubRootPlace data ++ [target.name.display, target.kind.directory] :=
  (h.orderly chunk hchunk).stubPlace_names target

variable (hwithin : e.WithinBuilds chunks cwd data dirty) (hturns : e.Turns a b)
include hwithin hturns

/-- What is seen at a source root and below does not change. -/
theorem same_sources (hchunk : chunk ∈ chunks) (ht : target ∈ chunk.ids)
    (hroot : root ∈ ctx.project.roots target) (hbelow : rootPlace cwd root <+: place) :
    b.sight place = a.sight place := by
  obtain ⟨hstubs, houtputs⟩ := h.roots_aside chunk hchunk target ht root hroot
  obtain ⟨rest, rfl⟩ := hbelow
  refine hwithin.same hturns ?_ ?_ fun hclass => ?_
  · rintro _ ⟨other, hother, target', ht', rfl⟩
    exact ((houtputs other hother target' ht').append _ _).2
  · simpa using hstubs.symm.append rest []
  · have haside := (h.class_not_above_root hclass hchunk ht hroot).2
    exact haside (List.prefix_append _ _)

/-- The way to a stub directory, or to the directory of all, stays open. -/
theorem open_stubs {names : List String} (hlength : names.length ≤ Effect.fileDepth)
    (hopen : a.Open (below (stubRootPlace data ++ names))) :
    b.Open (below (stubRootPlace data ++ names)) := by
  refine hwithin.openWay hturns hopen ?_ ?_ fun place hup => ⟨fun hclass => ?_, fun _ => ?_⟩
  · rintro ⟨chunk, -, target, -, source, -, hplace⟩
    have hnil : [] = outputPlace cwd target ++ Role.classes.fileNames source.2 := hplace
    exact absurd hnil.symm (by simp [Role.fileNames])
  · exact fun hdown => absurd (List.prefix_nil.mp hdown) (by simp [stubRootPlace])
  · have haside := (h.class_aside hclass).append names []
    rw [List.append_nil] at haside
    exact haside.2 hup
  · have hlong : place.length ≤ (stubRootPlace data ++ names).length := hup.length_le
    rw [List.length_append] at hlong
    omega

end Layout

namespace Ground

/-- No class lies on the way to the directory for temporary files. -/
theorem class_not_above_temp (h : Ground ctx chunks cwd data temp dirty a)
    (hplace : place ∈ classPlaces chunks cwd dirty) :
    ¬ place <+: temp := by
  obtain ⟨chunk, hchunk, target, ht, source, hsource, rfl⟩ := hplace
  exact not_prefix_of_paved (h.rooms chunk hchunk target ht source hsource).free h.paved

variable (hlayout : Layout ctx chunks cwd data temp)
variable (h : Ground ctx chunks cwd data temp dirty a)
include hlayout h

/-- The name for an argument file lies on no way. -/
theorem name_aside {limit : Nat} (hlimit : ∀ chunk ∈ chunks, FreeName ctx chunk cwd temp limit a)
    (hchunk : chunk ∈ chunks) :
    (∀ folder ∈ classFolders chunks cwd, ¬ argumentPlace temp limit <+: folder) ∧
      Aside (argumentPlace temp limit) (stubRootPlace data) ∧
      argumentPlace temp limit ∉ classPlaces chunks cwd dirty := by
  have htarget : chunk.representative.toTargetId ∈ chunk.ids := List.mem_cons_self
  have hstub : ¬ argumentPlace temp limit <+: stubRootPlace data := fun hbelow =>
    (hlimit chunk hchunk).off_way .stubs _ htarget (by
      rw [Role.place, hlayout.stubPlace_names hchunk]
      exact hbelow.trans (List.prefix_append _ _))
  refine ⟨?_, ⟨hstub, fun hbelow => ?_⟩, fun hclass => ?_⟩
  · rintro _ ⟨other, hother, target, ht, rfl⟩ hbelow
    have hname := mem_of_prefix_append hbelow
      ((hlimit other hother).off_way .classes target ht)
    exact ne_parameterName "pkg" (by decide) limit (List.mem_singleton.mp hname).symm
  · by_cases heq : stubRootPlace data = argumentPlace temp limit
    · exact hstub (heq ▸ List.prefix_refl _)
    · have hup := prefix_dropLast hbelow heq
      rw [argumentPlace, FileAction.freshPlace, List.dropLast_concat] at hup
      exact hlayout.temp_outside hup
  · obtain ⟨other, hother, target, ht, source, hsource, hplace⟩ := hclass
    refine (argument_aside (n := limit) ((hlimit other hother).off_way .classes target ht)
      (not_prefix_of_paved (h.rooms other hother target ht source hsource).free h.paved)).1 ?_
    rw [hplace]
    exact List.prefix_refl _

variable (hwithin : e.WithinBuilds chunks cwd data dirty) (hturns : e.Turns a b)
include hwithin hturns

/-- A source root can be looked at as before. -/
theorem open_root (hchunk : chunk ∈ chunks) (ht : target ∈ chunk.ids)
    (hroot : root ∈ ctx.project.roots target) : b.Open root := by
  have hplace : a.start root ++ root.names = rootPlace cwd root := start_append h.cwd_eq
  have haside := hlayout.roots_aside chunk hchunk target ht root hroot
  have hway (place : Location) (hup : place <+: a.start root ++ root.names) :
      place ∉ classPlaces chunks cwd dirty ∧ ¬ stubRootPlace data <+: place := by
    rw [hplace] at hup
    exact ⟨fun hclass => (hlayout.class_not_above_root hclass hchunk ht hroot).1 hup,
      fun hdown => haside.1.1 (hdown.trans hup)⟩
  obtain ⟨hstart, hstart'⟩ := hway _ (List.prefix_append _ _)
  exact hwithin.openWay hturns (h.roots chunk hchunk target ht root hroot) hstart hstart'
    fun place hup => ⟨(hway place hup).1, fun hdown => absurd hdown (hway place hup).2⟩

/-- An output directory can be made as before. -/
theorem open_output (hchunk : chunk ∈ chunks) (ht : target ∈ chunk.ids) :
    OutputOpen (outputPlace cwd) target b := by
  obtain ⟨directory, houtput, hopen, hplace, hpaved⟩ := h.outputs chunk hchunk target ht
  have hstart : b.start directory = a.start directory := by
    simp [FileSystem.start, hturns.cwd]
  have hway (place : Location) (hup : place <+: a.start directory ++ directory.names) :
      place ∉ classPlaces chunks cwd dirty ∧ ¬ stubRootPlace data <+: place := by
    rw [hplace] at hup
    constructor
    · intro hclass
      have hnot : ¬ place <+: outputPlace cwd target ++ [] :=
        hlayout.class_not_above_output hclass hchunk ht (by simp)
      rw [List.append_nil] at hnot
      exact hnot hup
    · have haside := hlayout.output_aside hchunk ht []
      rw [List.append_nil] at haside
      exact fun hdown => haside.1 (hdown.trans hup)
  obtain ⟨hfile, hroot⟩ := hway _ (List.prefix_append _ _)
  refine ⟨directory, houtput, hwithin.openWay hturns hopen hfile hroot
    fun place hup => ⟨(hway place hup).1, fun hdown => absurd hdown (hway place hup).2⟩,
    hstart ▸ hplace, fun above habove => ?_⟩
  rw [hstart] at habove
  obtain ⟨hfile, hroot⟩ := hway above (habove.trans (List.prefix_append _ _))
  exact hwithin.kept hturns hfile hroot (hpaved above habove)

/-- What builds do to a ground leaves a ground. -/
theorem turns : Ground ctx chunks cwd data temp dirty b where
  tidy := hturns.tidy
  cwd_eq := by rw [hturns.cwd, h.cwd_eq]
  stubRoot := by
    have hopen : a.Open (below (stubRootPlace data ++ [])) →
        b.Open (below (stubRootPlace data ++ [])) :=
      hlayout.open_stubs hwithin hturns (by simp)
    rw [List.append_nil] at hopen
    exact hopen h.stubRoot
  outputs chunk hchunk target ht := h.open_output hlayout hwithin hturns hchunk ht
  stubs chunk hchunk target ht := by
    have hopen := h.stubs chunk hchunk target ht
    rw [hlayout.stubPlace_names hchunk] at hopen ⊢
    exact hlayout.open_stubs hwithin hturns (by simp [Effect.fileDepth]) hopen
  roots chunk hchunk target ht root hroot :=
    h.open_root hlayout hwithin hturns hchunk ht hroot
  sources chunk hchunk := by
    rw [← h.sources chunk hchunk, chunkFiles, chunkFiles, List.flatMap_def, List.flatMap_def]
    refine congrArg List.flatten (List.map_congr_left fun target ht => ?_)
    rw [Project.sources_congr fun root hroot => ?_]
    refine Project.rootSources_congr h.tidy hturns.tidy (h.roots chunk hchunk target ht root hroot)
      (h.open_root hlayout hwithin hturns hchunk ht hroot) hturns.cwd fun place hbelow => ?_
    rw [start_append h.cwd_eq] at hbelow
    exact hlayout.same_sources hwithin hturns hchunk ht hroot hbelow
  rooms chunk hchunk target ht source hsource := by
    have hclass : outputPlace cwd target ++ Role.classes.fileNames source.2 ∈
        classPlaces chunks cwd dirty := ⟨chunk, hchunk, target, ht, source, hsource, rfl⟩
    refine hwithin.room hturns (h.rooms chunk hchunk target ht source hsource) ?_
      (hlayout.class_aside hclass).symm fun above hup hne hother => ?_
    · rintro _ ⟨other, hother, target', ht', rfl⟩
      exact hlayout.class_not_above_output hclass hother ht' (by simp)
    · exact hne (hlayout.class_not_above_class hother hclass hup)
  paved above habove := by
    refine hwithin.kept hturns (fun hclass => ?_) (fun hdown => ?_) (h.paved above habove)
    · exact h.class_not_above_temp hclass habove
    · exact hlayout.temp_outside (hdown.trans habove)
  name := by
    obtain ⟨limit, hlimit⟩ := h.name
    refine ⟨limit, fun chunk hchunk => { hlimit chunk hchunk with free := ?_ }⟩
    obtain ⟨hfolders, hroot, hclass⟩ := h.name_aside hlayout hlimit hchunk
    rw [← sight_eq_nothing_iff, hwithin.same hturns hfolders hroot hclass, sight_eq_nothing_iff]
    exact (hlimit chunk hchunk).free

end Ground

end GroovyRounds
