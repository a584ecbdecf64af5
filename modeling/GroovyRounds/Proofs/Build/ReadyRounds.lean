import GroovyRounds.Proofs.Build.FreshOutputs
import GroovyRounds.Proofs.Build.RolePlaces
import GroovyRounds.Proofs.FileSystem.Fresh

/-!
# Rounds that can be prepared

Where nothing is in the way of the directories of a chunk, a round of either
role can be prepared (`run_prepare`): its directories are there with nothing in
them, and the compiler finds its argument file.
-/

namespace GroovyRounds

open FileSystem Path

-- ---------------------------------------------------------------------------
-- Argument files
-- ---------------------------------------------------------------------------

/-- Where the argument file of a round may lie. -/
def argumentPlace (temp : Location) (n : Nat) : Location :=
  FileAction.freshPlace temp Build.parameterFront ".txt" n

/-- The argument files of rounds. -/
def argumentFiles (temp : Location) : Set Path :=
  {p | ∃ n, p = below (argumentPlace temp n) ∧ Admissible (argumentPlace temp n)}

/-- A name for an argument file that is not taken, and on the way to no directory of the chunk. -/
structure FreeName (ctx : Context) (chunk : Chunk) (cwd : Path) (temp : Location) (limit : Nat)
    (fs : FileSystem) : Prop where
  free : fs.node? (argumentPlace temp limit) = none
  admissible : ∀ n ≤ limit, Admissible (argumentPlace temp n)
  off_way : ∀ role : Role, ∀ target ∈ chunk.ids,
    ¬ argumentPlace temp limit <+: role.place ctx.project cwd target

/-- Nothing is in the way of the output directories of a chunk or in them, and an argument file
can be created. -/
structure Roomy (ctx : Context) (chunk : Chunk) (cwd : Path) (temp : Location)
    (fs : FileSystem) : Prop where
  cwd_eq : below fs.cwd = cwd
  outputs : ∀ target ∈ chunk.ids, Build.OutputOpen (outputPlace cwd) target fs
  vacant : ∀ target ∈ chunk.ids, fs.Vacant (outputPlace cwd target)
  paved : ∀ above, above <+: temp → fs.node? above = some .directory
  name : ∃ limit, FreeName ctx chunk cwd temp limit fs

/-- Nothing is in the way of the output directories of a chunk, and an argument file can be
created. -/
structure Usable (ctx : Context) (chunk : Chunk) (cwd : Path) (temp : Location)
    (fs : FileSystem) : Prop where
  cwd_eq : below fs.cwd = cwd
  outputs : ∀ target ∈ chunk.ids, Build.OutputOpen (outputPlace cwd) target fs
  paved : ∀ above, above <+: temp → fs.node? above = some .directory
  name : ∃ limit, FreeName ctx chunk cwd temp limit fs

theorem Roomy.usable {ctx : Context} {chunk : Chunk} {cwd : Path} {temp : Location}
    {fs : FileSystem} (h : Roomy ctx chunk cwd temp fs) : Usable ctx chunk cwd temp fs :=
  { h with }

/-- There is room for classes in the output directories. -/
theorem Roomy.rooms {ctx : Context} {chunk : Chunk} {cwd : Path} {data temp : Location}
    {sources : List Path} {fs : FileSystem} (h : Roomy ctx chunk cwd temp fs)
    (horderly : Orderly ctx chunk cwd data temp) (hvalid : ∀ p ∈ sources, p.Valid)
    (hadmissible : ∀ target ∈ chunk.ids, ∀ p ∈ sources,
      Admissible (outputPlace cwd target ++ Role.classes.fileNames p)) :
    ∀ target ∈ chunk.ids, ∀ p ∈ sources,
      fs.Room (outputPlace cwd target ++ Role.classes.fileNames p) := fun target ht p hp =>
  (h.outputs target ht).room (h.vacant target ht)
    ((horderly.apart .classes).plain_append ht (isPlain_fileNames (hvalid p hp)))
    fileNames_ne_nil (hadmissible target ht p hp)

/-- The last character of an argument file's name is that of no other file of a round. -/
theorem ne_parameterName (name : String) (hname : name.toList.getLast? ≠ some 't') (n : Nat) :
    name ≠ Build.parameterFront ++ FileAction.serial n ++ ".txt" := by
  rintro rfl
  refine hname ?_
  rw [String.toList_append, List.getLast?_append_of_ne_nil _ (by decide)]
  decide

section
variable {place temp : Location} {role : Role} {p : Path} {n : Nat} {fs : FileSystem}

/-- What leads past a directory ends with one of the names that lead on. -/
theorem mem_of_prefix_append {front names : List String} {last : String}
    (h : front ++ [last] <+: place ++ names) (hup : ¬ front ++ [last] <+: place) :
    last ∈ names := by
  rcases List.prefix_or_prefix_of_prefix h (List.prefix_append _ _) with hover | ⟨rest, hrest⟩
  · exact absurd hover hup
  · rw [← hrest, List.prefix_append_right_inj] at h
    rcases List.eq_nil_or_concat rest with rfl | ⟨start, name, rfl⟩
    · rw [List.append_nil] at hrest
      exact absurd (hrest ▸ List.prefix_refl _) hup
    · rw [List.concat_eq_append, ← List.append_assoc] at hrest
      obtain ⟨-, hlast⟩ := List.append_inj' hrest rfl
      refine h.subset ?_
      simp [List.singleton_inj.mp hlast]

/-- An argument file is in no way of the files of a round. -/
theorem argument_aside (hup : ¬ argumentPlace temp n <+: place)
    (hdown : ¬ place ++ role.fileNames p <+: temp) :
    Aside (argumentPlace temp n) (place ++ role.fileNames p) := by
  have hpackage := ne_parameterName "pkg" (by decide) n
  have hfile := ne_parameterName (p.stem ++ role.suffix) (by
    rw [String.toList_append, List.getLast?_append_of_ne_nil _ (by cases role <;> decide)]
    cases role <;> decide) n
  constructor
  · intro hbelow
    have hlast : Build.parameterFront ++ FileAction.serial n ++ ".txt" ∈ role.fileNames p :=
      mem_of_prefix_append hbelow hup
    rw [Role.fileNames, List.mem_pair] at hlast
    rcases hlast with heq | heq
    · exact hpackage heq.symm
    · exact hfile heq.symm
  · intro hbelow
    by_cases heq : place ++ role.fileNames p = argumentPlace temp n
    · have hsplit : place ++ ["pkg"] ++ [p.stem ++ role.suffix] = temp ++
          [Build.parameterFront ++ FileAction.serial n ++ ".txt"] := by
        simpa [Role.fileNames, argumentPlace, FileAction.freshPlace] using heq
      obtain ⟨-, hlast⟩ := List.append_inj' hsplit (by simp)
      exact hfile (List.singleton_inj.mp hlast)
    · have hwithin := prefix_dropLast hbelow heq
      rw [argumentPlace, FileAction.freshPlace, List.dropLast_concat] at hwithin
      exact hdown hwithin

/-- What is no directory is on no way to a directory that is there. -/
theorem not_prefix_of_paved (hnode : fs.node? place ≠ some .directory)
    (hpaved : ∀ above, above <+: temp → fs.node? above = some .directory) : ¬ place <+: temp :=
  fun hbelow => hnode (hpaved _ hbelow)

end

-- ---------------------------------------------------------------------------
-- Changes elsewhere
-- ---------------------------------------------------------------------------

section
variable {ctx : Context} {chunk : Chunk} {cwd : Path} {data temp : Location}
variable {inside ways : Set Location} {a b : FileSystem}

/-- Changes beside the output directories and the directory for temporary files leave a chunk
usable. -/
theorem Usable.contained (h : Usable ctx chunk cwd temp a) (hchanged : Contained inside ways a b)
    (hinside : ∀ root ∈ inside, ∀ target ∈ chunk.ids, ¬ root <+: outputPlace cwd target)
    (htemp : ∀ root ∈ inside, ¬ root <+: temp)
    (hname : ∀ limit, FreeName ctx chunk cwd temp limit a →
      (∀ root ∈ inside, ¬ root <+: argumentPlace temp limit) ∧
        ∀ goal ∈ ways, ¬ argumentPlace temp limit <+: goal) :
    Usable ctx chunk cwd temp b where
  cwd_eq := by rw [hchanged.cwd, h.cwd_eq]
  outputs target ht :=
    (h.outputs target ht).contained hchanged fun root hroot => hinside root hroot target ht
  paved := hchanged.paved htemp h.paved
  name := by
    obtain ⟨limit, hlimit⟩ := h.name
    obtain ⟨hover, hunder⟩ := hname limit hlimit
    exact ⟨limit, { hlimit with free := (hchanged.same hover hunder).trans hlimit.free }⟩

end

-- ---------------------------------------------------------------------------
-- Stub directories
-- ---------------------------------------------------------------------------

/-- The stub directories of a chunk can be made anew. -/
structure StubsOpen (ctx : Context) (chunk : Chunk) (fs : FileSystem) : Prop where
  rooted : fs.Rooted
  ways : ∀ target ∈ chunk.ids, fs.Open (below (ctx.project.stubPlace target).names)

/-- Where the stub directories of a chunk lie. -/
def stubPlaces (ctx : Context) (chunk : Chunk) : Set Location :=
  {goal | ∃ target ∈ chunk.ids, goal = (ctx.project.stubPlace target).names}

/-- Where the output directories of a chunk lie. -/
def outputPlaces (chunk : Chunk) (cwd : Path) : Set Location :=
  {goal | ∃ target ∈ chunk.ids, goal = outputPlace cwd target}

section
variable {ctx : Context} {chunk : Chunk} {cwd : Path} {data temp : Location}
variable {place : TargetId → Location} {inside ways : Set Location} {a b : FileSystem}

/-- The directories of different targets lie beside each other. -/
theorem Apart.pairwise (h : Apart chunk place) :
    chunk.ids.Pairwise fun target other => Aside (place target) (place other) :=
  h.names.of_map.pairwise_of_forall_ne fun target ht other ho hne =>
    ⟨h.disjoint target ht other ho hne, h.disjoint other ho target ht (Ne.symm hne)⟩

/-- Output directories are on no way to stubs. -/
theorem StubsOpen.opened (h : StubsOpen ctx chunk a) (hrooted : a.Rooted → b.Rooted)
    (hchanged : Contained ∅ ways a b) : StubsOpen ctx chunk b :=
  ⟨hrooted h.rooted, fun target ht => hchanged.openWay (by simp) (h.ways target ht)⟩

/-- Output directories take no room from the classes in them. -/
theorem Orderly.rooms_opened {sources : List Path} (horderly : Orderly ctx chunk cwd data temp)
    (hchanged : Contained ∅ (outputPlaces chunk cwd) a b)
    (hrooms : ∀ target ∈ chunk.ids, ∀ p ∈ sources,
      a.Room (outputPlace cwd target ++ Role.classes.fileNames p)) :
    ∀ target ∈ chunk.ids, ∀ p ∈ sources,
      b.Room (outputPlace cwd target ++ Role.classes.fileNames p) := by
  intro target ht p hp
  refine (hrooms target ht p hp).contained hchanged (by simp) ?_
  rintro _ ⟨other, ho, rfl⟩ hbelow
  have hover := (List.prefix_append _ _).trans hbelow
  by_cases heq : target = other
  · subst heq
    exact absurd hbelow.length_le (by simp [Role.fileNames])
  · exact horderly.separate.disjoint target ht other ho heq hover

/-- A name for an argument file is on no way to a stub directory, and in none. -/
theorem Orderly.stubs_off (horderly : Orderly ctx chunk cwd data temp) {limit : Nat}
    {fs : FileSystem} (hlimit : FreeName ctx chunk cwd temp limit fs) :
    ∀ goal ∈ stubPlaces ctx chunk, Aside goal (argumentPlace temp limit) := by
  rintro _ ⟨target, ht, rfl⟩
  refine ⟨fun hbelow => ?_, hlimit.off_way .stubs target ht⟩
  by_cases heq : (ctx.project.stubPlace target).names = argumentPlace temp limit
  · exact hlimit.off_way .stubs target ht (heq ▸ List.prefix_refl _)
  · have hup := prefix_dropLast hbelow heq
    rw [argumentPlace, FileAction.freshPlace, List.dropLast_concat] at hup
    exact horderly.temp_outside target ht hup

section
variable (horderly : Orderly ctx chunk cwd data temp) (hchanged : Contained inside ways a b)
variable (hinside : inside ⊆ stubPlaces ctx chunk)
variable (hways : ways ⊆ stubPlaces ctx chunk ∪ outputPlaces chunk cwd)
include horderly hchanged hinside hways

/-- Changes in the stub directories leave a chunk usable. -/
theorem Orderly.usable (h : Usable ctx chunk cwd temp a) : Usable ctx chunk cwd temp b := by
  refine h.contained hchanged ?_ ?_ fun limit hlimit => ⟨?_, ?_⟩
  · intro root hroot target ht
    obtain ⟨other, ho, rfl⟩ := hinside hroot
    exact (horderly.stubs_aside ht).1
  · intro root hroot
    obtain ⟨target, ht, rfl⟩ := hinside hroot
    exact horderly.temp_outside target ht
  · exact fun root hroot => (horderly.stubs_off hlimit root (hinside hroot)).1
  · intro goal hgoal
    rcases hways hgoal with hstub | ⟨target, ht, rfl⟩
    · exact (horderly.stubs_off hlimit goal hstub).2
    · exact hlimit.off_way .classes target ht

/-- They take no room from the classes. -/
theorem Orderly.roomy (h : Roomy ctx chunk cwd temp a) : Roomy ctx chunk cwd temp b := by
  refine { horderly.usable hchanged hinside hways h.usable with vacant := fun target ht => ?_ }
  refine hchanged.vacant (fun root hroot => ?_) (fun goal hgoal hbelow => ?_) (h.vacant target ht)
  · obtain ⟨other, ho, rfl⟩ := hinside hroot
    exact horderly.stubs_aside ht
  · rcases hways hgoal with ⟨other, ho, rfl⟩ | ⟨other, ho, rfl⟩
    · exact absurd hbelow (horderly.stubs_aside ht).2
    · by_contra hne
      exact horderly.separate.disjoint target ht other ho (fun heq => hne (heq ▸ rfl)) hbelow

end

end

/-- A round of stubs has emptied the stub directories of a chunk, and a round of classes has left
all as it was. -/
def Emptied (ctx : Context) (role : Role) (chunk : Chunk) (a b : FileSystem) : Prop :=
  match role with
  | .stubs => b.Rooted ∧ (∀ target ∈ chunk.ids, b.Laid (ctx.project.stubPlace target).names) ∧
      Contained (stubPlaces ctx chunk) (stubPlaces ctx chunk) a b
  | .classes => b = a

namespace Emptied

variable {ctx : Context} {role : Role} {chunk : Chunk} {cwd : Path} {data temp : Location}
variable {sources : List Path} {a b : FileSystem}

theorem contained (h : Emptied ctx role chunk a b) :
    Contained (stubPlaces ctx chunk) (stubPlaces ctx chunk) a b := by
  cases role with
  | stubs => exact h.2.2
  | classes =>
    cases h
    exact .refl _ _ _

/-- There is room for stubs, and there is as much room for classes as before. -/
theorem room (h : Emptied ctx role chunk a b) (horderly : Orderly ctx chunk cwd data temp)
    (hvalid : ∀ p ∈ sources, p.Valid)
    (hadmissible : ∀ target ∈ chunk.ids, ∀ p ∈ sources,
      Admissible (role.place ctx.project cwd target ++ role.fileNames p))
    (hrooms : role = .classes → ∀ target ∈ chunk.ids, ∀ p ∈ sources,
      a.Room (outputPlace cwd target ++ Role.classes.fileNames p)) :
    ∀ target ∈ chunk.ids, ∀ p ∈ sources,
      b.Room (role.place ctx.project cwd target ++ role.fileNames p) := by
  cases role with
  | stubs =>
    intro target ht p hp
    exact (h.2.1 target ht).room
      ((horderly.apart .stubs).plain_append ht (isPlain_fileNames (hvalid p hp)))
      fileNames_ne_nil (hadmissible target ht p hp)
  | classes => exact h ▸ hrooms rfl

end Emptied

-- ---------------------------------------------------------------------------
-- Opening a round
-- ---------------------------------------------------------------------------

namespace Build

open Program

variable {ctx : Context} {builder : Builder} {chunk : Chunk} {cwd : Path} {data temp : Location}
variable {dirty : DirtyFiles} {sources : List Path} {w : World}

/-- A round with sources to compile makes the output directories, and is due. -/
theorem run_openRound
    (hsources : changedFiles ctx.project builder.settings builder.role dirty = sources)
    (hne : sources ≠ []) (husable : Usable ctx chunk cwd temp w.files)
    (hseparate : Separate chunk cwd) :
    ∃ finals files, openRound ctx builder chunk dirty w =
        (.ok (.due sources finals), { w with files }) ∧
      (∀ target ∈ chunk.ids, ∀ above, above <+: outputPlace cwd target →
        files.node? above = some .directory) ∧
      (∀ target ∈ chunk.ids, finals.find? target = some (spellFolder (outputPlace cwd target))) ∧
      (w.files.Rooted → files.Rooted) ∧ Contained ∅ (outputPlaces chunk cwd) w.files files := by
  obtain ⟨finals, files, hrun, hrooted, hpaved, hchanged⟩ := run_makeOutputs ctx
    builder.name .empty husable.outputs
  have hcwd : w.cwd = cwd := husable.cwd_eq
  refine ⟨finals, files, ?_, hpaved, fun target ht => ?_, hrooted, hchanged⟩
  · have hopen :
        (changedFiles ctx.project builder.settings builder.role dirty).isEmpty = false := by
      simpa [hsources] using hne
    have hfinals : finalOutputs ctx builder.name chunk w = (.ok (some finals), { w with files }) :=
      hrun
    rw [openRound, if_neg (by simp [hopen]), run_bind_of_ok hfinals, hsources]
    rfl
  · subst hcwd
    exact finalOutputs_cases hseparate hrun ht

-- ---------------------------------------------------------------------------
-- Preparing a round
-- ---------------------------------------------------------------------------

/-- The classes compiled earlier are found if every target has an output. -/
theorem exists_classMap (chunk : Chunk) (project : Project) (index : SourceIndex)
    (changed : List String) (outputs : OrderedMap TargetId String)
    (h : ∀ target ∈ chunk.ids, outputs.find? target ≠ none) :
    ∃ classes, classMap project index chunk changed outputs = .ok classes := by
  unfold classMap
  generalize chunk.ids = targets at h
  generalize (OrderedMap.empty : ClassMap) = classes
  induction targets generalizing classes with
  | nil => exact ⟨classes, rfl⟩
  | cons target targets ih =>
    obtain ⟨directory, hfound⟩ := Option.ne_none_iff_exists'.mp (h target List.mem_cons_self)
    simp only [List.foldlM_cons, hfound]
    exact ih (fun other ho => h other (List.mem_cons_of_mem _ ho)) _

/-- The directories that a round compiles to are there. Those of stubs are made anew. -/
theorem run_generationOutputs {role : Role} {finals : FinalOutputs}
    (horderly : Orderly ctx chunk cwd data temp)
    (hpaved : ∀ target ∈ chunk.ids, ∀ above, above <+: outputPlace cwd target →
      w.files.node? above = some .directory)
    (hfinals : ∀ target ∈ chunk.ids,
      finals.find? target = some (spellFolder (outputPlace cwd target)))
    (hstubs : role = .stubs → StubsOpen ctx chunk w.files) :
    ∃ outputs files, generationOutputs ctx role chunk finals w = (.ok outputs, { w with files }) ∧
      Spells chunk (role.place ctx.project cwd) outputs ∧
      (∀ target ∈ chunk.ids, ∀ above, above <+: role.place ctx.project cwd target →
        files.node? above = some .directory) ∧
      Emptied ctx role chunk w.files files := by
  cases role with
  | classes =>
    refine ⟨finals, w.files, rfl, ?_, hpaved, rfl⟩
    exact spells_of_folders horderly.separate.apart hfinals
  | stubs =>
    have hopen := hstubs rfl
    obtain ⟨outputs, files, hrun, hrooted, hlaid, hchanged⟩ := run_stubOutputs
      .empty (fun target ht => horderly.stubDirectory_eq ht)
      (fun target _ => ctx.project.stubPlace_names) (horderly.apart .stubs).pairwise
      hopen.ways hopen.rooted
    refine ⟨outputs, files, hrun, fun target ht => ?_, fun target ht => (hlaid target ht).paved,
      ⟨hrooted, hlaid, hchanged⟩⟩
    refine ⟨_, stubOutputs_cases horderly.stubs_apart hrun ht, ?_⟩
    rw [ofString_toString (horderly.stubs_apart.valid_stubPlace ht)]
    exact horderly.stubPlace_eq target

/-- A round that is ready: there is room for all it will make, and the compiler finds what it is
told in an argument file that lies in no way of that. -/
structure Ready (ctx : Context) (builder : Builder) (chunk : Chunk) (cwd : Path) (temp : Location)
    (sources : List Path) (job : Job) (n : Nat) (files : FileSystem) : Prop where
  sources_eq : job.files = sources
  outputs : Spells chunk (builder.role.place ctx.project cwd) job.generationOutputs
  output : Path.ofString job.compilerOutput =
    below (builder.role.place ctx.project cwd chunk.representative.toTargetId)
  argumentFile : job.argumentFile = below (argumentPlace temp n)
  admissible : Admissible (argumentPlace temp n)
  told : ∃ file : ArgumentFile,
    Invocation.parameterContent files (programParameters job.optimize builder.role
      job.argumentFile builder.settings.invokeDynamic) = some file.bytes ∧
    file.output = job.compilerOutput ∧ file.sources = pathsToCompile sources
  held : ∃ content, files.HoldsFile (argumentPlace temp n) content
  aside : ∀ target ∈ chunk.ids, ∀ p ∈ sources, Aside (argumentPlace temp n)
    (builder.role.place ctx.project cwd target ++ builder.role.fileNames p)
  room : ∀ target ∈ chunk.ids, ∀ p ∈ sources, files.Room
    (builder.role.place ctx.project cwd target ++ builder.role.fileNames p)

/-- An argument file that can be encoded is created where nothing was. -/
theorem run_writeArgumentFile (file : ArgumentFile) {encoding : Json}
    (horderly : Orderly ctx chunk cwd data temp) (husable : Usable ctx chunk cwd temp w.files)
    (hencoding : encodingFailure? file encoding = none) :
    ∃ n files content, writeArgumentFile ctx.tempDirectory file encoding w =
        (.ok (below (argumentPlace temp n)), { w with files }) ∧
      Admissible (argumentPlace temp n) ∧
      w.files.node? (argumentPlace temp n) = none ∧ files.HoldsFile (argumentPlace temp n) content ∧
      Contained {argumentPlace temp n} ∅ w.files files := by
  obtain ⟨limit, hlimit⟩ := husable.name
  obtain ⟨content, hcontent⟩ : ∃ content, content = { file with
      encoding := if encoding.isVoid then none else encoding.display }.bytes := ⟨_, rfl⟩
  obtain ⟨n, hn, executable, hnone, hcreate⟩ := FileAction.createFresh_of_free content
    horderly.temp_plain isPlain_parameterName husable.paved hlimit.free hlimit.admissible
  have hadmissible := hlimit.admissible n hn
  have hleads : Leads (argumentPlace temp n) :=
    ⟨by simp [argumentPlace, FileAction.freshPlace],
      FileAction.plain_freshPlace horderly.temp_plain isPlain_parameterName n, hadmissible.no_zero⟩
  refine ⟨n, w.files.put (argumentPlace temp n) (.file content executable), content, ?_,
    hadmissible, hnone,
    FileAction.holdsFile_put hleads (FileAction.reachable_freshPlace husable.paved hadmissible),
    contained_put rfl hleads.ne_root hnone ?_⟩
  · rw [writeArgumentFile, horderly.temp_root]
    simp only [hencoding]
    exact withFiles_eq_ok_iff.mpr ⟨_, hcontent ▸ hcreate, rfl⟩
  · rw [argumentPlace, FileAction.freshPlace, List.dropLast_concat]
    exact husable.paved temp (List.prefix_refl _)

/-- A round is prepared in the directories it has made. -/
theorem run_prepare {finals : FinalOutputs} (horderly : Orderly ctx chunk cwd data temp)
    (hoptimize : ∀ count, ∃ optimize, shouldOptimize builder.settings chunk count = .ok optimize)
    (hencoding : ∀ file, encodingFailure? file ctx.project.encoding = none)
    (husable : Usable ctx chunk cwd temp w.files)
    (hpaved : ∀ target ∈ chunk.ids, ∀ above, above <+: outputPlace cwd target →
      w.files.node? above = some .directory)
    (hfinals : ∀ target ∈ chunk.ids,
      finals.find? target = some (spellFolder (outputPlace cwd target)))
    (hstubs : builder.role = .stubs → StubsOpen ctx chunk w.files)
    (hrooms : builder.role = .classes → ∀ target ∈ chunk.ids, ∀ p ∈ sources,
      w.files.Room (outputPlace cwd target ++ Role.classes.fileNames p))
    (hvalid : ∀ p ∈ sources, p.Valid)
    (hadmissible : ∀ target ∈ chunk.ids, ∀ p ∈ sources, Admissible
      (builder.role.place ctx.project cwd target ++ builder.role.fileNames p)) :
    ∃ job n base files, prepare ctx builder chunk sources finals w = (.ok job, { w with files }) ∧
      Ready ctx builder chunk cwd temp sources job n files ∧
      Emptied ctx builder.role chunk w.files base ∧
      (∀ target ∈ chunk.ids, ∀ above, above <+: builder.role.place ctx.project cwd target →
        base.node? above = some .directory) ∧
      base.node? (argumentPlace temp n) = none ∧
      Contained {argumentPlace temp n} ∅ base files := by
  obtain ⟨optimize, hoptimize⟩ := hoptimize (pathsToCompile sources).length
  obtain ⟨classes, hclasses⟩ := exists_classMap chunk ctx.project w.index
    (pathsToCompile sources) finals fun target ht => by simp [hfinals target ht]
  obtain ⟨outputs, base, houtputs, hspells, hthere, hemptied⟩ :=
    run_generationOutputs horderly hpaved hfinals hstubs
  have husable' : Usable ctx chunk cwd temp base :=
    horderly.usable hemptied.contained (Set.Subset.refl _) Set.subset_union_left husable
  have hrep : chunk.representative.toTargetId ∈ chunk.ids := List.mem_cons_self
  obtain ⟨output, hfound, houtput⟩ := hspells _ hrep
  obtain ⟨n, files, content, hwrite, hfree, hnone, hheld, hchanged⟩ := run_writeArgumentFile
    (w := { w with files := base })
    { output, sources := pathsToCompile sources, finalOutputs := finals.values
      classToSource := classes.entries, encoding := none
      patchers := extensionPatchers builder.extensions
      classpath := if optimize then joinClasspath (fullClasspath
        (World.cwd { w with files := base }) ctx.project builder.settings builder.extensions chunk)
        else "" }
    horderly husable' (hencoding _)
  obtain ⟨job, hprepare, hargument⟩ : ∃ job, prepare ctx builder chunk sources finals w =
      (.ok job, { w with files }) ∧ job.argumentFile = below (argumentPlace temp n) := by
    refine ⟨{
      files := sources, finalOutputs := finals, generationOutputs := outputs
      compilerOutput := output, optimize
      classpath := fullClasspath (World.cwd { w with files := base }) ctx.project builder.settings
        builder.extensions chunk
      argumentFile := below (argumentPlace temp n) }, ?_, rfl⟩
    unfold prepare
    simp only [run_bind, run_ofExcept, hoptimize, run_get, hclasses, houtputs, compilerOutput,
      hfound, hwrite, run_pure]
  have htemp : ctx.tempDirectory.Valid := by
    rw [horderly.temp_root]
    exact fun name hm => (horderly.temp_plain name hm).toIsComponent
  obtain ⟨_, u, file, -, houtputs', hfound', hsources, htold, hfileOutput, hfileSources, -⟩ :=
    prepare_cases htemp hprepare
  have hsame : job.generationOutputs = outputs := by
    rw [houtputs] at houtputs'
    cases houtputs'
    rfl
  have hjobOutput : job.compilerOutput = output := by
    rw [hsame, hfound] at hfound'
    exact (Option.some.inj hfound').symm
  have hroom : ∀ target ∈ chunk.ids, ∀ p ∈ sources, base.Room
      (builder.role.place ctx.project cwd target ++ builder.role.fileNames p) :=
    hemptied.room horderly hvalid hadmissible hrooms
  have haside : ∀ target ∈ chunk.ids, ∀ p ∈ sources, Aside (argumentPlace temp n)
      (builder.role.place ctx.project cwd target ++ builder.role.fileNames p) := by
    intro target ht p hp
    exact argument_aside (not_prefix_of_paved (by simp [hnone]) (hthere target ht))
      (not_prefix_of_paved (hroom target ht p hp).free husable'.paved)
  refine ⟨job, n, base, files, hprepare, ?_, hemptied, hthere, hnone, hchanged⟩
  exact
    { sources_eq := hsources
      outputs := hsame ▸ hspells
      output := hjobOutput ▸ houtput
      argumentFile := hargument
      admissible := hfree
      told := ⟨file, htold, hfileOutput, hfileSources⟩
      held := ⟨content, hheld⟩
      aside := haside
      room := fun target ht p hp => by
        refine (hroom target ht p hp).contained hchanged ?_ (by simp)
        rintro _ rfl
        exact (haside target ht p hp).1 }

end Build

end GroovyRounds
