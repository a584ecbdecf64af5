import GroovyRounds.Proofs.Build.DeliveredRounds
import GroovyRounds.Proofs.FileSystem.Effects

/-!
# Effects of rounds

A round that goes well leaves a tree that is decided by its sources: its output
directories are there, its stub directories hold its stubs only, and the file of
every source lies where it belongs (`RoundDone.turns`). All else is as it was.
-/

namespace GroovyRounds

open FileSystem Path

-- ---------------------------------------------------------------------------
-- The parts of a round
-- ---------------------------------------------------------------------------

/-- Directories are made. -/
def directoriesEffect (goals : Set Location) : Effect := fun place sight =>
  sight = .directory ∧ ∃ goal ∈ goals, place <+: goal

/-- Directories are made anew, with nothing in them. -/
def emptyEffect (goals : Set Location) : Effect := fun place sight =>
  directoriesEffect goals place sight ∨
    sight = .nothing ∧ ∃ goal ∈ goals, goal <+: place ∧ place ≠ goal

/-- The stub directories of a round of stubs are made anew. -/
def roleEffect (ctx : Context) (role : Role) (chunk : Chunk) : Effect :=
  match role with
  | .stubs => emptyEffect (stubPlaces ctx chunk)
  | .classes => .none

/-- Where the packages of a round's files lie. -/
def packagePlaces (chunk : Chunk) (place : TargetId → Location) (owner : Path → TargetId)
    (sources : List Path) : Set Location :=
  {goal | ∃ p ∈ sources, goal = place chunk.representative.toTargetId ++ ["pkg"] ∨
    goal = place (owner p) ++ ["pkg"]}

/-- The file of each source comes to its owner. -/
def deliveryEffect (chunk : Chunk) (place : TargetId → Location) (role : Role)
    (owner : Path → TargetId) (content : Path → List UInt8) (sources : List Path) : Effect :=
  fun goal sight =>
    directoriesEffect (packagePlaces chunk place owner sources) goal sight ∨
      (∃ p ∈ sources, goal = place (owner p) ++ role.fileNames p ∧ sight = .file (content p)) ∨
      ∃ p ∈ sources, owner p ≠ chunk.representative.toTargetId ∧
        goal = place chunk.representative.toTargetId ++ role.fileNames p ∧ sight = .nothing

namespace Build

variable {ctx : Context} {chunk : Chunk} {cwd : Path} {role : Role} {owner : Path → TargetId}
variable {content : Path → List UInt8} {sources : List Path} {place : TargetId → Location}
variable {goals : Set Location} {data temp : Location} {a b opened empty : FileSystem}

theorem turns_directories (h : Contained ∅ goals a b) (ha : a.Tidy)
    (hpaved : ∀ goal ∈ goals, ∀ above, above <+: goal → b.node? above = some .directory) :
    (directoriesEffect goals).Turns a b where
  cwd := h.cwd
  tidy := h.tidy ha
  seen other sight := by
    rintro ⟨rfl, goal, hgoal, hway⟩
    exact sight_eq_directory_iff.mpr (hpaved goal hgoal other hway)
  spared other hspares := by
    refine congrArg Sight.ofNode (h.same (by simp) fun goal hgoal hway => ?_)
    exact hspares .directory ⟨rfl, goal, hgoal, hway⟩

theorem turns_empty (h : Contained goals goals a b) (ha : a.Tidy)
    (hlaid : ∀ goal ∈ goals, b.Laid goal) : (emptyEffect goals).Turns a b where
  cwd := h.cwd
  tidy := h.tidy ha
  seen other sight := by
    rintro (⟨rfl, goal, hgoal, hway⟩ | ⟨rfl, goal, hgoal, hbelow, hne⟩)
    · exact sight_eq_directory_iff.mpr ((hlaid goal hgoal).paved other hway)
    · exact sight_eq_nothing_iff.mpr ((hlaid goal hgoal).vacant other hbelow hne)
  spared other hspares := by
    refine congrArg Sight.ofNode (h.same (fun goal hgoal hbelow => ?_) fun goal hgoal hway => ?_)
    · by_cases heq : other = goal
      · exact hspares .directory (.inl ⟨rfl, goal, hgoal, heq ▸ List.prefix_refl _⟩)
      · exact hspares .nothing (.inr ⟨rfl, goal, hgoal, hbelow, heq⟩)
    · exact hspares .directory (.inl ⟨rfl, goal, hgoal, hway⟩)

theorem turns_role (h : Emptied ctx role chunk a b) (ha : a.Tidy) :
    (roleEffect ctx role chunk).Turns a b := by
  cases role with
  | stubs =>
    refine turns_empty h.2.2 ha ?_
    rintro _ ⟨target, ht, rfl⟩
    exact h.2.1 target ht
  | classes =>
    cases h
    exact .refl ha

/-- The file of a source lies in its package. -/
theorem dropLast_filePlace (directory : Location) (role : Role) (p : Path) :
    (directory ++ role.fileNames p).dropLast = directory ++ ["pkg"] := by
  simp [Role.fileNames]

theorem turns_delivery
    (h : Contained (filePlaces chunk place role owner sources)
      (filePlaces chunk place role owner sources) a b) (ha : a.Tidy)
    (hfree : ∀ goal ∈ filePlaces chunk place role owner sources, a.node? goal ≠ some .directory)
    (hdelivered : Delivered chunk place role owner content sources b)
    (hpackaged : Packaged (place chunk.representative.toTargetId) sources b) :
    (deliveryEffect chunk place role owner content sources).Turns a b := by
  have hspeaks : ∀ goal ∈ filePlaces chunk place role owner sources,
      ∃ sight, deliveryEffect chunk place role owner content sources goal sight ∧
        sight ≠ .directory := by
    have hthere (p : Path) (hp : p ∈ sources) :
        ∃ sight, deliveryEffect chunk place role owner content sources
          (place (owner p) ++ role.fileNames p) sight ∧ sight ≠ .directory :=
      ⟨_, .inr (.inl ⟨p, hp, rfl, rfl⟩), nofun⟩
    rintro _ ⟨p, hp, rfl | rfl⟩
    · by_cases howner : owner p = chunk.representative.toTargetId
      · exact howner ▸ hthere p hp
      · exact ⟨_, .inr (.inr ⟨p, hp, howner, rfl, rfl⟩), nofun⟩
    · exact hthere p hp
  have hseen : ∀ goal sight, deliveryEffect chunk place role owner content sources goal sight →
      b.sight goal = sight := by
    rintro goal sight (⟨rfl, _, ⟨p, hp, rfl | rfl⟩, hway⟩ | ⟨p, hp, rfl, rfl⟩ |
      ⟨p, hp, howner, rfl, rfl⟩)
    · exact sight_eq_directory_iff.mpr (hpackaged p hp goal hway)
    · refine sight_eq_directory_iff.mpr ((hdelivered.there p hp).reachable.directories goal
        (hway.trans (prefix_package _ _ _)) ?_)
      rintro rfl
      exact absurd hway.length_le (by simp [Role.fileNames])
    · exact sight_eq_file_iff.mpr (hdelivered.there p hp).file
    · exact sight_eq_nothing_iff.mpr (hdelivered.gone p hp howner)
  refine ⟨h.cwd, h.tidy ha, hseen, fun other hspares => ?_⟩
  rcases h.nodes other with hsame | ⟨root, hroot, hbelow⟩ | ⟨-, -, goal, hgoal, hway⟩
  · exact congrArg Sight.ofNode hsame
  · -- Below a file there is nothing, neither before nor afterwards.
    obtain ⟨sight, hsight, hnot⟩ := hspeaks root hroot
    have hne : root ≠ other := by
      rintro rfl
      exact hspares sight hsight
    have hafter : b.node? root ≠ some .directory := fun hdirectory =>
      hnot ((hseen root sight hsight).symm.trans (sight_eq_directory_iff.mpr hdirectory))
    rw [sight_eq_nothing_iff.mpr ((h.tidy ha).none_below hafter hbelow hne),
      sight_eq_nothing_iff.mpr (ha.none_below (hfree root hroot) hbelow hne)]
  · obtain ⟨sight, hsight, -⟩ := hspeaks goal hgoal
    have hne : other ≠ goal := by
      rintro rfl
      exact hspares sight hsight
    refine absurd ?_ (hspares .directory)
    obtain ⟨p, hp, hat⟩ := hgoal
    have hpackage := prefix_dropLast hway hne
    rcases hat with rfl | rfl
    · rw [dropLast_filePlace] at hpackage
      exact .inl ⟨rfl, _, ⟨p, hp, .inl rfl⟩, hpackage⟩
    · rw [dropLast_filePlace] at hpackage
      exact .inl ⟨rfl, _, ⟨p, hp, .inr rfl⟩, hpackage⟩

-- ---------------------------------------------------------------------------
-- Whole rounds
-- ---------------------------------------------------------------------------

/-- What a round does to a tree. -/
def roundEffect (ctx : Context) (chunk : Chunk) (cwd : Path) (role : Role)
    (owner : Path → TargetId) (content : Path → List UInt8) (sources : List Path) : Effect :=
  if sources = [] then .none
  else (directoriesEffect (outputPlaces chunk cwd)).andThen ((roleEffect ctx role chunk).andThen
    (deliveryEffect chunk (role.place ctx.project cwd) role owner content sources))

/-- A round that went well had its effect. -/
theorem RoundDone.turns (h : RoundDone ctx chunk cwd role owner content sources a b)
    (ha : a.Tidy) : (roundEffect ctx chunk cwd role owner content sources).Turns a b := by
  rw [RoundDone] at h
  rw [roundEffect]
  split at h
  · rename_i hnil
    rw [if_pos hnil, h]
    exact .refl ha
  · rename_i hne
    rw [if_neg hne]
    obtain ⟨opened, empty, h⟩ := h
    have hopened : (directoriesEffect (outputPlaces chunk cwd)).Turns a opened := by
      refine turns_directories h.opens ha ?_
      rintro _ ⟨target, ht, rfl⟩
      exact h.paved target ht
    have hempty := turns_role h.empties hopened.tidy
    exact hopened.andThen (hempty.andThen (turns_delivery (h.fills hempty.tidy.rooted)
      hempty.tidy h.free h.delivered h.packaged))

-- ---------------------------------------------------------------------------
-- Where a round has its effect
-- ---------------------------------------------------------------------------

section
variable {root : Location} {folders files : Set Location}
variable (howner : ∀ p ∈ sources, owner p ∈ chunk.ids)

/-- Directories are made on the ways to folders, and to what lies below the root. -/
theorem within_directories
    (h : ∀ goal ∈ goals, (∃ folder ∈ folders, goal <+: folder) ∨ root <+: goal) :
    (directoriesEffect goals).Within root folders files where
  directory other := by
    rintro ⟨-, goal, hgoal, hway⟩
    rcases h goal hgoal with ⟨folder, hfolder, hup⟩ | hdown
    · exact .inl ⟨folder, hfolder, hway.trans hup⟩
    · exact .inr (List.prefix_or_prefix_of_prefix hway hdown)
  file _ _ h := nomatch h.1
  nothing _ h := nomatch h.1

theorem within_role (horderly : Orderly ctx chunk cwd data temp) :
    (roleEffect ctx role chunk).Within (data ++ ["groovyStubs"]) folders files := by
  cases role with
  | classes => exact Effect.within_none
  | stubs =>
    have hbelow : ∀ goal ∈ stubPlaces ctx chunk, data ++ ["groovyStubs"] <+: goal := by
      rintro _ ⟨target, -, rfl⟩
      rw [horderly.stubPlace_names]
      exact List.prefix_append _ _
    have hmade : (directoriesEffect (stubPlaces ctx chunk)).Within (data ++ ["groovyStubs"]) folders
        files := within_directories fun goal hgoal => .inr (hbelow goal hgoal)
    refine ⟨fun other => ?_, fun other content => ?_, fun other => ?_⟩
    · rintro (hmake | ⟨hnot, -⟩)
      · exact hmade.directory other hmake
      · cases hnot
    · rintro (hmake | ⟨hnot, -⟩)
      · exact hmade.file other content hmake
      · cases hnot
    · rintro (hmake | ⟨-, goal, hgoal, hunder, -⟩)
      · exact hmade.nothing other hmake
      · exact .inr ((hbelow goal hgoal).trans hunder)

include howner

/-- The files of sources are delivered to files of the effect, or deep below the root. -/
theorem within_delivery
    (hfiles : ∀ target ∈ chunk.ids, ((∃ folder ∈ folders, place target ++ ["pkg"] <+: folder) ∧
        ∀ p ∈ sources, place target ++ role.fileNames p ∈ files) ∨
      root <+: place target ∧ root.length + Effect.fileDepth ≤ (place target).length) :
    (deliveryEffect chunk place role owner content sources).Within root folders files := by
  have hrep : chunk.representative.toTargetId ∈ chunk.ids := List.mem_cons_self
  have hmade : (directoriesEffect (packagePlaces chunk place owner sources)).Within root folders
      files := by
    refine within_directories ?_
    have hpackage (target : TargetId) (ht : target ∈ chunk.ids) :
        (∃ folder ∈ folders, place target ++ ["pkg"] <+: folder) ∨
          root <+: place target ++ ["pkg"] :=
      (hfiles target ht).imp (·.1) fun hdeep => hdeep.1.trans (List.prefix_append _ _)
    rintro _ ⟨p, hp, rfl | rfl⟩
    · exact hpackage _ hrep
    · exact hpackage _ (howner p hp)
  have hfile (target : TargetId) (ht : target ∈ chunk.ids) (p : Path) (hp : p ∈ sources) :
      place target ++ role.fileNames p ∈ files ∨ root <+: place target ++ role.fileNames p ∧
        root.length + Effect.fileDepth < (place target ++ role.fileNames p).length := by
    refine (hfiles target ht).imp (fun h => h.2 p hp) fun ⟨hbelow, hlong⟩ =>
      ⟨hbelow.trans (List.prefix_append _ _), ?_⟩
    simp only [List.length_append, Role.fileNames, List.length_cons]
    omega
  refine ⟨fun other => ?_, fun other content => ?_, fun other => ?_⟩
  · rintro (hmake | ⟨p, -, -, hnot⟩ | ⟨p, -, -, -, hnot⟩)
    · exact hmade.directory other hmake
    · cases hnot
    · cases hnot
  · rintro (hmake | ⟨p, hp, rfl, -⟩ | ⟨p, -, -, -, hnot⟩)
    · exact hmade.file other content hmake
    · exact hfile _ (howner p hp) p hp
    · cases hnot
  · rintro (hmake | ⟨p, -, -, hnot⟩ | ⟨p, hp, -, rfl, -⟩)
    · exact hmade.nothing other hmake
    · cases hnot
    · exact (hfile _ hrep p hp).imp id (·.1)

/-- A round has its effect in the output directories and in the directory of stubs. -/
theorem within_round (horderly : Orderly ctx chunk cwd data temp)
    (hfolders : ∀ target ∈ chunk.ids, outputPlace cwd target ++ ["pkg"] ∈ folders)
    (hfiles : ∀ target ∈ chunk.ids, ∀ p ∈ sources,
      outputPlace cwd target ++ Role.classes.fileNames p ∈ files) :
    (roundEffect ctx chunk cwd role owner content sources).Within (data ++ ["groovyStubs"])
      folders files := by
  unfold roundEffect
  split
  · exact Effect.within_none
  have houtputs : (directoriesEffect (outputPlaces chunk cwd)).Within (data ++ ["groovyStubs"])
      folders files := by
    refine within_directories ?_
    rintro _ ⟨target, ht, rfl⟩
    exact .inl ⟨_, hfolders target ht, List.prefix_append _ _⟩
  refine houtputs.andThen ((within_role horderly).andThen (within_delivery howner ?_))
  intro target ht
  cases role with
  | classes => exact .inl ⟨⟨_, hfolders target ht, List.prefix_refl _⟩, hfiles target ht⟩
  | stubs =>
    right
    rw [Role.place, horderly.stubPlace_names]
    exact ⟨List.prefix_append _ _, by simp [Effect.fileDepth]⟩

end

end Build

end GroovyRounds
