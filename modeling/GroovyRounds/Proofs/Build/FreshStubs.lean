import GroovyRounds.Proofs.Build.Incremental
import GroovyRounds.Proofs.Build.Preparation
import GroovyRounds.Proofs.Build.StubPlaces
import GroovyRounds.Proofs.Canonical
import GroovyRounds.Proofs.FileSystem.Renewal

/-!
# Stub directories made anew

Each target's stub directory is where the name of its module leads from the
directory of all stubs, whatever that name says. Only what lies there is lost, and
only directories on the ways there are new (`redone_stubOutputs`). So nothing
outside the directory of all stubs is lost if no name climbs out of it, and every
directory is empty in the end unless a later one lies in it or around it
(`stubs_made_anew`).
-/

namespace GroovyRounds

open FileSystem Path Program

variable {ctx : Context} {builder : String} {chunk : Chunk} {target : TargetId}
variable {directory : Path} {cleared made : Set Path} {targets : List TargetId}
variable {outputs : Build.Outputs} {v w : World}

-- ---------------------------------------------------------------------------
-- Names of modules
-- ---------------------------------------------------------------------------

namespace TargetId

/-- The name of the module leads down from where it is read. -/
def Descends (target : TargetId) : Prop :=
  (Path.ofString target.name.display).isAbsolute = false ∧
    ".." ∉ (Path.ofString target.name.display).names

instance (target : TargetId) : Decidable target.Descends :=
  inferInstanceAs (Decidable (_ ∧ _))

/-- Where the stubs of a target lie below the directory of all stubs. -/
def stubFolders (target : TargetId) : List String :=
  (Path.ofString target.name.display).names ++ [target.kind.directory]

theorem stubFolders_ne_nil (target : TargetId) : target.stubFolders ≠ [] := by
  simp [stubFolders]

theorem isComponent_stubFolders : ∀ name ∈ target.stubFolders, IsComponent name := by
  intro name hname
  rcases List.mem_append.mp hname with hname | hname
  · exact valid_ofString _ name hname
  · rw [List.mem_singleton.mp hname]
    exact target.kind.isComponent_directory

theorem directory_ne_dots (kind : TargetKind) : kind.directory ≠ ".." := by
  cases kind <;> decide

theorem Descends.no_dots (h : target.Descends) : ".." ∉ target.stubFolders := by
  rw [stubFolders, List.mem_append, List.mem_singleton, not_or]
  exact ⟨h.2, Ne.symm (directory_ne_dots _)⟩

end TargetId

/-- The stub directory of a target ends with the name of its kind. -/
theorem Project.exists_stubDirectory_names {project : Project}
    (h : project.stubDirectory target = .ok directory) :
    ∃ names, directory.names = names ++ [target.kind.directory] := by
  unfold stubDirectory at h
  split at h
  · cases h
    rw [child_eq target.kind.isComponent_directory]
    exact ⟨_, rfl⟩
  · cases h

theorem Project.stubDirectory_eq_inside {project : Project} (hdescends : target.Descends)
    (h : project.stubDirectory target = .ok directory) :
    directory = project.stubRoot.inside target.stubFolders := by
  unfold stubDirectory at h
  split at h
  · rename_i name htext
    have hrelative : (Path.ofString name.display).isAbsolute = false := by
      have hdisplay := hdescends.1
      rwa [htext] at hdisplay
    cases h
    rw [child_eq target.kind.isComponent_directory, TargetId.stubFolders, ← inside_inside, htext]
    congr 1
    exact if_neg (by simp [hrelative])
  · cases h

namespace Build

-- ---------------------------------------------------------------------------
-- What may be lost
-- ---------------------------------------------------------------------------

/-- The files are as after clearing and making some directories. -/
def FilesRedone (cleared made : Set Path) (before after : World) : Prop :=
  Redone cleared made before.files after.files

instance : Std.Refl (FilesRedone cleared made) := ⟨fun w => .refl cleared made w.files⟩

instance : IsTrans World (FilesRedone cleared made) := ⟨fun _ _ _ => Redone.trans⟩

theorem redone_onFiles {α : Type} {action : FileAction α} (h : Keeps (Redone cleared made) action) :
    Keeps (FilesRedone cleared made) (onFiles action) :=
  fun w => h w.files

theorem redone_probe {p : Path} :
    Keeps (FilesRedone cleared made) (withFiles (FileAction.probe p)) := by
  unfold withFiles
  refine Keeps.bind (redone_onFiles (FileAction.keeps_probe p)) fun result => ?_
  split
  · exact Keeps.pure _
  · exact Keeps.throw _

theorem redone_recreateDirectory (h : directory ∈ cleared) (h' : directory ∈ made) :
    Keeps (FilesRedone cleared made) (recreateDirectory directory) := by
  refine Keeps.bind ?_ fun _ => ?_
  · unfold clearDirectory
    refine Keeps.bind redone_probe fun found => ?_
    split
    · refine Keeps.bind (redone_onFiles (FileAction.redone_removeTree h)) fun result => ?_
      split
      · exact Keeps.pure _
      · exact Keeps.throw _
    · exact Keeps.pure _
  · unfold makeDirectory
    refine Keeps.bind (redone_onFiles (FileAction.redone_makeDirectories h' false)) fun result => ?_
    split
    · exact Keeps.pure _
    · exact Keeps.throw _

/-- The stub directories of a chunk. -/
def stubDirectories (ctx : Context) (chunk : Chunk) : Set Path :=
  {directory | ∃ target ∈ chunk.ids, ctx.project.stubDirectory target = .ok directory}

/-- Whether the stub directories are made or not, only they are made anew. -/
theorem redone_stubOutputs (ctx : Context) (chunk : Chunk) :
    Keeps (FilesRedone (stubDirectories ctx chunk) (stubDirectories ctx chunk))
      (stubOutputs ctx chunk) := by
  refine Keeps.foldlM (fun outputs target ht => ?_) _
  cases hdirectory : ctx.project.stubDirectory target with
  | error fault => exact Keeps.throw fault
  | ok directory =>
    intro w
    rw [run_bind_of_ok (run_ofExcept (.ok directory) w)]
    have hmade : directory ∈ stubDirectories ctx chunk := ⟨target, ht, hdirectory⟩
    exact Keeps.bind (redone_recreateDirectory hmade hmade) (fun _ => Keeps.pure _) w

/-- Cleaning removes the stubs of an earlier build and nothing else. -/
theorem redone_cleanStubRoot (ctx : Context) (builder : String) :
    Keeps (FilesRedone {ctx.project.stubRoot} ∅) (cleanStubRoot ctx builder) := by
  refine Keeps.bind redone_probe fun found => ?_
  split
  · refine Keeps.bind (redone_onFiles (FileAction.redone_removeTree rfl)) fun result => ?_
    split
    · exact Keeps.pure _
    · refine (sameFiles_tell _ _).mono fun v w hsame => ?_
      rw [FilesRedone, hsame]
      exact .refl _ _ _
  · exact Keeps.pure _

-- ---------------------------------------------------------------------------
-- What is there in the end
-- ---------------------------------------------------------------------------

/-- A directory that was cleared is as it was, or is gone with all that lay in it. -/
theorem clearDirectory_cases (h : clearDirectory directory w = (.ok (), v)) :
    v.files = w.files ∨ v.files = w.files.prune (w.files.goal directory) := by
  unfold clearDirectory at h
  obtain ⟨found, u, hprobe, h⟩ := bind_eq_ok_iff.mp h
  obtain ⟨files, hfound, rfl⟩ := withFiles_eq_ok_iff.mp hprobe
  obtain rfl : files = w.files := by
    simp only [FileAction.probe, run_bind, run_get] at hfound
    cases hresult : w.files.probe directory with
    | error fault =>
      simp only [hresult] at hfound
      cases hfound
    | ok node =>
      simp only [hresult] at hfound
      cases hfound
      rfl
  split at h
  · rw [run_bind, run_onFiles] at h
    rcases FileAction.removeTree_cases directory w.files with ⟨fault, hrefused⟩ | ⟨-, hremoved⟩
    · simp only [hrefused] at h
      cases h
    · simp only [hremoved] at h
      cases h
      exact .inr rfl
  · cases h
    exact .inl rfl

theorem makeDirectory_cases (h : makeDirectory directory w = (.ok (), v)) :
    FileAction.makeDirectories false directory w.files = (.ok (), v.files) := by
  unfold makeDirectory at h
  rw [run_bind, run_onFiles] at h
  cases hmade : FileAction.makeDirectories false directory w.files with
  | mk result files =>
    simp only [hmade] at h
    cases result with
    | error fault => cases h
    | ok _ =>
      cases h
      rfl

theorem madeAnew_of_recreateDirectory {names : List String} {last : String}
    (hrooted : w.files.Rooted) (hnames : directory.names = names ++ [last]) (hlast : last ≠ "..")
    (h : recreateDirectory directory w = (.ok (), v)) :
    MadeAnew directory w.files v.files := by
  obtain ⟨_, u, hclear, hmake⟩ := bind_eq_ok_iff.mp h
  have hcleared := clearDirectory_cases hclear
  have hmade := makeDirectory_cases hmake
  exact .of_make hrooted hnames hlast hcleared hmade

/-- The stub directories are made anew one after another. -/
theorem allMadeAnew_of_foldlM {before : Outputs}
    (hdescends : ∀ target ∈ targets, target.Descends) (hrooted : w.files.Rooted)
    (hstart : w.files.node? (w.files.start ctx.project.stubRoot) = some .directory)
    (h : (targets.foldlM (fun outputs target => do
      let directory ← ofExcept (ctx.project.stubDirectory target)
      recreateDirectory directory
      return outputs.insert target (withSlashes directory.toString)) before : Build Outputs) w =
        (.ok outputs, v)) :
    AllMadeAnew ((targets.map TargetId.stubFolders).map ctx.project.stubRoot.inside)
      w.files v.files := by
  induction targets generalizing before w with
  | nil =>
    cases h
    exact .nil _
  | cons first targets ih =>
    obtain ⟨hfirst, hothers⟩ := List.forall_mem_cons.mp hdescends
    rw [List.foldlM_cons] at h
    obtain ⟨between, u, hstep, hrest⟩ := bind_eq_ok_iff.mp h
    obtain ⟨directory, _, hfound, hmake⟩ := bind_eq_ok_iff.mp hstep
    rw [run_ofExcept] at hfound
    obtain ⟨hdirectory, rfl⟩ := Prod.mk.inj hfound
    obtain ⟨_, _, hrecreate, hinsert⟩ := bind_eq_ok_iff.mp hmake
    cases hinsert
    obtain ⟨names, hnames⟩ := ctx.project.exists_stubDirectory_names hdirectory
    have hmade := madeAnew_of_recreateDirectory hrooted hnames (TargetId.directory_ne_dots _)
      hrecreate
    obtain rfl := ctx.project.stubDirectory_eq_inside hfirst hdirectory
    have hstart' : u.files.node? (u.files.start ctx.project.stubRoot) = some .directory := by
      rw [hmade.start]
      exact hmade.visited List.nil_prefix
    exact .cons hmade (ih hothers (hmade.rooted hrooted hstart) hstart' hrest)

/-- The last target whose stub directory lies in that of a target or around it is made anew in the
same place. -/
def LastThere (targets : List TargetId) (target : TargetId) : Prop :=
  ∃ front last back, targets = front ++ last :: back ∧ last.stubFolders = target.stubFolders ∧
    ∀ other ∈ back, Aside other.stubFolders target.stubFolders

theorem lastThere_iff : LastThere targets target ↔
    ∃ front back, targets.map TargetId.stubFolders = front ++ target.stubFolders :: back ∧
      ∀ other ∈ back, Aside other target.stubFolders := by
  constructor
  · rintro ⟨front, last, back, rfl, hsame, haside⟩
    refine ⟨front.map TargetId.stubFolders, back.map TargetId.stubFolders, by simp [hsame], ?_⟩
    exact List.forall_mem_map.mpr haside
  · rintro ⟨front, back, hsplit, haside⟩
    obtain ⟨front, rest, rfl, -, hrest⟩ := List.map_eq_append_iff.mp hsplit
    obtain ⟨last, back, rfl, hsame, rfl⟩ := List.map_eq_cons_iff.mp hrest
    exact ⟨front, last, back, rfl, hsame, List.forall_mem_map.mp haside⟩

theorem stubRoot_eq (project : Project) :
    project.stubRoot = project.dataRoot.inside ["groovyStubs"] :=
  child_eq (show IsComponent "groovyStubs" by decide) project.dataRoot

theorem mem_stubDirectories (hdescends : ∀ target ∈ chunk.ids, target.Descends)
    (h : directory ∈ stubDirectories ctx chunk) :
    ∃ folders, ".." ∉ folders ∧ directory = ctx.project.stubRoot.inside folders := by
  obtain ⟨target, ht, hdirectory⟩ := h
  exact ⟨target.stubFolders, (hdescends target ht).no_dots,
    ctx.project.stubDirectory_eq_inside (hdescends target ht) hdirectory⟩

/-- Cleaning removes nothing outside the directory of all stubs. Making the stub directories
removes only what lies where the names of the modules lead, and makes only directories on the ways
there. If no name climbs, that is outside the directory of all stubs only what was missing on the
way to it; and once they are made, a target's directory is there and empty exactly if none that
lies in it or around it was made after it. -/
theorem stubs_made_anew (ctx : Context) (builder : String) (chunk : Chunk) (w : World)
    (hvalid : ctx.project.dataRoot.Valid) (hrooted : w.files.Rooted)
    (hstart : w.files.node? (w.files.start ctx.project.dataRoot) = some .directory) :
    (∀ place, ¬ w.files.goal ctx.project.stubRoot <+: place →
      (cleanStubRoot ctx builder w).2.files.node? place = w.files.node? place) ∧
    Redone (stubDirectories ctx chunk) (stubDirectories ctx chunk) w.files
      (stubOutputs ctx chunk w).2.files ∧
    ((∀ target ∈ chunk.ids, target.Descends) →
      (∀ place, ¬ w.files.goal ctx.project.stubRoot <+: place →
        (stubOutputs ctx chunk w).2.files.node? place = w.files.node? place ∨
          w.files.node? place = none ∧
            (stubOutputs ctx chunk w).2.files.node? place = some .directory ∧
              w.files.Visits ctx.project.stubRoot place) ∧
      ∀ outputs v, stubOutputs ctx chunk w = (.ok outputs, v) → ∀ target ∈ chunk.ids,
        ∃ directory text, outputs.find? target = some text ∧
          ctx.project.stubDirectory target = .ok directory ∧
          ('\\' ∉ directory.toString.toList → Path.ofString text = directory) ∧
          (v.files.isDirectory directory = true ∧ v.files.Vacant (v.files.goal directory) ↔
            LastThere chunk.ids target)) := by
  have hroot := stubRoot_eq ctx.project
  refine ⟨fun place hout => ?_, redone_stubOutputs ctx chunk w, fun hdescends => ⟨?_, ?_⟩⟩
  · rcases (redone_cleanStubRoot ctx builder w).nodes place with hsame | ⟨_, rfl, hbelow⟩ |
      ⟨-, -, _, hnone, -⟩
    · exact hsame
    · exact absurd hbelow hout
    · cases hnone
  · intro place hout
    rcases (redone_stubOutputs ctx chunk w).nodes place with hsame | ⟨directory, hmem, hbelow⟩ |
      ⟨hnone, hdirectory, directory, hmem, hvisits⟩
    · exact .inl hsame
    · obtain ⟨folders, hdots, rfl⟩ := mem_stubDirectories hdescends hmem
      rw [goal_inside _ _ hdots] at hbelow
      exact absurd ((List.prefix_append _ _).trans hbelow) hout
    · obtain ⟨folders, hdots, rfl⟩ := mem_stubDirectories hdescends hmem
      rcases (visits_inside hdots).mp hvisits with hup | ⟨front, -, rfl⟩
      · exact .inr ⟨hnone, hdirectory, hup⟩
      · exact absurd (List.prefix_append _ _) hout
  · intro outputs v h target ht
    have hstart' : w.files.node? (w.files.start ctx.project.stubRoot) = some .directory := by
      rw [hroot]
      exact hstart
    have hall := allMadeAnew_of_foldlM hdescends hrooted hstart' h
    obtain ⟨directory, hdirectory, hfound⟩ := (foldlM_stubOutputs h target).1 ht
    obtain rfl := ctx.project.stubDirectory_eq_inside (hdescends target ht) hdirectory
    refine ⟨_, _, hfound, hdirectory, fun hslashes => ?_, ?_⟩
    · rw [withSlashes_eq hslashes]
      refine ofString_toString (valid_inside ?_ target.isComponent_stubFolders)
      rw [hroot]
      exact valid_inside hvalid (by decide)
    · have hdots := (hdescends target ht).no_dots
      rw [goal_of_cwd_eq hall.cwd, goal_inside _ _ hdots, lastThere_iff]
      refine hall.isDirectory_and_vacant_iff hrooted hstart' ?_ (List.mem_map_of_mem ht)
      exact List.forall_mem_map.mpr fun other hother =>
        ⟨(hdescends other hother).no_dots, other.stubFolders_ne_nil⟩

/-- The stubs of an earlier build lie where those of `core` go. -/
def usedWorld : World :=
  pairWorld [["data"], ["data", "groovyStubs"], ["data", "groovyStubs", "core"],
    ["data", "groovyStubs", "core", "production"],
    ["data", "groovyStubs", "core", "production", "pkg"]]

theorem stubs_made_anew_pair :
    ∃ outputs v, stubOutputs (pairContext []) pairChunk usedWorld = (.ok outputs, v) ∧
      ∀ target ∈ pairChunk.ids, ∃ directory text, outputs.find? target = some text ∧
        Path.ofString text = directory ∧ v.files.isDirectory directory = true ∧
          v.files.Vacant (v.files.goal directory) := by
  obtain ⟨outputs, hmade⟩ : ∃ outputs,
      (stubOutputs (pairContext []) pairChunk usedWorld).1.toOption = some outputs :=
    Option.isSome_iff_exists.mp (by decide +kernel)
  obtain ⟨v, hv⟩ := eq_ok_of_toOption hmade
  have hrooted : usedWorld.files.Rooted := rooted_of_nodes (by decide +kernel)
  have hslashes : ∀ target ∈ pairChunk.ids,
      ∀ directory ∈ ((pairContext []).project.stubDirectory target).toOption,
        '\\' ∉ directory.toString.toList := by
    decide +kernel
  have hlast : ∀ target ∈ pairChunk.ids, LastThere pairChunk.ids target := by
    refine List.forall_mem_cons.mpr ⟨⟨[], _, _, rfl, rfl, by decide +kernel⟩, ?_⟩
    exact List.forall_mem_singleton.mpr ⟨[_], _, [], rfl, rfl, nofun⟩
  refine ⟨outputs, v, hv, fun target ht => ?_⟩
  obtain ⟨directory, text, hfound, hdirectory, htext, hbare⟩ :=
    ((stubs_made_anew (pairContext []) "" pairChunk usedWorld (by decide) hrooted rfl).2.2
      (by decide +kernel)).2 outputs v hv target ht
  have hplain := hslashes target ht directory (by rw [hdirectory]; rfl)
  exact ⟨directory, text, hfound, htext hplain, hbare.mpr (hlast target ht)⟩

/-- The name of a module climbs out of the directory of all stubs, to where sources lie. -/
def climbingChunk : Chunk where
  representative := moduleTarget "../../src"
  others := []

def sourceWorld : World where
  files := {
    nodes := [(["data"], .directory), (["data", "groovyStubs"], .directory), (["src"], .directory),
      (["src", "production"], .directory), (["src", "production", "A.groovy"], .file [] false)]
    cwd := [] }

/-- The stub directory of the second module lies in that of the first. -/
def innerChunk : Chunk where
  representative := moduleTarget "core"
  others := [moduleTarget "core/production/app"]

/-- A source is removed, and a directory that was made empty does not stay so. -/
theorem stubs_not_contained :
    (∃ outputs v, stubOutputs (pairContext []) climbingChunk sourceWorld = (.ok outputs, v) ∧
      sourceWorld.files.node? ["src", "production", "A.groovy"] = some (.file [] false) ∧
      v.files.node? ["src", "production", "A.groovy"] = none) ∧
    ∃ outputs v, stubOutputs (pairContext []) innerChunk sourceWorld = (.ok outputs, v) ∧
      outputs.find? innerChunk.representative.toTargetId =
        some "/data/groovyStubs/core/production" ∧
      v.files.node? ["data", "groovyStubs", "core", "production", "app"] = some .directory := by
  constructor
  · obtain ⟨outputs, hmade⟩ : ∃ outputs,
        (stubOutputs (pairContext []) climbingChunk sourceWorld).1.toOption = some outputs :=
      Option.isSome_iff_exists.mp (by decide +kernel)
    exact ⟨outputs, _, Prod.ext (ok_of_toOption hmade) rfl, rfl, by decide +kernel⟩
  · have hfound : (stubOutputs (pairContext []) innerChunk sourceWorld).1.toOption.bind
        (·.find? innerChunk.representative.toTargetId) =
          some "/data/groovyStubs/core/production" := by
      decide +kernel
    obtain ⟨outputs, hmade, houtput⟩ := Option.bind_eq_some_iff.mp hfound
    exact ⟨outputs, _, Prod.ext (ok_of_toOption hmade) rfl, houtput, by decide +kernel⟩

end Build

end GroovyRounds
