import GroovyRounds.Project.File
import GroovyRounds.Proofs.Results

/-!
# Project files that load

A mistake in a project file is reported as one if the file is a text that can be
read as a value, or fails to be one, and every value that is taken out of it is
of the sort that its place asks for (`ends_load`). Whether names are missing,
kinds unknown, modules named twice or chunks empty does not matter then.
-/

namespace GroovyRounds

-- ---------------------------------------------------------------------------
-- Sorts of values
-- ---------------------------------------------------------------------------

namespace Json

/-- The value is a text. -/
def IsText : Json → Prop
  | .scalar (.text _) => True
  | _ => False

/-- The value is no array and no object. -/
def IsScalar : Json → Prop
  | .scalar _ => True
  | _ => False

/-- The value lists members of a kind: an array of them, or an object or a text, whose members are
texts. -/
def Lists (Kind : Json → Prop) : Json → Prop
  | .array items => ∀ item ∈ items, Kind item
  | .object _ => True
  | .scalar (.text _) => True
  | .scalar _ => False

/-- Nothing is said of an SDK, or it is an object whose home, if there is one, is a text. -/
def IsSdk (sdk : Json) : Prop :=
  sdk.isVoid = true ∨ ∃ entries, sdk = .object entries ∧
    let home := (lookup entries "home").getD .null
    home.isVoid = true ∨ home.IsText

end Json

namespace ProjectFile

/-- The values of a module are of the sorts that their places ask for. -/
structure SoundModule (entries : Entries) : Prop where
  name : ((Json.lookup entries "name").getD .null).IsScalar
  sdk : ((Json.lookup entries "sdk").getD .null).IsSdk
  output : ((Json.lookup entries "output").getD .null).isVoid = true ∨
    ((Json.lookup entries "output").getD .null).IsText
  sources : ((Json.lookup entries "sources").getD (.array [])).Lists Json.IsText
  classpath : ((Json.lookup entries "classpath").getD (.array [])).Lists Json.IsText

/-- The values of a project are of the sorts that their places ask for. Modules without a name are
not looked at. -/
structure SoundEntries (entries : Entries) : Prop where
  modules : ∀ items, Json.lookup entries "modules" = some (.array items) →
    ∀ module, .object module ∈ items →
      ((Json.lookup module "name").getD .null).isVoid = false → SoundModule module
  chunks : ((Json.lookup entries "chunks").getD .null).isVoid = true ∨
    ((Json.lookup entries "chunks").getD .null).Lists (Json.Lists Json.IsScalar)
  dataDir : ((Json.lookup entries "data_dir").getD (.text ".gbuild")).IsText

/-- The content is a text. If it is read as an object, its values are of the right sorts, and if
it is not read, it is malformed. -/
def SoundContent (content : List UInt8) : Prop :=
  ∃ text, Text.Utf8.decodeText content = some text ∧
    (∀ entries, Json.read text = .ok (.object entries) → SoundEntries entries) ∧
    ∀ fault, Json.read text = .error fault → fault = .malformed

end ProjectFile

/-- The path can be looked up, and a file at it is sound. -/
structure SoundProject (files : FileSystem) (path : Path) : Prop where
  probed : ∃ node?, files.probe path = .ok node?
  content : ∀ content executable, files.probe path = .ok (some (.file content executable)) →
    ProjectFile.SoundContent content

-- ---------------------------------------------------------------------------
-- Values by place
-- ---------------------------------------------------------------------------

/-- The value is one of these, or the fault is reported. -/
abbrev EndsReported {α : Type} (Q : α → Prop) (x : Except ProjectFault α) : Prop :=
  Ends Q (fun fault => fault.isReported = true) x

namespace Json

variable {value : Json} {Kind : Json → Prop}

theorem reports_asText (h : value.IsText) : EndsReported (fun _ => True) value.asText := by
  unfold asText
  split
  · trivial
  · rename_i hother
    cases value with
    | scalar s =>
      cases s with
      | text s => exact absurd rfl (hother s)
      | _ => exact h.elim
    | _ => exact h.elim

theorem reports_asScalar (h : value.IsScalar) : EndsReported (fun _ => True) value.asScalar := by
  cases value with
  | scalar s => trivial
  | _ => exact h.elim

/-- The members of a value that lists members of a kind are of that kind, if texts are. -/
theorem reports_members (h : value.Lists Kind) (htexts : ∀ s, Kind (.scalar (.text s))) :
    EndsReported (fun items => ∀ item ∈ items, Kind item) value.members := by
  cases value with
  | array items => exact h
  | object entries =>
    refine List.forall_mem_map.mpr fun entry _ => htexts entry.1
  | scalar s =>
    cases s with
    | text s => exact List.forall_mem_map.mpr fun point _ => htexts _
    | _ => exact h.elim

theorem reports_asPaths (root : Path) (h : value.Lists IsText) :
    EndsReported (fun _ => True) (value.asPaths root) := by
  refine .bind (reports_members h fun _ => trivial) fun items hitems => ?_
  refine (Ends.mapM (Q := fun _ => True) fun item hitem => ?_).imp fun _ _ => trivial
  exact (reports_asText (hitems item hitem)).bind fun _ _ => .pure trivial

end Json

-- ---------------------------------------------------------------------------
-- Modules and chunks
-- ---------------------------------------------------------------------------

namespace ProjectFile

variable {entries : Entries}

theorem reports_readKind (name kind : Json) :
    EndsReported (fun _ => True) (readKind name kind) := by
  unfold readKind
  split
  · split
    · trivial
    · rfl
  · rfl

theorem reports_readSdk {sdk : Json} (name : Json) (h : sdk.IsSdk) :
    EndsReported (fun _ => True) (readSdk name sdk) := by
  unfold readSdk
  split
  · trivial
  · rename_i hvoid
    obtain hother | ⟨entries, rfl, hhome⟩ := h
    · exact absurd hother hvoid
    · dsimp only
      split
      · rfl
      · rename_i hthere
        exact (Json.reports_asText (hhome.resolve_left hthere)).bind fun _ _ => .pure trivial

theorem reports_readOutput {output : Json} (root : Path)
    (h : output.isVoid = true ∨ output.IsText) :
    EndsReported (fun _ => True) (readOutput root output) := by
  unfold readOutput
  split
  · trivial
  · rename_i hvoid
    exact (Json.reports_asText (h.resolve_left hvoid)).bind fun _ _ => .pure trivial

theorem reports_moduleEntries (entry : Json) :
    EndsReported (fun found => entry = .object found.2 ∧ found.1.isVoid = false ∧
      found.1 = (Json.lookup found.2 "name").getD .null) (moduleEntries entry) := by
  unfold moduleEntries
  split
  · dsimp only
    split
    · rfl
    · rename_i hname
      exact ⟨rfl, by simpa using hname, rfl⟩
  · rfl

theorem reports_readTarget (root : Path) (h : SoundModule entries) :
    EndsReported (fun _ => True)
      (readTarget root ((Json.lookup entries "name").getD .null) entries) := by
  unfold readTarget
  refine .bind (reports_readKind _ _) fun _ _ => ?_
  refine .bind (reports_readSdk _ h.sdk) fun _ _ => ?_
  refine .bind (reports_readOutput root h.output) fun _ _ => ?_
  exact (Json.reports_asScalar h.name).bind fun _ _ => .pure trivial

theorem reports_readModule (path root : Path) (before : List Module) {entry : Json}
    (h : ∀ entries, entry = .object entries →
      ((Json.lookup entries "name").getD .null).isVoid = false → SoundModule entries) :
    EndsReported (fun _ => True) (readModule path root before entry) := by
  unfold readModule
  refine .bind (reports_moduleEntries entry) fun found ⟨hentry, hnamed, hname⟩ => ?_
  obtain ⟨name, entries⟩ := found
  obtain rfl : name = (Json.lookup entries "name").getD .null := hname
  have hsound := h entries hentry hnamed
  refine .bind (reports_readTarget root hsound) fun target _ => ?_
  have hpaths : EndsReported (fun _ => True) (do
      let sources ← ((Json.lookup entries "sources").getD (.array [])).asPaths root
      let classpath ← ((Json.lookup entries "classpath").getD (.array [])).asPaths root
      return before ++ [⟨target, sources, classpath⟩]) :=
    .bind (Json.reports_asPaths root hsound.sources) fun _ _ =>
      (Json.reports_asPaths root hsound.classpath).bind fun _ _ => .pure trivial
  split
  · rfl
  · exact hpaths

theorem reports_readChunk (modules : List Module) {entry : Json}
    (h : entry.Lists Json.IsScalar) : EndsReported (fun _ => True) (readChunk modules entry) := by
  unfold readChunk
  refine .bind (Json.reports_members h fun _ => trivial) fun items hitems => ?_
  refine .bind (Ends.mapM (Q := fun _ => True) fun item hitem => ?_) fun targets _ => ?_
  · refine .bind (Json.reports_asScalar (hitems item hitem)) fun name _ => ?_
    split
    · trivial
    · rfl
  · split
    · trivial
    · rfl

theorem reports_readChunks (modules : List Module) {value : Json}
    (h : value.isVoid = true ∨ value.Lists (Json.Lists Json.IsScalar)) :
    EndsReported (fun _ => True) (readChunks modules value) := by
  unfold readChunks
  split
  · trivial
  · rename_i hvoid
    refine .bind (Json.reports_members (h.resolve_left hvoid) fun _ => trivial)
      fun items hitems => ?_
    exact (Ends.mapM fun item hitem => reports_readChunk modules (hitems item hitem)).imp
      fun _ _ => trivial

end ProjectFile

-- ---------------------------------------------------------------------------
-- Whole files
-- ---------------------------------------------------------------------------

namespace ProjectDescription

open ProjectFile

theorem reports_moduleItems (path : Path) (entries : Entries) :
    EndsReported (fun items => Json.lookup entries "modules" = some (.array items))
      (moduleItems path entries) := by
  unfold moduleItems
  split
  · assumption
  · rfl

theorem reports_topEntries (path : Path) (value : Json) :
    EndsReported (fun entries => value = .object entries) (topEntries path value) := by
  unfold topEntries
  split
  · exact rfl
  · rfl

theorem reports_ofJson (path root : Path) {value : Json}
    (h : ∀ entries, value = .object entries → SoundEntries entries) :
    EndsReported (fun _ => True) (ofJson path root value) := by
  unfold ofJson
  refine .bind (reports_topEntries path value) fun entries hentries => ?_
  have hsound := h entries hentries
  refine .bind (reports_moduleItems path entries) fun items hitems => ?_
  refine .bind (Ends.foldlM (Q := fun _ => True) (fun before _ item hitem => ?_) trivial)
    fun modules _ => ?_
  · refine reports_readModule path root before fun found hfound => ?_
    subst hfound
    exact hsound.modules items hitems found hitem
  · refine .bind (reports_readChunks modules hsound.chunks) fun chunks _ => ?_
    exact (Json.reports_asText hsound.dataDir).bind fun _ _ => .pure trivial

/-- The fault of a project file is reported, unless the file is not sound. -/
theorem ends_load (files : FileSystem) (cwd path : Path) :
    Ends (fun _ => True) (fun fault => SoundProject files path → fault.isReported = true)
      (load files cwd path) := by
  unfold load
  split
  · rename_i hprobe
    rintro ⟨⟨node?, hfound⟩, -⟩
    rw [hprobe] at hfound
    cases hfound
  · rename_i content executable hprobe
    unfold ofBytes
    split
    · rename_i hdecode
      intro hsound
      obtain ⟨text, htext, -⟩ := hsound.content content executable hprobe
      rw [hdecode] at htext
      cases htext
    · rename_i text hdecode
      have hcontent (hsound : SoundProject files path) :
          (∀ entries, Json.read text = .ok (.object entries) → SoundEntries entries) ∧
            ∀ fault, Json.read text = .error fault → fault = .malformed := by
        obtain ⟨other, htext, hrest⟩ := hsound.content content executable hprobe
        rw [hdecode] at htext
        cases htext
        exact hrest
      split
      · rename_i value hread
        have hofJson (hsound : SoundProject files path) :
            EndsReported (fun _ => True) (ofJson path (path.resolve cwd).parent value) :=
          reports_ofJson path _ fun entries hentries =>
            (hcontent hsound).1 entries (hentries ▸ hread)
        cases hof : ofJson path (path.resolve cwd).parent value with
        | ok description => trivial
        | error fault => exact fun hsound => (hofJson hsound).of_error hof
      · rename_i fault hread
        intro hsound
        rw [(hcontent hsound).2 fault hread]
        rfl
  · exact fun _ => rfl

end ProjectDescription

end GroovyRounds
