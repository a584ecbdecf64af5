import GroovyRounds.Proofs.OrderedMap
import GroovyRounds.Proofs.Project.Loading
import GroovyRounds.Proofs.Text.Utf8

/-!
# Projects that were loaded

The modules of a project file come out as targets with different names, each
with its own source roots and classpath, and its chunks as the targets that they
name (`load_wellFormed`). A file whose chunks or names are mistaken is never
loaded.
-/

namespace GroovyRounds

-- ---------------------------------------------------------------------------
-- What is asked of a project
-- ---------------------------------------------------------------------------

namespace ProjectFile

/-- The name in the entry of a module. -/
def NameOf (item : Json) (name : Scalar) : Prop :=
  ∃ fields, item = .object fields ∧ Json.lookup fields "name" = some (.scalar name)

/-- The two entries name different modules. -/
def NamedApart (item other : Json) : Prop :=
  ∀ name name', NameOf item name → NameOf other name' → name.sameName name' = false

/-- The list of paths in the entry of a module. -/
def readPaths (root : Path) (fields : Entries) (key : String) : Except ProjectFault (List Path) :=
  ((Json.lookup fields key).getD (.array [])).asPaths root

/-- The chunks of a project file, or nothing. -/
def chunksOf (entries : Entries) : Json :=
  (Json.lookup entries "chunks").getD .null

/-- The chunks are given, and this is the entry of one of them. -/
def ListsChunk (entries : Entries) (entry : Json) : Prop :=
  (chunksOf entries).isVoid = false ∧ ∃ chunks, (chunksOf entries).members = .ok chunks ∧
    entry ∈ chunks

/-- A module is named twice, a chunk names what is no module, or a chunk is empty. -/
inductive Mistaken (entries : Entries) : Prop where
  | repeated {items : List Json} (hitems : Json.lookup entries "modules" = some (.array items))
      (hrepeated : ¬ items.Pairwise NamedApart)
  | unknown {items names : List Json} {entry : Json} {name : Scalar}
      (hitems : Json.lookup entries "modules" = some (.array items))
      (hentry : ListsChunk entries entry) (hnames : entry.members = .ok names)
      (hname : .scalar name ∈ names)
      (hunknown : ∀ item ∈ items, ∀ module, NameOf item module → module.sameName name = false)
  | empty {entry : Json} (hentry : ListsChunk entries entry) (hempty : entry.members = .ok [])

/-- The target is one of these, and the item is its name. -/
def RefersTo (targets : List Target) (item : Json) (target : Target) : Prop :=
  target ∈ targets ∧ ∃ name, item = .scalar name ∧ target.name.sameName name = true

/-- The chunk has the targets that its entry names, in this order. -/
def Names (targets : List Target) (entry : Json) (chunk : Chunk) : Prop :=
  ∃ names, entry.members = .ok names ∧ List.Forall₂ (RefersTo targets) names chunk.targets

end ProjectFile

namespace ProjectDescription

open ProjectFile

/-- The entry of a module declares the target, whose source roots and classpath it gives. -/
structure Declares (d : ProjectDescription) (fields : Entries) (target : Target) : Prop where
  name : Json.lookup fields "name" = some (.scalar target.name)
  sources : ∃ roots, readPaths d.root fields "sources" = .ok roots ∧
    d.project.sourceRoots.find? target.toTargetId = some roots
  classpath : ∃ paths, readPaths d.root fields "classpath" = .ok paths ∧
    d.project.classpath.find? target.toTargetId = some paths

/-- The modules of the file are the targets, in this order and with different names. Each has source
roots and a classpath of its own, and nothing else has. The chunks are those that the file names,
or the targets one by one. -/
structure WellFormed (entries : Entries) (d : ProjectDescription) : Prop where
  declared : ∃ items, Json.lookup entries "modules" = some (.array items) ∧
    List.Forall₂ (fun item target => ∃ fields, item = .object fields ∧ d.Declares fields target)
      items d.targets
  names_apart : d.targets.Pairwise fun target other => target.name.sameName other.name = false
  sourceRoots : d.project.sourceRoots.keys = d.targets.map (·.toTargetId)
  classpath : d.project.classpath.keys = d.targets.map (·.toTargetId)
  ids_nodup : (d.targets.map (·.toTargetId)).Nodup
  chunk_targets : ∀ chunk ∈ d.chunks, chunk.targets ≠ [] ∧ chunk.targets ⊆ d.targets
  alone : (chunksOf entries).isVoid = true →
    d.chunks = d.targets.map fun target => { representative := target, others := [] }
  named : (chunksOf entries).isVoid = false → ∃ chunks, (chunksOf entries).members = .ok chunks ∧
    List.Forall₂ (Names d.targets) chunks d.chunks

/-- The file at the path can be read as an object with these entries. -/
def Reads (files : FileSystem) (path : Path) (entries : Entries) : Prop :=
  ∃ content executable text, files.probe path = .ok (some (.file content executable)) ∧
    Text.Utf8.decodeText content = some text ∧ Json.read text = .ok (.object entries)

end ProjectDescription

-- ---------------------------------------------------------------------------
-- Lists side by side
-- ---------------------------------------------------------------------------

section
variable {α β : Type} {R : α → β → Prop} {as : List α} {bs : List β}

theorem exists_left_of_forall₂ (h : List.Forall₂ R as bs) {b : β} (hb : b ∈ bs) :
    ∃ a ∈ as, R a b := by
  induction h with
  | nil => cases hb
  | cons hone _ ih =>
    rcases List.mem_cons.mp hb with rfl | hb
    · exact ⟨_, List.mem_cons_self, hone⟩
    · obtain ⟨a, ha, hrel⟩ := ih hb
      exact ⟨a, List.mem_cons_of_mem _ ha, hrel⟩

theorem exists_right_of_forall₂ (h : List.Forall₂ R as bs) {a : α} (ha : a ∈ as) :
    ∃ b ∈ bs, R a b :=
  exists_left_of_forall₂ (R := flip R) h.flip ha

theorem forall₂_with_right (h : List.Forall₂ R as bs) :
    List.Forall₂ (fun a b => b ∈ bs ∧ R a b) as bs :=
  ((List.forall₂_and_left (R := flip R) bs as).mpr ⟨fun _ hb => hb, h.flip⟩).flip

/-- What holds of two values of one list holds of what stands beside them in the other. -/
theorem pairwise_of_forall₂ {S : β → β → Prop} {T : α → α → Prop} (h : List.Forall₂ R as bs)
    (hbs : bs.Pairwise S)
    (hstep : ∀ a b, R a b → ∀ a' b', R a' b' → S b b' → T a a') : as.Pairwise T := by
  induction h with
  | nil => exact .nil
  | cons hone hrest ih =>
    obtain ⟨hfirst, hothers⟩ := List.pairwise_cons.mp hbs
    refine List.pairwise_cons.mpr ⟨fun a' ha' => ?_, ih hothers⟩
    obtain ⟨b', hb', hrel⟩ := exists_right_of_forall₂ hrest ha'
    exact hstep _ _ hone a' b' hrel (hfirst b' hb')

end

-- ---------------------------------------------------------------------------
-- Modules
-- ---------------------------------------------------------------------------

namespace ProjectFile

theorem sameName_self (name : Scalar) : name.sameName name = true := by
  simp [Scalar.sameName]

theorem yields_asScalar (value : Json) :
    Yields (fun name => value = .scalar name) value.asScalar := by
  unfold Json.asScalar
  split
  · exact rfl
  · trivial

theorem yields_readTarget (root : Path) (name : Json) (fields : Entries) :
    Yields (fun target => name = .scalar target.name) (readTarget root name fields) := by
  unfold readTarget
  refine .bind (.given _) fun _ _ => ?_
  refine .bind (.given _) fun _ _ => ?_
  refine .bind (.given _) fun _ _ => ?_
  exact (yields_asScalar name).bind fun _ hname => .pure hname

/-- The entry of a module was read as this module. -/
structure IsModule (root : Path) (fields : Entries) (m : Module) : Prop where
  name : Json.lookup fields "name" = some (.scalar m.target.name)
  sources : readPaths root fields "sources" = .ok m.sources
  classpath : readPaths root fields "classpath" = .ok m.classpath

section
variable {modules : List Module} {name : Scalar}

theorem findTarget?_eq_some {target : Target} (h : findTarget? modules name = some target) :
    RefersTo (modules.map (·.target)) (.scalar name) target := by
  obtain ⟨m, hfound, rfl⟩ := Option.map_eq_some_iff.mp h
  have hname := List.find?_some hfound
  exact ⟨List.mem_map_of_mem (List.mem_of_find?_eq_some hfound), name, rfl, hname⟩

theorem findTarget?_eq_none (h : (findTarget? modules name).isSome = false) :
    ∀ m ∈ modules, m.target.name.sameName name = false := by
  intro m hm
  have hnone : findTarget? modules name = none := by simpa using h
  have hall := List.find?_eq_none.mp (Option.map_eq_none_iff.mp hnone) m hm
  simpa using hall

end

/-- A module comes after others under a name of its own. -/
theorem yields_readModule (path root : Path) (before : List Module) (item : Json) :
    Yields (fun after => ∃ m fields, after = before ++ [m] ∧ item = .object fields ∧
      IsModule root fields m ∧
      ∀ earlier ∈ before, earlier.target.name.sameName m.target.name = false)
      (readModule path root before item) := by
  unfold readModule
  refine .bind (reports_moduleEntries item).yields fun (name, fields) ⟨hitem, hvoid, hname⟩ => ?_
  refine .bind (yields_readTarget root name fields) fun target htarget => ?_
  dsimp only at hitem hname hvoid
  subst htarget
  have hlookup : Json.lookup fields "name" = some (.scalar target.name) := by
    cases hfound : Json.lookup fields "name" with
    | none =>
      rw [hname, hfound] at hvoid
      cases hvoid
    | some found =>
      rw [hfound] at hname
      rw [hname]
      rfl
  dsimp only
  split
  · trivial
  · rename_i hnew
    refine .bind (.given _) fun sources hsources => ?_
    refine .bind (.given _) fun classpath hclasspath => ?_
    exact .pure ⟨{ target, sources, classpath }, fields, rfl, hitem,
      ⟨hlookup, hsources, hclasspath⟩, findTarget?_eq_none (eq_false_of_ne_true hnew)⟩

/-- Modules are read one after another, each under a name of its own. -/
theorem yields_modules (path root : Path) (items : List Json) :
    Yields (fun modules =>
      List.Forall₂ (fun item m => ∃ fields, item = .object fields ∧ IsModule root fields m)
        items modules ∧
      modules.Pairwise fun m other => m.target.name.sameName other.target.name = false)
      (items.foldlM (readModule path root) []) := by
  refine Ends.foldlM_each (R := fun taken modules =>
    List.Forall₂ (fun (item : Json) m => ∃ fields, item = .object fields ∧ IsModule root fields m)
      taken modules ∧
      modules.Pairwise fun m other => m.target.name.sameName other.target.name = false)
    (fun taken before ⟨hall, hapart⟩ item _ => ?_) [] ⟨.nil, .nil⟩
  refine (yields_readModule path root before item).imp ?_
  rintro _ ⟨m, fields, rfl, hitem, hm, hnew⟩
  refine ⟨List.rel_append hall (.cons ⟨fields, hitem, hm⟩ .nil), List.pairwise_append.mpr
    ⟨hapart, List.pairwise_singleton _ _, ?_⟩⟩
  intro earlier hearlier other hother
  rw [List.mem_singleton.mp hother]
  exact hnew earlier hearlier

-- ---------------------------------------------------------------------------
-- Chunks
-- ---------------------------------------------------------------------------

theorem targets_of_ofTargets? {targets : List Target} {chunk : Chunk}
    (h : Chunk.ofTargets? targets = some chunk) : chunk.targets = targets := by
  cases targets with
  | nil => cases h
  | cons target targets =>
    cases h
    rfl

/-- A chunk has the targets that its entry names. -/
theorem yields_readChunk (modules : List Module) (entry : Json) :
    Yields (Names (modules.map (·.target)) entry) (readChunk modules entry) := by
  unfold readChunk
  refine .bind (.given _) fun names hnames => ?_
  refine .bind (Ends.mapM_each (R := RefersTo (modules.map (·.target))) fun item _ => ?_)
    fun targets htargets => ?_
  · refine (yields_asScalar item).bind fun name hname => ?_
    subst hname
    split
    · rename_i target hfound
      exact .pure (findTarget?_eq_some hfound)
    · trivial
  · split
    · rename_i chunk hchunk
      exact .pure ⟨names, hnames, targets_of_ofTargets? hchunk ▸ htargets⟩
    · trivial

/-- The chunks of a file are those that it names, or its modules one by one. -/
theorem yields_readChunks (modules : List Module) (value : Json) :
    Yields (fun chunks =>
      (value.isVoid = true → chunks = modules.map fun m =>
        { representative := m.target, others := [] }) ∧
      (value.isVoid = false → ∃ entries, value.members = .ok entries ∧
        List.Forall₂ (Names (modules.map (·.target))) entries chunks))
      (readChunks modules value) := by
  unfold readChunks
  split
  · rename_i hvoid
    exact .pure ⟨fun _ => rfl, fun hthere => absurd hvoid (by simp [hthere])⟩
  · rename_i hthere
    refine .bind (.given _) fun entries hentries => ?_
    refine (Ends.mapM_each fun entry _ => yields_readChunk modules entry).imp
      fun chunks hchunks => ?_
    exact ⟨fun hvoid => absurd hvoid hthere, fun _ => ⟨entries, hentries, hchunks⟩⟩

-- ---------------------------------------------------------------------------
-- Maps by target
-- ---------------------------------------------------------------------------

section
variable {modules : List Module}
variable (hapart : modules.Pairwise fun m other =>
  m.target.name.sameName other.target.name = false)
include hapart

/-- Modules with different names have different targets. -/
theorem nodup_ids : (modules.map (·.target.toTargetId)).Nodup := by
  refine List.pairwise_map.mpr (hapart.imp fun {m other} hname hid => ?_)
  rw [congrArg TargetId.name hid, sameName_self] at hname
  cases hname

theorem find?_of_module {β : Type} (value : Module → β) {m : Module} (hm : m ∈ modules) :
    (OrderedMap.mk (modules.map fun m => (m.target.toTargetId, value m))).find?
      m.target.toTargetId = some (value m) := by
  have hkeys : (OrderedMap.mk (modules.map fun m =>
      (m.target.toTargetId, value m))).keys.Nodup := by
    rw [OrderedMap.keys, List.map_map]
    exact nodup_ids hapart
  exact (OrderedMap.mem_entries_iff hkeys).mp
    (List.mem_map_of_mem (f := fun m => (m.target.toTargetId, value m)) hm)

end

end ProjectFile

-- ---------------------------------------------------------------------------
-- Whole projects
-- ---------------------------------------------------------------------------

namespace ProjectDescription

open ProjectFile

variable {entries : Entries} {d : ProjectDescription}

theorem yields_ofJson (path root : Path) (value : Json) :
    Yields (fun d => ∃ entries, value = .object entries ∧ WellFormed entries d)
      (ofJson path root value) := by
  unfold ofJson
  refine .bind (reports_topEntries path value).yields fun entries hvalue => ?_
  refine .bind (reports_moduleItems path entries).yields fun items hlist => ?_
  refine .bind (yields_modules path root items) fun modules ⟨hall, hapart⟩ => ?_
  refine .bind (yields_readChunks modules _) fun chunks ⟨halone, hnamed⟩ => ?_
  refine .bind (.given _) fun dataDir _ => .pure ⟨entries, hvalue, ?_⟩
  have hids : (modules.map (·.target)).map (·.toTargetId) =
      modules.map (·.target.toTargetId) := List.map_map
  have hkeys {β : Type} (value : Module → β) :
      (OrderedMap.mk (modules.map fun m => (m.target.toTargetId, value m))).keys =
        (modules.map (·.target)).map (·.toTargetId) := by
    rw [OrderedMap.keys, List.map_map, hids]
    rfl
  refine {
    declared := ⟨items, hlist, ?_⟩
    names_apart := List.pairwise_map.mpr hapart
    sourceRoots := hkeys _
    classpath := hkeys _
    ids_nodup := hids ▸ nodup_ids hapart
    chunk_targets := fun chunk hchunk => ⟨List.cons_ne_nil _ _, ?_⟩
    alone := fun hvoid => (halone hvoid).trans (by rw [List.map_map]; rfl)
    named := hnamed }
  · refine List.forall₂_map_right_iff.mpr ((forall₂_with_right hall).imp ?_)
    rintro item m ⟨hm, fields, hitem, hmodule⟩
    exact ⟨fields, hitem, hmodule.name,
      ⟨_, hmodule.sources, find?_of_module hapart _ hm⟩,
      ⟨_, hmodule.classpath, find?_of_module hapart _ hm⟩⟩
  · cases hvoid : (chunksOf entries).isVoid with
    | true =>
      have hchunks := halone hvoid
      subst hchunks
      obtain ⟨m, hm, rfl⟩ := List.mem_map.mp hchunk
      intro target htarget
      obtain rfl := List.mem_singleton.mp htarget
      exact List.mem_map_of_mem hm
    | false =>
      obtain ⟨_, _, hread⟩ := hnamed hvoid
      obtain ⟨_, _, names, _, hnames⟩ := exists_left_of_forall₂ hread hchunk
      intro target htarget
      obtain ⟨_, _, hmem, _⟩ := exists_left_of_forall₂ hnames htarget
      exact hmem

theorem yields_load (files : FileSystem) (cwd path : Path) :
    Yields (fun d => ∃ entries, Reads files path entries ∧ WellFormed entries d)
      (load files cwd path) := by
  unfold load
  split
  · trivial
  · rename_i content executable hprobe
    unfold ofBytes
    split
    · trivial
    · rename_i text htext
      split
      · rename_i value hread
        refine (yields_ofJson path _ value).imp ?_
        rintro d ⟨entries, rfl, hd⟩
        exact ⟨entries, ⟨content, executable, text, hprobe, htext, hread⟩, hd⟩
      · trivial
  · trivial

/-- A file is read in one way. -/
theorem Reads.unique {files : FileSystem} {path : Path} {entries entries' : Entries}
    (h : Reads files path entries) (h' : Reads files path entries') : entries = entries' := by
  obtain ⟨content, executable, text, hprobe, htext, hread⟩ := h
  obtain ⟨content', executable', text', hprobe', htext', hread'⟩ := h'
  rw [hprobe] at hprobe'
  cases hprobe'
  rw [htext] at htext'
  cases htext'
  rw [hread] at hread'
  cases hread'
  rfl

theorem Declares.nameOf {fields : Entries} {target : Target} {name : Scalar}
    (h : d.Declares fields target) (hname : NameOf (.object fields) name) :
    name = target.name := by
  obtain ⟨fields', heq, hfound⟩ := hname
  cases heq
  rw [h.name] at hfound
  cases hfound
  rfl

/-- A project that is well formed has no mistake in its file. -/
theorem WellFormed.not_mistaken (h : WellFormed entries d) : ¬ Mistaken entries := by
  obtain ⟨items, hlist, hdeclared⟩ := h.declared
  have hitems {items' : List Json} (hlist' : Json.lookup entries "modules" = some (.array items')) :
      items' = items := by
    rw [hlist] at hlist'
    cases hlist'
    rfl
  have hchunk {entry : Json} (hentry : ListsChunk entries entry) :
      ∃ chunk ∈ d.chunks, Names d.targets entry chunk := by
    obtain ⟨hthere, chunks, hchunks, hmem⟩ := hentry
    obtain ⟨chunks', hchunks', hnamed⟩ := h.named hthere
    rw [hchunks] at hchunks'
    cases hchunks'
    exact exists_right_of_forall₂ hnamed hmem
  intro hmistaken
  cases hmistaken with
  | repeated hlist' hrepeated =>
    refine hrepeated (hitems hlist' ▸ pairwise_of_forall₂ hdeclared h.names_apart ?_)
    rintro _ target ⟨fields, rfl, ht⟩ _ other ⟨fields', rfl, ho⟩ hapart name name' hname hname'
    rw [ht.nameOf hname, ho.nameOf hname']
    exact hapart
  | unknown hlist' hentry hnames hname hunknown =>
    obtain ⟨chunk, _, names, hnames', htargets⟩ := hchunk hentry
    rw [hnames] at hnames'
    cases hnames'
    obtain ⟨target, _, hmem, name, heq, hsame⟩ := exists_right_of_forall₂ htargets hname
    cases heq
    obtain ⟨_, hitem, fields, rfl, htarget⟩ := exists_left_of_forall₂ hdeclared hmem
    rw [hunknown _ (hitems hlist' ▸ hitem) target.name ⟨fields, rfl, htarget.name⟩] at hsame
    cases hsame
  | empty hentry hempty =>
    obtain ⟨chunk, hmem, names, hnames, htargets⟩ := hchunk hentry
    rw [hempty] at hnames
    cases hnames
    exact (h.chunk_targets chunk hmem).1 (List.forall₂_nil_left_iff.mp htargets)

/-- A project that is loaded is well formed, and a file with mistaken chunks or names is not
loaded. -/
theorem load_wellFormed (files : FileSystem) (cwd path : Path) :
    (∀ d, load files cwd path = .ok d →
      ∃ entries, Reads files path entries ∧ WellFormed entries d) ∧
    ∀ entries, Reads files path entries → Mistaken entries →
      ∀ d, load files cwd path ≠ .ok d := by
  have hload (d : ProjectDescription) (h : load files cwd path = .ok d) :
      ∃ entries, Reads files path entries ∧ WellFormed entries d :=
    (yields_load files cwd path).of_ok h
  refine ⟨hload, fun entries hreads hmistaken d h => ?_⟩
  obtain ⟨entries', hreads', hformed⟩ := hload d h
  exact hformed.not_mistaken (hreads.unique hreads' ▸ hmistaken)

/-- The only chunk names the modules the other way round. -/
def swappedText : String :=
  "\x7b\"modules\": [\x7b\"name\": \"a\"\x7d, \x7b\"name\": \"b\"\x7d], " ++
    "\"chunks\": [[\"b\", \"a\"]]\x7d"

/-- Two modules of one name. -/
def repeatedText : String :=
  "\x7b\"modules\": [\x7b\"name\": true\x7d, \x7b\"name\": true\x7d]\x7d"

def repeatedItems : List Json :=
  List.replicate 2 (.object [("name", .scalar (.boolean true))])

def projectPath : Path where
  anchor := .root
  names := ["project.json"]

def projectFiles (text : String) : FileSystem where
  nodes := [(projectPath.names, .file (Text.Utf8.encodeText text) false)]
  cwd := []

theorem load_wellFormed_swapped :
    (∃ d entries, load (projectFiles swappedText) projectPath.parent projectPath = .ok d ∧
      d.chunks.map (·.modules) = [[.text "b", .text "a"]] ∧
      Reads (projectFiles swappedText) projectPath entries ∧ WellFormed entries d) ∧
    ∃ entries, Reads (projectFiles repeatedText) projectPath entries ∧ Mistaken entries ∧
      ∀ d, load (projectFiles repeatedText) projectPath.parent projectPath ≠ .ok d := by
  constructor
  · have hchunks : (load (projectFiles swappedText) projectPath.parent projectPath).toOption.map
        (fun d => d.chunks.map (·.modules)) = some [[.text "b", .text "a"]] := by
      decide +kernel
    cases hload : load (projectFiles swappedText) projectPath.parent projectPath with
    | error fault =>
      rw [hload] at hchunks
      cases hchunks
    | ok d =>
      rw [hload] at hchunks
      obtain ⟨entries, hreads, hformed⟩ := (load_wellFormed _ _ _).1 d hload
      exact ⟨d, entries, rfl, Option.some.inj hchunks, hreads, hformed⟩
  · have hread : Json.read repeatedText.toList =
        .ok (.object [("modules", .array repeatedItems)]) := by
      cbv
    have hprobe : (projectFiles repeatedText).probe projectPath =
        .ok (some (.file (Text.Utf8.encodeText repeatedText) false)) := rfl
    have hreads : Reads (projectFiles repeatedText) projectPath
        [("modules", .array repeatedItems)] :=
      ⟨_, _, _, hprobe, Text.Utf8.decodeText_encodeText _, hread⟩
    have hmistaken : Mistaken [("modules", .array repeatedItems)] := by
      refine .repeated rfl fun hapart => ?_
      have hfirst := (List.pairwise_cons.mp hapart).1 _ List.mem_cons_self
      exact absurd (hfirst _ _ ⟨_, rfl, rfl⟩ ⟨_, rfl, rfl⟩) (by decide)
    exact ⟨_, hreads, hmistaken, (load_wellFormed _ _ _).2 _ hreads hmistaken⟩

end ProjectDescription

end GroovyRounds
