import GroovyRounds.Build.Classpath
import GroovyRounds.Proofs.Canonical
import GroovyRounds.Proofs.Groups

/-!
# What is on a classpath

A text leads somewhere piece by piece (`placeOf`), and the canonical form of a
path tells where its text leads (`placeOf_toString`). A classpath lists the
canonical forms of its paths, and then what is added, each once where it comes
first, and among the paths no place twice (`classpaths_listed`).
-/

namespace GroovyRounds

-- ---------------------------------------------------------------------------
-- Where a text leads
-- ---------------------------------------------------------------------------

namespace Path

/-- One piece of the way down that a text spells, from the names above it. Nothing and a dot stay,
two dots go up, and they stay at the top. -/
def follow (above : List String) (piece : List Char) : List String :=
  if piece = [] ∨ piece = ['.'] then above
  else if piece = ['.', '.'] then above.dropLast
  else above ++ [String.ofList piece]

/-- Where a text leads from a directory. Exactly two slashes at its front start at another root than
one slash or more than two. -/
def placeOf (directory : Path) (text : String) : Path :=
  let pieces := Text.splitOn '/' text.toList
  match anchorOf text.toList with
  | .relative =>
    { directory with names := (directory.names.map String.toList ++ pieces).foldl follow [] }
  | anchor => { anchor, names := pieces.foldl follow [] }

variable {p cwd : Path}

theorem climb_eq_foldl (names : List String) : climb names =
    names.foldl (fun above name => if name = ".." then above.dropLast else above ++ [name]) [] := by
  have hfold (above : List String) : (names.foldl climb.step above).reverse = names.foldl
      (fun above name => if name = ".." then above.dropLast else above ++ [name])
      above.reverse := by
    induction names generalizing above with
    | nil => rfl
    | cons name names ih =>
      rw [List.foldl_cons, List.foldl_cons, ih, climb.step]
      split <;> simp
  exact hfold []

/-- What is followed of a text are the names that it is read as. -/
theorem foldl_follow (pieces : List (List Char)) (above : List String) :
    pieces.foldl follow above = ((pieces.filter isName).map String.ofList).foldl
      (fun above name => if name = ".." then above.dropLast else above ++ [name]) above := by
  induction pieces generalizing above with
  | nil => rfl
  | cons piece pieces ih =>
    rw [List.foldl_cons, ih]
    by_cases hname : piece = [] ∨ piece = ['.']
    · have hskip : isName piece = false := by rcases hname with rfl | rfl <;> rfl
      rw [follow, if_pos hname, List.filter_cons_of_neg (by simp [hskip])]
    · have hkeep : isName piece = true := by simpa [isName, not_or] using hname
      have hdots : piece = ['.', '.'] ↔ String.ofList piece = ".." := by
        rw [← String.toList_inj, String.toList_ofList]
        rfl
      rw [List.filter_cons_of_pos hkeep, List.map_cons, List.foldl_cons, follow, if_neg hname]
      simp only [hdots]

theorem names_of_directory (h : cwd.Valid) :
    ((cwd.names.map String.toList).filter isName).map String.ofList = cwd.names := by
  have hall : ∀ piece ∈ cwd.names.map String.toList, isName piece = true :=
    List.forall_mem_map.mpr fun name hname => isName_toList (h name hname)
  rw [List.filter_eq_self.mpr hall, List.map_map]
  simp [Function.comp_def]

/-- A text leads to the canonical form of the path that it is read as. -/
theorem placeOf_eq (hcwd : cwd.Valid) (text : String) :
    placeOf cwd text = (ofString text).canonical cwd := by
  have hpieces : (namesOf text.toList) =
      ((Text.splitOn '/' text.toList).filter isName).map String.ofList := rfl
  cases hanchor : anchorOf text.toList with
  | relative =>
    have happend : cwd ++ ofString text = cwd.inside (namesOf text.toList) := by
      have hread : ofString text = ⟨.relative, namesOf text.toList⟩ := by rw [ofString, hanchor]
      rw [hread, append_relative]
    simp only [placeOf, hanchor, canonical, happend, inside]
    rw [foldl_follow, climb_eq_foldl, List.filter_append, List.map_append, names_of_directory hcwd,
      hpieces]
  | root | doubleRoot =>
    have happend : cwd ++ ofString text = ofString text := by
      show cwd.append (ofString text) = _
      rw [append, if_pos (by simp [isAbsolute, ofString, hanchor])]
    simp only [placeOf, hanchor, canonical, happend]
    rw [foldl_follow, climb_eq_foldl, ofString, hanchor, hpieces]

theorem placeOf_toString (hcwd : cwd.Valid) (hp : p.Valid) :
    placeOf cwd p.toString = p.canonical cwd := by
  rw [placeOf_eq hcwd, ofString_toString hp]

theorem isAbsolute_canonical (habsolute : cwd.isAbsolute = true) (p : Path) :
    (p.canonical cwd).isAbsolute = true := by
  show (cwd.append p).isAbsolute = true
  unfold append
  split
  · assumption
  · exact habsolute

/-- A canonical form is its own canonical form. -/
theorem canonical_canonical (habsolute : cwd.isAbsolute = true) (hcwd : cwd.Valid)
    (hp : p.Valid) : (p.canonical cwd).canonical cwd = p.canonical cwd := by
  have happend : cwd ++ p.canonical cwd = p.canonical cwd :=
    if_pos (isAbsolute_canonical habsolute p)
  have hdots : ".." ∉ (p.canonical cwd).names :=
    fun hm => (isPlain_canonical hp hcwd _ hm).ne_dots rfl
  have hclimb : climb (p.canonical cwd).names = (p.canonical cwd).names :=
    climb_append [] hdots
  rw [canonical, happend, hclimb]

theorem placeOf_canonicalText (habsolute : cwd.isAbsolute = true) (hcwd : cwd.Valid)
    (hp : p.Valid) : placeOf cwd (canonicalText cwd p) = p.canonical cwd := by
  have hvalid : (p.canonical cwd).Valid :=
    fun name hname => (isPlain_canonical hp hcwd name hname).toIsComponent
  rw [canonicalText, placeOf_toString hcwd hvalid, canonical_canonical habsolute hcwd hp]

end Path

-- ---------------------------------------------------------------------------
-- Entries
-- ---------------------------------------------------------------------------

section
variable {α : Type} [BEq α] [LawfulBEq α] {as bs : List α}

theorem eraseDups_append_congr (h : as.eraseDups = bs.eraseDups) (rest : List α) :
    (as ++ rest).eraseDups = (bs ++ rest).eraseDups := by
  have hmem (a : α) : as.elem a = bs.elem a := by
    rw [Bool.eq_iff_iff, List.elem_iff, List.elem_iff, ← List.mem_eraseDups, h, List.mem_eraseDups]
  rw [List.eraseDups_append, List.eraseDups_append, h, List.removeAll, List.removeAll]
  simp only [hmem]

theorem eraseDups_cons_congr (h : as.eraseDups = bs.eraseDups) (a : α) :
    (a :: as).eraseDups = (a :: bs).eraseDups := by
  rw [List.eraseDups_cons, List.eraseDups_cons, ← OrderedMap.filter_eraseDups, h,
    OrderedMap.filter_eraseDups]

end

theorem foldl_appendUnique (entry : String) (entries : List String) :
    entries.foldl appendUnique [entry] = (entry :: entries).eraseDups := by
  induction entries using List.reverseRecOn with
  | nil => rfl
  | append_singleton entries last ih =>
    rw [List.foldl_append, ih, ← List.cons_append, OrderedMap.eraseDups_concat, List.foldl_cons,
      List.foldl_nil, appendUnique]
    simp only [List.contains_iff_mem]

theorem head_foldl_appendUnique (entry : String) (entries : List String) :
    (entries.foldl appendUnique [entry]).head? = some entry := by
  rw [foldl_appendUnique, List.eraseDups_cons]
  rfl

/-- The entries are the canonical forms of the paths, that of the first path in front, and then the
added ones, each once where it comes first. A canonical form leads where its path does, and no two
of them lead to one place. -/
structure ListsOnce (cwd first : Path) (paths : List Path) (added entries : List String) :
    Prop where
  nodup : entries.Nodup
  head : entries.head? = some (canonicalText cwd first)
  listed : entries =
    (canonicalText cwd first :: paths.map (canonicalText cwd) ++ added).eraseDups
  leads : ∀ p ∈ first :: paths,
    Path.placeOf cwd (canonicalText cwd p) = Path.placeOf cwd p.toString
  apart : ∃ own rest, entries = own ++ rest ∧ rest ⊆ added ∧
    (∀ entry, entry ∈ own ↔ ∃ p ∈ first :: paths, canonicalText cwd p = entry) ∧
    own.Pairwise fun entry other => Path.placeOf cwd entry ≠ Path.placeOf cwd other

/-- Appending what is not there yet lists every entry once. -/
theorem listsOnce_foldl {cwd first : Path} {paths : List Path} (added : List String)
    (habsolute : cwd.isAbsolute = true) (hcwd : cwd.Valid)
    (hpaths : ∀ p ∈ first :: paths, p.Valid) :
    ListsOnce cwd first paths added
      ((paths.map (canonicalText cwd) ++ added).foldl appendUnique [canonicalText cwd first]) := by
  have hhead := head_foldl_appendUnique (canonicalText cwd first)
    (paths.map (canonicalText cwd) ++ added)
  rw [foldl_appendUnique, ← List.cons_append] at hhead ⊢
  refine ⟨nodup_eraseDups _, hhead, rfl, fun p hp => ?_, ?_⟩
  · rw [Path.placeOf_canonicalText habsolute hcwd (hpaths p hp),
      Path.placeOf_toString hcwd (hpaths p hp)]
  · refine ⟨_, _, List.eraseDups_append, fun entry hentry => ?_, fun entry => ?_, ?_⟩
    · exact (List.mem_filter.mp (List.mem_eraseDups.mp hentry)).1
    · rw [List.mem_eraseDups, ← List.map_cons, List.mem_map]
    · refine (nodup_eraseDups _).imp_of_mem fun {entry other} hentry hother hne hplace => hne ?_
      rw [List.mem_eraseDups, ← List.map_cons, List.mem_map] at hentry hother
      obtain ⟨p, hp, rfl⟩ := hentry
      obtain ⟨q, hq, rfl⟩ := hother
      rw [Path.placeOf_canonicalText habsolute hcwd (hpaths p hp),
        Path.placeOf_canonicalText habsolute hcwd (hpaths q hq)] at hplace
      rw [canonicalText, canonicalText, hplace]

-- ---------------------------------------------------------------------------
-- Classpaths
-- ---------------------------------------------------------------------------

/-- The classpath entries of the chunk's targets, target by target. -/
def Project.entriesOf (project : Project) (chunk : Chunk) : List Path :=
  chunk.ids.flatMap fun target => (project.classpath.find? target).getD []

/-- It does not matter that the entries of the chunk's targets are told apart before their canonical
forms are. -/
theorem fullClasspath_eq (cwd : Path) (project : Project) (settings : Settings)
    (extensions : List Extension) (chunk : Chunk) :
    fullClasspath cwd project settings extensions chunk =
      ((project.entriesOf chunk).map (canonicalText cwd) ++ extensionClasspath extensions).foldl
        appendUnique [canonicalText cwd settings.runtimeSupport] := by
  have hpaths : ((project.chunkClasspath chunk).map (canonicalText cwd)).eraseDups =
      ((project.entriesOf chunk).map (canonicalText cwd)).eraseDups :=
    OrderedMap.eraseDups_map_eraseDups _ _
  rw [fullClasspath, foldl_appendUnique, foldl_appendUnique, ← List.cons_append,
    ← List.cons_append]
  exact eraseDups_append_congr (eraseDups_cons_congr hpaths _) _

/-- The full classpath of a chunk and the least one of a process list the runtime library, then the
entries of the chunk's targets or of the settings, and then what extensions add. -/
theorem classpaths_listed {cwd : Path} (project : Project) (settings : Settings)
    (extensions : List Extension) (chunk : Chunk) (habsolute : cwd.isAbsolute = true)
    (hcwd : cwd.Valid) (hruntime : settings.runtimeSupport.Valid)
    (hproject : ∀ p ∈ project.entriesOf chunk, p.Valid)
    (hbootstrap : ∀ p ∈ settings.bootstrapClasspath, p.Valid) :
    ListsOnce cwd settings.runtimeSupport (project.entriesOf chunk)
        (extensionClasspath extensions)
        (fullClasspath cwd project settings extensions chunk) ∧
      ListsOnce cwd settings.runtimeSupport settings.bootstrapClasspath []
        (bootstrapClasspath cwd settings) := by
  constructor
  · rw [fullClasspath_eq]
    exact listsOnce_foldl _ habsolute hcwd (List.forall_mem_cons.mpr ⟨hruntime, hproject⟩)
  · have h := listsOnce_foldl [] habsolute hcwd (List.forall_mem_cons.mpr ⟨hruntime, hbootstrap⟩)
    rwa [List.append_nil] at h

def libraryTarget : Target where
  name := .text "core"
  output := none
  kind := .production
  sdk := none

def libraryChunk : Chunk where
  representative := libraryTarget
  others := []

/-- A library is spelled in two ways, and with two slashes at the front. -/
def libraryProject : Project where
  dataRoot := .ofString "/data"
  classpath := ⟨[(libraryTarget.toTargetId,
    [.ofString "lib/a.jar", .ofString "/work/lib/../lib//a.jar", .ofString "//work/lib/a.jar"])]⟩

def librarySettings : Settings where
  runtimeSupport := .ofString "../work/lib/rt.jar"
  bootstrapClasspath := [.ofString "/work/lib/b.jar", .ofString "lib/./rt.jar"]

theorem classpaths_listed_spelled :
    fullClasspath (.ofString "/work") libraryProject librarySettings
        [{ classpath := ["lib/a.jar", "/work/lib/a.jar"] }] libraryChunk =
      ["/work/lib/rt.jar", "/work/lib/a.jar", "//work/lib/a.jar", "lib/a.jar"] ∧
    bootstrapClasspath (.ofString "/work") librarySettings =
      ["/work/lib/rt.jar", "/work/lib/b.jar"] ∧
    ListsOnce (.ofString "/work") librarySettings.runtimeSupport
        (libraryProject.entriesOf libraryChunk) ["lib/a.jar", "/work/lib/a.jar"]
        (fullClasspath (.ofString "/work") libraryProject librarySettings
          [{ classpath := ["lib/a.jar", "/work/lib/a.jar"] }] libraryChunk) ∧
      ListsOnce (.ofString "/work") librarySettings.runtimeSupport
        librarySettings.bootstrapClasspath []
        (bootstrapClasspath (.ofString "/work") librarySettings) :=
  have habsolute : (Path.ofString "/work").isAbsolute = true := by decide +kernel
  have hcwd : (Path.ofString "/work").Valid := by decide +kernel
  ⟨by decide +kernel, by decide +kernel,
    classpaths_listed libraryProject librarySettings
      [{ classpath := ["lib/a.jar", "/work/lib/a.jar"] }] libraryChunk habsolute hcwd
      (by decide +kernel) (by decide +kernel) (by decide +kernel)⟩

end GroovyRounds
