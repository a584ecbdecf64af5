import GroovyRounds.FileSystem.Action
import GroovyRounds.Json.Reader
import GroovyRounds.Project.Basic
import GroovyRounds.Text.Utf8

/-!
# Project files

A project file is a JSON object: `modules` with their name, kind, output,
sources, classpath and SDK; `chunks` of module names; `data_dir`; `encoding`.
Relative paths start at the directory of the file. Without chunks every module
is a chunk of its own.
-/

namespace GroovyRounds

-- ---------------------------------------------------------------------------
-- Faults
-- ---------------------------------------------------------------------------

inductive ProjectFault where
  | missing (path : Path)
  | unreadable (path : Path)
  | withoutModules (path : Path)
  | nameless (entry : Json)
  | unknownKind (name kind : Json)
  | homelessSdk (name : Json)
  | duplicate (name : Scalar) (path : Path)
  | unknownModule (chunk : Json) (name : Scalar)
  | emptyChunk (chunk : Json)
  /-- A value of another sort than its place asks for. -/
  | wrongSort
  /-- An SDK that is no object. -/
  | noRecord
  | notUtf8
  | tooDeep
  | numeral (fault : NumeralFault)
  | files (fault : FileFault)
deriving Repr

def emptyChunkMessage : String := "A module chunk needs at least one target"

namespace ProjectFault

/-- The fault is reported as a mistake in the project file. -/
def isReported : ProjectFault → Bool
  | .wrongSort | .noRecord | .notUtf8 | .tooDeep | .numeral _ | .files _ => false
  | _ => true

def label : ProjectFault → String
  | .wrongSort => "TypeError"
  | .noRecord => "AttributeError"
  | .notUtf8 => "UnicodeDecodeError"
  | .tooDeep => "RecursionError"
  | .numeral _ => "ValueError"
  | .files fault => fault.label
  | _ => "ProjectLoadError"

def message : ProjectFault → String
  | .missing path => "Project file not found: " ++ path.toString
  | .unreadable path => "Failed to read " ++ path.toString ++ ": malformed JSON"
  | .withoutModules path => path.toString ++ " must contain a 'modules' list"
  | .nameless entry => "Module entry without a name: " ++ entry.spell
  | .unknownKind name kind =>
    "Module '" ++ name.display ++ "' has an unknown kind: " ++ kind.spell ++
      " is not a valid TargetKind"
  | .homelessSdk name => "SDK of module '" ++ name.display ++ "' has no home"
  | .duplicate name path => "Duplicate module '" ++ name.display ++ "' in " ++ path.toString
  | .unknownModule chunk name =>
    "Chunk " ++ chunk.display ++ " refers to unknown module " ++ name.spell
  | .emptyChunk chunk => "Invalid chunk " ++ chunk.display ++ ": " ++ emptyChunkMessage
  | .wrongSort => "a value of the wrong sort"
  | .noRecord => "a value without entries"
  | .notUtf8 => "malformed UTF-8"
  | .tooDeep => "nested too deeply"
  | .numeral fault => fault.message
  | .files fault => fault.message

end ProjectFault

-- ---------------------------------------------------------------------------
-- Values by place
-- ---------------------------------------------------------------------------

namespace Json

/-- The members of a value: the items of an array, the keys of an object, the characters
of a text. -/
def members : Json → Except ProjectFault (List Json)
  | .array items => .ok items
  | .object entries => .ok (entries.map fun (key, _) => .scalar (.text key))
  | .scalar (.text s) => .ok (s.points.map fun point => .scalar (.text (.ofPoints [point])))
  | .scalar _ => .error .wrongSort

def asText : Json → Except ProjectFault String
  | .scalar (.text s) => .ok s.display
  | _ => .error .wrongSort

def asScalar : Json → Except ProjectFault Scalar
  | .scalar s => .ok s
  | _ => .error .wrongSort

/-- The paths that a value lists, seen from a directory. -/
def asPaths (root : Path) (value : Json) : Except ProjectFault (List Path) := do
  (← value.members).mapM fun item => return root.child (← item.asText)

end Json

-- ---------------------------------------------------------------------------
-- Modules
-- ---------------------------------------------------------------------------

namespace ProjectFile

abbrev Entries := List (LooseText × Json)

def readKind (name kind : Json) : Except ProjectFault TargetKind :=
  match kind with
  | .scalar (.text s) =>
    match TargetKind.ofName? s.display with
    | some found => .ok found
    | none => .error (.unknownKind name kind)
  | kind => .error (.unknownKind name kind)

def readSdk (name : Json) (sdk : Json) : Except ProjectFault (Option Sdk) :=
  if sdk.isVoid then .ok none
  else match sdk with
    | .object entries =>
      let home := (Json.lookup entries "home").getD .null
      if home.isVoid then .error (.homelessSdk name)
      else do
        return some {
          home := Path.ofString (← home.asText)
          version := (Json.lookup entries "version").getD .null }
    | _ => .error .noRecord

def readOutput (root : Path) (output : Json) : Except ProjectFault (Option Path) :=
  if output.isVoid then .ok none
  else do return some (root.child (← output.asText))

/-- The entries of a module, which has to have a name. -/
def moduleEntries (entry : Json) : Except ProjectFault (Json × Entries) :=
  match entry with
  | .object entries =>
    let name := (Json.lookup entries "name").getD .null
    if name.isVoid then .error (.nameless entry) else .ok (name, entries)
  | entry => .error (.nameless entry)

def readTarget (root : Path) (name : Json) (entries : Entries) : Except ProjectFault Target := do
  let kind ← readKind name ((Json.lookup entries "kind").getD (.text "production"))
  let sdk ← readSdk name ((Json.lookup entries "sdk").getD .null)
  let output ← readOutput root ((Json.lookup entries "output").getD .null)
  return { name := ← name.asScalar, output, kind, sdk }

/-- A module: its target, its source roots and its classpath. -/
structure Module where
  target : Target
  sources : List Path
  classpath : List Path
deriving Repr

def findTarget? (modules : List Module) (name : Scalar) : Option Target :=
  (modules.find? fun m => m.target.name.sameName name).map (·.target)

/-- Reads a module that comes after others. -/
def readModule (path root : Path) (before : List Module) (entry : Json) :
    Except ProjectFault (List Module) := do
  let (name, entries) ← moduleEntries entry
  let target ← readTarget root name entries
  if (findTarget? before target.name).isSome then throw (.duplicate target.name path)
  let sources ← ((Json.lookup entries "sources").getD (.array [])).asPaths root
  let classpath ← ((Json.lookup entries "classpath").getD (.array [])).asPaths root
  return before ++ [{ target, sources, classpath }]

-- ---------------------------------------------------------------------------
-- Chunks
-- ---------------------------------------------------------------------------

def readChunk (modules : List Module) (entry : Json) : Except ProjectFault Chunk := do
  let targets ← (← entry.members).mapM fun item => do
    let name ← item.asScalar
    match findTarget? modules name with
    | some target => return target
    | none => throw (.unknownModule entry name)
  match Chunk.ofTargets? targets with
  | some chunk => return chunk
  | none => throw (.emptyChunk entry)

def readChunks (modules : List Module) (value : Json) : Except ProjectFault (List Chunk) := do
  if value.isVoid then
    return modules.map fun m => { representative := m.target, others := [] }
  (← value.members).mapM (readChunk modules)

-- ---------------------------------------------------------------------------
-- Whole files
-- ---------------------------------------------------------------------------

def moduleItems (path : Path) (entries : Entries) : Except ProjectFault (List Json) :=
  match Json.lookup entries "modules" with
  | some (.array items) => .ok items
  | _ => .error (.withoutModules path)

def topEntries (path : Path) : Json → Except ProjectFault Entries
  | .object entries => .ok entries
  | _ => .error (.withoutModules path)

end ProjectFile

/-- A project with its targets by module name and its chunks. -/
structure ProjectDescription where
  root : Path
  project : Project
  targets : List Target
  chunks : List Chunk
deriving Repr

namespace ProjectDescription

open ProjectFile

/-- Reads the value of a project file. `root` is the directory of the file. -/
def ofJson (path root : Path) (value : Json) : Except ProjectFault ProjectDescription := do
  let entries ← topEntries path value
  let modules ← (← moduleItems path entries).foldlM (readModule path root) []
  let chunks ← readChunks modules ((Json.lookup entries "chunks").getD .null)
  let dataDir ← ((Json.lookup entries "data_dir").getD (.text ".gbuild")).asText
  return {
    root
    project := {
      dataRoot := root.child dataDir
      sourceRoots := ⟨modules.map fun m => (m.target.toTargetId, m.sources)⟩
      classpath := ⟨modules.map fun m => (m.target.toTargetId, m.classpath)⟩
      encoding := (Json.lookup entries "encoding").getD .null }
    targets := modules.map (·.target)
    chunks }

def ofReadFault (path : Path) : Json.ReadFault → ProjectFault
  | .malformed => .unreadable path
  | .tooDeep => .tooDeep
  | .numeral fault => .numeral fault

/-- Reads the content of a project file. -/
def ofBytes (path root : Path) (content : List UInt8) : Except ProjectFault ProjectDescription :=
  match Text.Utf8.decodeText content with
  | none => .error .notUtf8
  | some text =>
    match Json.read text with
    | .ok value => ofJson path root value
    | .error fault => .error (ofReadFault path fault)

/-- Loads a project file. -/
def load (files : FileSystem) (cwd path : Path) : Except ProjectFault ProjectDescription :=
  match files.probe path with
  | .error fault => .error (.files fault)
  | .ok (some (.file content _)) => ofBytes path (path.resolve cwd).parent content
  | .ok _ => .error (.missing path)

end ProjectDescription

end GroovyRounds
