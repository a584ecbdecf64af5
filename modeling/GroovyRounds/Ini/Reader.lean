import GroovyRounds.OrderedMap
import GroovyRounds.Text.Lines
import GroovyRounds.Text.Lower

/-!
# Reading INI files

Sections of options. A line indented deeper than its option continues the
option's value; an option may stand without a value; options of the section
`DEFAULT` hold in every section.
-/

namespace GroovyRounds.Ini

/-- Why a text is no INI file. -/
inductive Fault where
  | duplicateSection
  | duplicateOption
  | missingHeader
  | emptyOption
  /-- A line continues an option that has no value. -/
  | continuesNothing
deriving DecidableEq, Repr

/-- Options with the lines of their values. -/
abbrev RawOptions := OrderedMap String (Option (List (List Char)))

/-- Options with their values. -/
abbrev Options := OrderedMap String (Option String)

structure File where
  defaults : Options
  sections : OrderedMap String Options
deriving DecidableEq, Repr

def defaultSection : String := "DEFAULT"

-- ---------------------------------------------------------------------------
-- Kinds of lines
-- ---------------------------------------------------------------------------

def isComment (content : List Char) : Bool :=
  match content with
  | c :: _ => c = '#' || c = ';'
  | [] => false

/-- The name in a header: what stands before the last closing bracket. -/
def header? : List Char → Option (List Char)
  | '[' :: cs =>
    let name := (cs.reverse.dropWhile (· ≠ ']')).drop 1
    if name.isEmpty then none else some name.reverse
  | _ => none

/-- An option's name and value, cut at the first `=` or `:`. -/
def optionOf (content : List Char) : List Char × Option (List Char) :=
  let isDelimiter (c : Char) : Bool := c = '=' || c = ':'
  let name := Text.trimRight Text.isBlank (content.takeWhile (!isDelimiter ·))
  match content.dropWhile (!isDelimiter ·) with
  | [] => (name, none)
  | _ :: value => (name, some (Text.trim value))

-- ---------------------------------------------------------------------------
-- Line by line
-- ---------------------------------------------------------------------------

/-- What has been read so far. -/
structure Scan where
  defaults : RawOptions := .empty
  sections : OrderedMap String RawOptions := .empty
  current : Option String := none
  /-- The option that a deeper line continues. -/
  option : Option String := none
  indent : Nat := 0
  /-- Options seen, with their sections. -/
  seen : List (String × String) := []
  /-- Some line gives a value to an option without a name. -/
  nameless : Bool := false

namespace Scan

def options (scan : Scan) (sectionName : String) : RawOptions :=
  if sectionName = defaultSection then scan.defaults
  else (scan.sections.find? sectionName).getD .empty

def setOptions (scan : Scan) (sectionName : String) (options : RawOptions) : Scan :=
  if sectionName = defaultSection then { scan with defaults := options }
  else { scan with sections := scan.sections.insert sectionName options }

/-- The option that the next line may continue, with its section and its lines. -/
def open? (scan : Scan) : Option (String × String × Option (List (List Char))) :=
  match scan.current, scan.option with
  | some sectionName, some name =>
    some (sectionName, name, ((scan.options sectionName).find? name).getD none)
  | _, _ => none

/-- Adds a line to an option's value. -/
def extend (scan : Scan) (sectionName name : String) (lines : List (List Char))
    (line : List Char) : Scan :=
  scan.setOptions sectionName ((scan.options sectionName).insert name (some (lines ++ [line])))

/-- A blank line counts inside a value that has begun. -/
def blankLine (scan : Scan) : Scan :=
  match scan.open? with
  | some (sectionName, name, some lines) => scan.extend sectionName name lines []
  | _ => scan

def headerLine (scan : Scan) (name : String) : Except Fault Scan :=
  let scan := { scan with current := some name, option := none }
  if name = defaultSection then .ok scan
  else if scan.sections.contains name then .error .duplicateSection
  else .ok { scan with sections := scan.sections.insert name .empty }

def optionLine (scan : Scan) (sectionName : String) (content : List Char) : Except Fault Scan :=
  let (name, value) := optionOf content
  let name := String.ofList (Text.lower name)
  if scan.seen.contains (sectionName, name) then .error .duplicateOption
  else
    let options := (scan.options sectionName).insert name (value.map ([·]))
    let scan := scan.setOptions sectionName options
    .ok { scan with
      option := if name.isEmpty then none else some name
      seen := (sectionName, name) :: scan.seen
      nameless := scan.nameless || name.isEmpty }

/-- A line that starts something new. -/
def freshLine (scan : Scan) (content : List Char) : Except Fault Scan :=
  match header? content, scan.current with
  | some name, _ => scan.headerLine (String.ofList name)
  | none, none => .error .missingHeader
  | none, some sectionName => scan.optionLine sectionName content

def step (scan : Scan) (line : List Char) : Except Fault Scan :=
  let content := Text.trim line
  let indent := (line.takeWhile Text.isBlank).length
  if content.isEmpty then .ok scan.blankLine
  else if isComment content then .ok scan
  else
    let fresh := Scan.freshLine { scan with indent } content
    match scan.open? with
    | some (sectionName, name, lines?) =>
      if scan.indent < indent then
        match lines? with
        | some lines => .ok (scan.extend sectionName name lines content)
        | none => .error .continuesNothing
      else fresh
    | none => fresh

/-- The lines of a value, joined, without blanks at the end. -/
def close (options : RawOptions) : Options :=
  ⟨options.entries.map fun (name, lines?) =>
    (name, lines?.map fun lines =>
      String.ofList (Text.trimRight Text.isBlank (Text.joinWith ['\n'] lines)))⟩

end Scan

-- ---------------------------------------------------------------------------
-- Whole files
-- ---------------------------------------------------------------------------

/-- Reads a text. An option without a name is a fault only when nothing worse follows. -/
def read (text : List Char) : Except Fault File := do
  let scan ← (Text.lines (Text.unifyLineEnds text)).foldlM Scan.step {}
  if scan.nameless then throw .emptyOption
  return {
    defaults := Scan.close scan.defaults
    sections := ⟨scan.sections.entries.map fun (name, options) => (name, Scan.close options)⟩ }

end GroovyRounds.Ini
