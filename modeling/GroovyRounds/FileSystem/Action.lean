import GroovyRounds.FileSystem.Basic

/-!
# Actions on files

Creating, reading, writing, removing and moving. What an action has changed
before it is refused stays changed.
-/

namespace GroovyRounds

abbrev FileAction := ExceptT FileFault (StateM FileSystem)

namespace FileAction

open FileSystem

-- ---------------------------------------------------------------------------
-- Walking
-- ---------------------------------------------------------------------------

def refuse (refusal : Refusal) (p : Path) : FileAction α :=
  throw (.refused refusal p)

/-- The place a path leads to. -/
def place (p : Path) : FileAction Location := do
  if hasZero p then throw .zeroCharacter
  else match (← get).locate p with
    | .ok place => return place
    | .error refusal => refuse refusal p

/-- The place a path leads to and the node there. -/
def entry (p : Path) : FileAction (Location × Node) := do
  if hasZero p then throw .zeroCharacter
  else match (← get).stat p with
    | .ok found => return found
    | .error refusal => refuse refusal p

/-- The place for a new entry: its directory has to be there. -/
def slot (p : Path) : FileAction (Location × Option Node) := do
  let place ← place p
  return (place, (← get).node? place)

def probe (p : Path) : FileAction (Option Node) := do
  match (← get).probe p with
  | .ok node? => return node?
  | .error fault => throw fault

-- ---------------------------------------------------------------------------
-- Directories
-- ---------------------------------------------------------------------------

def makeDirectory (p : Path) : FileAction Unit := do
  match ← slot p with
  | (_, some _) => refuse .alreadyExists p
  | (place, none) => modify (·.put place .directory)

/-- Lets a refusal pass when the path is a directory anyway. -/
def unlessDirectory (tolerant : Bool) (p : Path) (fault : FileFault) : FileAction Unit := do
  if fault.isRefusal && tolerant && (← get).isDirectory p then return ()
  else throw fault

/-- Makes a directory and its missing parents. A tolerant caller accepts one that is there. -/
def makeDirectories (tolerant : Bool) (p : Path) : FileAction Unit :=
  tryCatch (makeDirectory p) fun fault => do
    if fault = .refused .notFound p then
      if _h : p.names = [] then throw fault
      else
        makeDirectories true p.parent
        tryCatch (makeDirectory p) fun fault => do
          if fault = .refused .notFound p then throw fault
          else unlessDirectory tolerant p fault
    else unlessDirectory tolerant p fault
termination_by p.names.length
decreasing_by
  have := List.length_pos_iff.2 _h
  simp only [Path.parent, List.length_dropLast]
  omega

/-- Removes a directory and all that lies in it. -/
def removeTree (p : Path) : FileAction Unit := do
  match ← entry p with
  | (place, .directory) => modify (·.prune place)
  | (_, .file ..) => refuse .notDirectory p

-- ---------------------------------------------------------------------------
-- Files
-- ---------------------------------------------------------------------------

def readBytes (p : Path) : FileAction (List UInt8) := do
  match ← entry p with
  | (_, .file content _) => return content
  | (_, .directory) => refuse .isDirectory p

/-- Creates a file or replaces its content. -/
def writeBytes (p : Path) (content : List UInt8) : FileAction Unit := do
  match ← slot p with
  | (_, some .directory) => refuse .isDirectory p
  | (place, some (.file _ executable)) => modify (·.put place (.file content executable))
  | (place, none) => modify (·.put place (.file content false))

def removeFile (p : Path) : FileAction Unit := do
  match ← entry p with
  | (place, .file ..) => modify (·.prune place)
  | (_, .directory) => refuse .isDirectory p

/-- Removes a file if it is there. -/
def removeFileIfPresent (p : Path) : FileAction Unit :=
  tryCatch (removeFile p) fun fault => do
    if fault = .refused .notFound p then return ()
    else throw fault

/-- At least eight decimal digits. -/
def serial (n : Nat) : String :=
  let digits := Nat.toDigits 10 n
  String.ofList (List.replicate (8 - digits.length) '0' ++ digits)

/-- Creates a file of a name not yet taken: the given start, a serial number, the given end. -/
def createFresh (directory : Path) (front back : String) (content : List UInt8) :
    FileAction Path := do
  let fs ← get
  let candidate (n : Nat) : Path := directory.child (front ++ serial n ++ back)
  let n := (List.range (fs.nodes.length + 1)).find? fun n => !fs.holdsSomething (candidate n)
  let path := candidate (n.getD 0)
  writeBytes path content
  return path

-- ---------------------------------------------------------------------------
-- Moving
-- ---------------------------------------------------------------------------

/-- The path ends without a name of its own. -/
def endsInDots (p : Path) : Bool :=
  p.name = "" || p.name = ".."

/-- Puts the node of a place at another, where a node may be. A file may replace a file. -/
def takePlace (target : Path) (place goal : Location) : Node → Option Node → FileAction Unit
  | _, none => modify (·.relocate place goal)
  | .file .., some (.file ..) => modify fun fs => (fs.prune goal).relocate place goal
  | .file .., some .directory => refuse .isDirectory target
  | .directory, some (.file ..) => refuse .notDirectory target
  | .directory, some .directory => refuse .notEmpty target

/-- Gives an entry a new place. -/
def rename (source target : Path) : FileAction Unit := do
  let _ ← place source
  let (goal, there) ← slot target
  if endsInDots source || endsInDots target then refuse .busy source
  else
    let (place, node) ← entry source
    if place = goal then return ()
    else if place.isPrefixOf goal then refuse .invalid source
    else takePlace target place goal node there

/-- Moves a directory that could not be renamed by way of a copy. A busy directory, one whose
path ends in a double dot, is emptied, but its path leads nowhere once it is: the names before
the double dot are gone. -/
def copyDirectory (source place : Path) (here : Location) (fault : FileFault) :
    FileAction Unit := do
  match ← slot place with
  | (_, some _) => refuse .alreadyExists place
  | (goal, none) =>
    if fault = .refused .busy source then
      modify fun fs => (fs.relocate here goal).put here .directory
      refuse .notFound source
    else throw fault

/-- Moves an entry that could not be renamed. A directory does not go into itself. -/
def copyOver (source target place : Path) (fault : FileFault) : FileAction Unit := do
  match ← entry source with
  | (here, .directory) =>
    let cwd : Path := { anchor := .root, names := (← get).cwd }
    if (source.canonical cwd).isWithin (target.canonical cwd) then
      throw (.insideItself source target)
    else copyDirectory source place here fault
  | (_, .file ..) => throw fault

/-- Renames an entry, or copies it when that is refused. -/
def renameOrCopy (source target place : Path) : FileAction Unit :=
  tryCatch (rename source place) fun fault =>
    if fault.isRefusal then copyOver source target place fault else throw fault

/-- How the place of an entry inside a directory is spelled. -/
def spellInside (directory entry : Path) : String :=
  let name := if entry.isAbsolute || !entry.names.isEmpty then entry.name else "."
  if directory.isAbsolute && directory.names.isEmpty then directory.toString ++ name
  else directory.toString ++ "/" ++ name

/-- Moves an entry into a directory. -/
def moveInto (source target : Path) : FileAction Unit := do
  let inside := target.child source.name
  if (← get).holdsSomething inside then throw (.occupied (spellInside target source))
  else renameOrCopy source target inside

/-- Moves a file or directory; into `target` if that is a directory. -/
def move (source target : Path) : FileAction Unit := do
  let fs ← get
  if fs.isDirectory target then
    if fs.isSamePlace source target then rename source target
    else moveInto source target
  else renameOrCopy source target target

end FileAction

end GroovyRounds
