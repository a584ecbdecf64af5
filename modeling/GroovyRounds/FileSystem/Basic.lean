import GroovyRounds.FileSystem.Fault

/-!
# The file system

Files and directories by location, and the walk from a path to a location.
There are no links, so a location is the list of names below the root.
-/

namespace GroovyRounds

abbrev Location := List String

inductive Node where
  | file (content : List UInt8) (executable : Bool)
  | directory
deriving DecidableEq, Repr

structure FileSystem where
  /-- Every file and directory but the root. -/
  nodes : List (Location × Node)
  /-- The working directory. -/
  cwd : Location
deriving Repr

namespace FileSystem

-- ---------------------------------------------------------------------------
-- Nodes by location
-- ---------------------------------------------------------------------------

def node? (fs : FileSystem) (place : Location) : Option Node :=
  if place = [] then some .directory else fs.nodes.lookup place

/-- Puts a node at a place, over the node there. -/
def put (fs : FileSystem) (place : Location) (node : Node) : FileSystem :=
  { fs with nodes := (place, node) :: fs.nodes.filter (·.1 ≠ place) }

/-- Removes a place and all that lies below it. -/
def prune (fs : FileSystem) (place : Location) : FileSystem :=
  { fs with nodes := fs.nodes.filter fun (p, _) => !place.isPrefixOf p }

/-- Moves a place and all that lies below it. -/
def relocate (fs : FileSystem) (source target : Location) : FileSystem :=
  { fs with nodes := fs.nodes.map fun (p, node) =>
      if source.isPrefixOf p then (target ++ p.drop source.length, node) else (p, node) }

/-- All places below a directory. -/
def below (fs : FileSystem) (place : Location) : List (Location × Node) :=
  fs.nodes.filter fun (p, _) => place.isPrefixOf p && p ≠ place

/-- Makes a directory and the directories above it, where nothing is. -/
def plantDirectory (fs : FileSystem) (place : Location) : FileSystem :=
  (List.range place.length).foldl (fun fs n =>
    let above := place.take (n + 1)
    if (fs.node? above).isSome then fs else fs.put above .directory) fs

/-- Puts a file, and the directories above it. -/
def plant (fs : FileSystem) (place : Location) (node : Node) : FileSystem :=
  (fs.plantDirectory place.dropLast).put place node

-- ---------------------------------------------------------------------------
-- From paths to locations
-- ---------------------------------------------------------------------------

def nameLimit : Nat := 255

def pathLimit : Nat := 4096

/-- Walks names from a place. Every place left behind is a directory. -/
def descend (fs : FileSystem) (place : Location) : List String → Except Refusal Location
  | [] => .ok place
  | name :: names =>
    match fs.node? place with
    | none => .error .notFound
    | some (.file ..) => .error .notDirectory
    | some .directory =>
      if name = ".." then descend fs place.dropLast names
      else if nameLimit < name.utf8ByteSize then .error .nameTooLong
      else descend fs (place ++ [name]) names

def start (fs : FileSystem) (p : Path) : Location :=
  if p.isAbsolute then [] else fs.cwd

/-- The place a path leads to; nothing need be there. -/
def locate (fs : FileSystem) (p : Path) : Except Refusal Location :=
  if pathLimit ≤ p.toString.utf8ByteSize then .error .nameTooLong
  else fs.descend (fs.start p) p.names

def hasZero (p : Path) : Bool :=
  p.names.any (·.toList.contains (Char.ofNat 0))

/-- The place and the node a path leads to. -/
def stat (fs : FileSystem) (p : Path) : Except Refusal (Location × Node) :=
  match fs.locate p with
  | .error refusal => .error refusal
  | .ok place =>
    match fs.node? place with
    | none => .error .notFound
    | some node => .ok (place, node)

/-- The node a path leads to, if any; only a walk that cannot be made is a fault. -/
def probe (fs : FileSystem) (p : Path) : Except FileFault (Option Node) :=
  if hasZero p then .ok none
  else match fs.stat p with
    | .ok (_, node) => .ok (some node)
    | .error refusal =>
      if refusal.leadsNowhere then .ok none else .error (.refused refusal p)

def isDirectory (fs : FileSystem) (p : Path) : Bool :=
  match fs.stat p with
  | .ok (_, .directory) => !hasZero p
  | _ => false

def holdsSomething (fs : FileSystem) (p : Path) : Bool :=
  match fs.stat p with
  | .ok _ => !hasZero p
  | .error _ => false

/-- Two paths lead to one place. -/
def isSamePlace (fs : FileSystem) (p q : Path) : Bool :=
  match fs.locate p, fs.locate q with
  | .ok here, .ok there => here = there
  | _, _ => false

end FileSystem

end GroovyRounds
