import GroovyRounds.Text.Lines

/-!
# Paths

A path is an anchor and the names below it. Reading a path drops empty names
and single dots and keeps double dots; exactly two leading slashes are an
anchor of their own.
-/

namespace GroovyRounds

-- ---------------------------------------------------------------------------
-- The type
-- ---------------------------------------------------------------------------

inductive Anchor where
  /-- Below the working directory. -/
  | relative
  | root
  /-- Exactly two leading slashes. -/
  | doubleRoot
deriving DecidableEq, Repr

def Anchor.slashes : Anchor → String
  | .relative => ""
  | .root => "/"
  | .doubleRoot => "//"

structure Path where
  anchor : Anchor
  names : List String
deriving DecidableEq, Repr

namespace Path

/-- Names that a path keeps. -/
def isName (name : List Char) : Bool :=
  !name.isEmpty && name ≠ ['.']

def anchorOf : List Char → Anchor
  | '/' :: '/' :: '/' :: _ => .root
  | '/' :: '/' :: _ => .doubleRoot
  | '/' :: _ => .root
  | _ => .relative

/-- The names between the slashes of a text. -/
def namesOf (cs : List Char) : List String :=
  ((Text.splitOn '/' cs).filter isName).map String.ofList

def ofString (s : String) : Path :=
  { anchor := anchorOf s.toList, names := namesOf s.toList }

/-- The names with slashes between them. -/
def spellNames (names : List String) : String :=
  String.intercalate "/" names

def toString (p : Path) : String :=
  match p.anchor, p.names with
  | .relative, [] => "."
  | anchor, names => anchor.slashes ++ spellNames names

instance : ToString Path := ⟨Path.toString⟩

-- ---------------------------------------------------------------------------
-- Parts
-- ---------------------------------------------------------------------------

def isAbsolute (p : Path) : Bool :=
  p.anchor ≠ .relative

/-- The last name, empty for a bare anchor. -/
def name (p : Path) : String :=
  p.names.getLastD ""

/-- The path without its last name. -/
def parent (p : Path) : Path :=
  { p with names := p.names.dropLast }

/-- `q` seen from `p`: an absolute `q` stands for itself. -/
def append (p q : Path) : Path :=
  if q.isAbsolute then q else { p with names := p.names ++ q.names }

instance : Append Path := ⟨Path.append⟩

/-- Appends a path given as text. -/
def child (p : Path) (s : String) : Path :=
  p ++ ofString s

/-- `p` is `root` or lies below it. -/
def isWithin (root p : Path) : Bool :=
  p.anchor = root.anchor && root.names.isPrefixOf p.names

/-- The part of the last name from its last dot on, unless the dot starts or ends the name. -/
def suffix (p : Path) : List Char :=
  let cs := p.name.toList
  let stem := (cs.reverse.dropWhile (· ≠ '.')).reverse.dropLast
  let tail := cs.drop stem.length
  if stem.isEmpty || tail.length ≤ 1 || !cs.contains '.' then [] else tail

/-- Order name by name, so that a directory's files come before its longer-named sibling. -/
def le (p q : Path) : Bool :=
  !decide (q.names < p.names)

-- ---------------------------------------------------------------------------
-- Absolute and canonical forms
-- ---------------------------------------------------------------------------

/-- Resolves double dots against the names before them; at the top they vanish. -/
def climb (names : List String) : List String :=
  (names.foldl step []).reverse
where
  step (above : List String) (name : String) : List String :=
    if name = ".." then above.tail else name :: above

/-- The path seen from the working directory, without double dots. -/
def canonical (p cwd : Path) : Path :=
  let q := cwd ++ p
  { q with names := climb q.names }

/-- The canonical form with a single leading slash. -/
def resolve (p cwd : Path) : Path :=
  { anchor := .root, names := (p.canonical cwd).names }

def commonPrefix : List String → List String → Nat
  | a :: as, b :: bs => if a = b then commonPrefix as bs + 1 else 0
  | _, _ => 0

/-- How to reach `p` from `start`, both seen from the working directory. -/
def relativeTo (p start cwd : Path) : Path :=
  let from_ := (start.canonical cwd).names
  let to_ := (p.canonical cwd).names
  let shared := commonPrefix from_ to_
  { anchor := .relative
    names := List.replicate (from_.length - shared) ".." ++ to_.drop shared }

-- ---------------------------------------------------------------------------
-- Spelling with slashes
-- ---------------------------------------------------------------------------

/-- Turns backslashes into slashes. -/
def withSlashes (s : String) : String :=
  String.ofList (s.toList.map fun c => if c = '\\' then '/' else c)

@[simp] theorem parent_mk (anchor : Anchor) (names : List String) :
    parent ⟨anchor, names⟩ = ⟨anchor, names.dropLast⟩ := rfl

@[simp] theorem isWithin_self (p : Path) : isWithin p p = true := by
  simp [isWithin]

end Path

end GroovyRounds
