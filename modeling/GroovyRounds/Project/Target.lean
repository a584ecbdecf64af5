import GroovyRounds.Json.Value
import GroovyRounds.Path

/-!
# Build targets

The output unit of one module. Two targets are the same when they share name,
output and kind; the SDK attached to a module does not count.
-/

namespace GroovyRounds

-- ---------------------------------------------------------------------------
-- Names that are no text
-- ---------------------------------------------------------------------------

/-- A value stands where only a text can be joined. -/
structure NotText where
  position : Nat
  sort : String
deriving DecidableEq, Repr

def NotText.message (fault : NotText) : String :=
  "sequence item " ++ toString fault.position ++ ": expected str instance, " ++ fault.sort ++
    " found"

/-- The texts among values that all have to be texts. -/
def allTexts (start : Nat) : List Json → Except NotText (List String)
  | [] => .ok []
  | .scalar (.text s) :: values => do return s.display :: (← allTexts (start + 1) values)
  | value :: _ => .error { position := start, sort := value.sort }

-- ---------------------------------------------------------------------------
-- Targets
-- ---------------------------------------------------------------------------

inductive TargetKind where
  | production
  | test
deriving DecidableEq, Repr

namespace TargetKind

/-- The directory name for output generated per kind. -/
def directory : TargetKind → String
  | .production => "production"
  | .test => "test"

def ofName? (s : String) : Option TargetKind :=
  [production, test].find? (·.directory = s)

end TargetKind

structure Sdk where
  home : Path
  version : Json
deriving Repr

def Sdk.java (sdk : Sdk) : Path :=
  sdk.home.child "bin/java"

/-- What tells one target from another. -/
structure TargetId where
  /-- The module's name: a text, or another scalar that a project file gave. -/
  name : Scalar
  output : Option Path
  kind : TargetKind
deriving DecidableEq, Repr

def TargetId.display (target : TargetId) : String :=
  target.name.display ++ ":" ++ target.kind.directory

structure Target extends TargetId where
  sdk : Option Sdk
deriving Repr

end GroovyRounds
