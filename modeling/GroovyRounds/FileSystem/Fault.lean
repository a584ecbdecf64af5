import GroovyRounds.Path
import GroovyRounds.Text.Quoted

/-!
# Faults of the file system

Why an operation on files is refused, and how a refusal reads.
-/

namespace GroovyRounds

/-- What stands in the way of an operation on a path. -/
inductive Refusal where
  | notFound
  | alreadyExists
  | notDirectory
  | isDirectory
  | nameTooLong
  | notEmpty
  | busy
  | invalid
  | denied
  | notExecutable
  | tooLong
  /-- Too many scripts name one another. -/
  | looped
deriving DecidableEq, Repr

namespace Refusal

def number : Refusal → Nat
  | .notFound => 2
  | .alreadyExists => 17
  | .notDirectory => 20
  | .isDirectory => 21
  | .nameTooLong => 36
  | .notEmpty => 39
  | .busy => 16
  | .invalid => 22
  | .denied => 13
  | .notExecutable => 8
  | .tooLong => 7
  | .looped => 40

def words : Refusal → String
  | .notFound => "No such file or directory"
  | .alreadyExists => "File exists"
  | .notDirectory => "Not a directory"
  | .isDirectory => "Is a directory"
  | .nameTooLong => "File name too long"
  | .notEmpty => "Directory not empty"
  | .busy => "Device or resource busy"
  | .invalid => "Invalid argument"
  | .denied => "Permission denied"
  | .notExecutable => "Exec format error"
  | .tooLong => "Argument list too long"
  | .looped => "Too many levels of symbolic links"

/-- The word a diagnostic puts before the refusal. -/
def label : Refusal → String
  | .notFound => "FileNotFoundError"
  | .alreadyExists => "FileExistsError"
  | .notDirectory => "NotADirectoryError"
  | .isDirectory => "IsADirectoryError"
  | .denied => "PermissionError"
  | _ => "OSError"

/-- A missing name or a file on the way: the path leads nowhere. -/
def leadsNowhere (r : Refusal) : Bool :=
  r = .notFound || r = .notDirectory

end Refusal

inductive FileFault where
  | refused (refusal : Refusal) (path : Path)
  /-- A moved entry would replace the entry at this place. -/
  | occupied (place : String)
  | insideItself (source target : Path)
  /-- No path holds the zero character. -/
  | zeroCharacter
deriving DecidableEq, Repr

namespace FileFault

def message : FileFault → String
  | .refused refusal path =>
    "[Errno " ++ toString refusal.number ++ "] " ++ refusal.words ++ ": " ++
      Text.quoteString path.toString
  | .occupied place => "Destination path '" ++ place ++ "' already exists"
  | .insideItself source target =>
    "Cannot move a directory '" ++ source.toString ++ "' into itself '" ++ target.toString ++ "'."
  | .zeroCharacter => "embedded null byte"

def label : FileFault → String
  | .refused refusal _ => refusal.label
  | .occupied _ | .insideItself _ _ => "Error"
  | .zeroCharacter => "ValueError"

/-- The system refused: the path itself was well formed. -/
def isRefusal : FileFault → Bool
  | .zeroCharacter => false
  | _ => true

end FileFault

end GroovyRounds
