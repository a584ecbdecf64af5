import GroovyRounds.Charset.Fault
import GroovyRounds.ClassFile.Header
import GroovyRounds.FileSystem.Fault
import GroovyRounds.Project.Target
import GroovyRounds.Text.Numeral

/-!
# Failures

What can end a build round, a compiler run or the reading of a class early.
-/

namespace GroovyRounds

-- ---------------------------------------------------------------------------
-- Starting a compiler
-- ---------------------------------------------------------------------------

/-- Why the compiler cannot be started. -/
inductive LaunchFault where
  | badReference (reference : String)
  | runnerMissing (reference : String)
  | runnerNotCallable (reference : String)
  | noRunner
  | notStarted (command : String) (fault : FileFault)
deriving DecidableEq, Repr

def LaunchFault.message : LaunchFault → String
  | .badReference reference =>
    "Invalid in-process runner reference '" ++ reference ++ "', expected 'module:attribute'"
  | .runnerMissing reference => "Cannot load in-process runner '" ++ reference ++ "': not found"
  | .runnerNotCallable reference => "In-process runner '" ++ reference ++ "' is not callable"
  | .noRunner => "In-process compilation requested but no in_process_runner is configured"
  | .notStarted command fault =>
    "Failed to start compiler process " ++ command ++ ": " ++ fault.message

-- ---------------------------------------------------------------------------
-- Preparing stub directories
-- ---------------------------------------------------------------------------

inductive StubFault where
  | cannotClean (directory : Path)
  | cannotCreate (directory : Path)
deriving DecidableEq, Repr

def StubFault.message : StubFault → String
  | .cannotClean directory => "External make cannot clean " ++ directory.toString
  | .cannotCreate directory => "External make cannot create " ++ directory.toString

-- ---------------------------------------------------------------------------
-- All failures
-- ---------------------------------------------------------------------------

inductive Failure where
  /-- The user interrupts. No round may hide it. -/
  | interrupted
  /-- A round of a chunk failed. -/
  | round (text : String)
  | launch (fault : LaunchFault)
  | files (fault : FileFault)
  | stubs (fault : StubFault) (cause : FileFault)
  | classFile (fault : ClassFile.Fault)
  | notText (fault : NotText)
  | loneHalves (fault : LoneHalves)
  | numeral (fault : NumeralFault)
  /-- A version of another sort than text. -/
  | versionSort (sort : String)
  /-- A module name of another sort than text stands for a directory. -/
  | directorySort (sort : String)
  /-- A runner reference without a package to start from. -/
  | relativeRunner (name : String)
  /-- A text that has no readable character set. -/
  | charset (fault : Charset.Fault)
  /-- A target without output among those given. -/
  | noOutput (target : TargetId)
  /-- An exit value that is no number. -/
  | exitSort (sort : String)
  /-- An exit value without bounds. -/
  | unbounded (x : Double)
  /-- A round failed, and its chunk has no name to say so with. -/
  | unnamed (fault : NotText) (cause : Failure)
  /-- A participant of the build failed. -/
  | foreign (label text : String)
deriving DecidableEq, Repr

namespace Failure

/-- The word for the kind of failure. -/
def label : Failure → String
  | .interrupted => "KeyboardInterrupt"
  | .round _ => "ProjectBuildError"
  | .launch _ => "CompilerInvocationError"
  | .files fault => fault.label
  | .stubs .. => "OSError"
  | .classFile _ => "ClassFormatError"
  | .numeral _ => "ValueError"
  | .loneHalves _ => "UnicodeEncodeError"
  | .notText _ | .versionSort _ | .directorySort _ | .relativeRunner _ | .exitSort _
  | .unnamed .. => "TypeError"
  | .charset fault => fault.label
  | .noOutput _ => "KeyError"
  | .unbounded x => if x = .notANumber then "ValueError" else "OverflowError"
  | .foreign label _ => label

/-- The label with the place where the kind of failure is defined. -/
def qualifiedLabel (failure : Failure) : String :=
  match failure with
  | .round _ => "gbuild.build.messages." ++ failure.label
  | .launch _ => "gbuild.build.invoker." ++ failure.label
  | .classFile _ => "gbuild.build.class_reader." ++ failure.label
  | .files (.occupied _) | .files (.insideItself ..) => "shutil." ++ failure.label
  | _ => failure.label

def message : Failure → String
  | .interrupted => ""
  | .round text => text
  | .launch fault => fault.message
  | .files fault => fault.message
  | .stubs fault cause => fault.message ++ ": " ++ cause.message
  | .classFile fault => fault.message
  | .notText fault | .unnamed fault _ => fault.message
  | .loneHalves fault => fault.message
  | .numeral fault => fault.message
  | .versionSort sort => "expected string or bytes-like object, got '" ++ sort ++ "'"
  | .directorySort sort =>
    "unsupported operand type(s) for /: 'PosixPath' and '" ++ sort ++ "'"
  | .relativeRunner name =>
    "the 'package' argument is required to perform a relative import for " ++
      Text.quoteString name
  | .charset fault => fault.message
  | .noOutput target => target.display
  | .exitSort sort =>
    "int() argument must be a string, a bytes-like object or a real number, not '" ++ sort ++ "'"
  | .unbounded x =>
    "cannot convert float " ++ (if x = .notANumber then "NaN" else "infinity") ++ " to integer"
  | .foreign _ text => text

/-- One line that names the failure, followed by its text if there is one. -/
def report (failure : Failure) : String :=
  if failure.message.isEmpty then failure.qualifiedLabel
  else failure.qualifiedLabel ++ ": " ++ failure.message

/-- The failure as a trace, after the failure it arose from. -/
def trace (failure : Failure) : String :=
  let own := "Traceback (most recent call last):\n" ++ failure.report ++ "\n"
  match failure with
  | .unnamed _ cause =>
    cause.trace ++ "\nDuring handling of the above exception, another exception occurred:\n\n" ++
      own
  | _ => own

end Failure

end GroovyRounds
