import GroovyRounds.Build.World
import GroovyRounds.ClassFile.Least

/-!
# Scripted compilers

A compiler that follows a script: for each mode a list of programs, one a run,
the last one again and again. It reads its sources and its output directory
from the argument file.
-/

namespace GroovyRounds.Script

-- ---------------------------------------------------------------------------
-- Reading the argument file
-- ---------------------------------------------------------------------------

def linesOf (content : List UInt8) : List String :=
  (Text.lines (Text.unifyLineEnds ((Text.Utf8.decodeText content).getD []))).map String.ofList

/-- The sources at the front. -/
def sourcesOf : List String → List String
  | mark :: source :: rest => if mark = "src_file" then source :: sourcesOf rest else []
  | _ => []

/-- The line after the last `outputpath` that has one. -/
def outputOf (lines : List String) : String :=
  ((lines.zip lines.tail).filterMap fun (mark, line) =>
    if mark = "outputpath" then some line else none).getLastD ""

-- ---------------------------------------------------------------------------
-- Steps
-- ---------------------------------------------------------------------------

inductive Step where
  /-- Writes and reports one file for each source but those named. -/
  | classes (skip : List String)
  /-- Emits text, with the output directory for `\x7bout\x7d`. -/
  | emit (stream text : String)
  | write (path : String) (content : List UInt8)
  | remove (path : String)
  | postProcess (chunk : Chunk) (source : Option String)
  | schedule (chunk : Chunk) (source : Path)
  | exit (value : Json)
  | fail (failure : Failure)
deriving Repr

/-- A file name up to its last dot. -/
def stem (name : String) : String :=
  let cs := name.toList
  if cs.contains '.' then String.ofList (cs.reverse.dropWhile (· ≠ '.')).reverse.dropLast
  else name

/-- What a mode makes of its sources. -/
def extensionOf (mode : String) : String :=
  if mode = Role.stubs.mode then ".java" else ".class"

/-- The file made of a source. -/
def fileOf (mode out source : String) : String :=
  let directory := if out.toList.getLast? = some '/' then out else out ++ "/"
  directory ++ "pkg/" ++ stem (Path.ofString source).name ++ extensionOf mode

/-- Writes the file of a source and reports it. -/
def compileActions (mode out source : String) : List CompilerAction :=
  let file := fileOf mode out source
  [.write (Path.ofString file) (ClassFile.least ("pkg." ++ stem (Path.ofString source).name)),
    .emit CompilerOutput.outputStream ("%%compiled\t" ++ file ++ "\t" ++ source ++ "\n")]

/-- Puts the output directory in its place. -/
def fill (out text : String) : String :=
  text.replace "\x7bout\x7d" out

/-- Follows the steps of a program up to its end. -/
def follow (mode out : String) (sources : List String) : List Step → CompilerRun
  | [] => { actions := [], ending := .returned .null }
  | step :: steps =>
    let go (actions : List CompilerAction) : CompilerRun :=
      let rest := follow mode out sources steps
      { rest with actions := actions ++ rest.actions }
    match step with
    | .classes skip =>
      go ((sources.filter fun source => !skip.contains (Path.ofString source).name).flatMap
        (compileActions mode out))
    | .emit stream text => go [.emit stream (fill out text)]
    | .write path content => go [.write (Path.ofString (fill out path)) content]
    | .remove path => go [.remove (Path.ofString (fill out path))]
    | .postProcess chunk source => go [.postProcess chunk source]
    | .schedule chunk source => go [.schedule chunk source]
    | .exit value => { actions := [], ending := .returned value }
    | .fail failure => { actions := [], ending := .failed failure }

/-- The program for a run, after others. -/
def programOf (programs : List (List Step)) (earlier : Nat) : List Step :=
  programs.getD (min earlier (programs.length - 1)) []

def modeOf (call : CompilerCall) : String :=
  call.parameters.getD 1 ""

/-- The compiler that follows the programs of each mode. -/
def compiler (programs : String → List (List Step)) (history : List CompilerCall)
    (call : CompilerCall) (_files : FileSystem) : CompilerRun :=
  let mode := modeOf call
  let earlier := (history.filter fun other => modeOf other = mode).length
  let lines := (call.argumentFile.map linesOf).getD []
  follow mode (outputOf lines) (sourcesOf lines) (programOf (programs mode) earlier)

end GroovyRounds.Script
