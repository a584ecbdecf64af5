import GroovyRounds.Build.Start
import GroovyRounds.Build.Stubs
import GroovyRounds.Charset.Name

/-!
# Running the compiler

An invocation runs the compiler program to its end and reads what it emits as
compiler output. In process, text is read as it is emitted and a failure of the
program becomes text of the error stream. A child process is read when it has
ended, its output before its errors.
-/

namespace GroovyRounds

-- ---------------------------------------------------------------------------
-- Actions of the program
-- ---------------------------------------------------------------------------

/-- The world and what the compiler reported while a program runs. -/
structure Running where
  world : World
  reported : CompilerOutput := .initial

namespace Running

/-- The failure of a receiver of statuses. -/
abbrev Refusal := String → Option Failure

def feed (refuses : Refusal) (stream text : String) (running : Running) :
    Running × Option Failure :=
  let (reported, refusal?) := running.reported.feed refuses stream text
  ({ running with reported }, refusal?)

def finish (refuses : Refusal) (code : Int) (running : Running) : Running × Option Failure :=
  let (reported, refusal?) := running.reported.finish refuses code
  ({ running with reported }, refusal?)

def onFiles (action : FileAction Unit) (running : Running) : Running × Option Failure :=
  match action running.world.files with
  | (.ok (), files) => ({ running with world := { running.world with files } }, none)
  | (.error fault, files) =>
    ({ running with world := { running.world with files } }, some (.files fault))

/-- Writes a file and the directories it needs. -/
def writeDeep (p : Path) (content : List UInt8) : FileAction Unit := do
  FileAction.makeDirectories true p.parent
  FileAction.writeBytes p content

/-- Schedules a source and marks its chunk. -/
def schedule (ctx : Context) (chunk : Chunk) (source : Path) (running : Running) :
    Running × Option Failure :=
  match running.world.schedule? ctx chunk source with
  | some world => ({ running with world }, none)
  | none => (running, some (.foreign "OSError" ("cannot mark " ++ source.toString)))

/-- Performs one action; text is read at once. -/
def perform (ctx : Context) (refuses : Refusal) (running : Running) :
    CompilerAction → Running × Option Failure
  | .emit stream text => running.feed refuses stream text
  | .write p content => running.onFiles (writeDeep p content)
  | .remove p => running.onFiles (FileAction.removeFile p)
  | .postProcess chunk source =>
    ({ running with world := running.world.postProcess ctx chunk source }, none)
  | .schedule chunk source => running.schedule ctx chunk source

/-- Performs actions until one fails. -/
def performAll (ctx : Context) (refuses : Refusal) :
    List CompilerAction → Running → Running × Option Failure
  | [], running => (running, none)
  | action :: actions, running =>
    match running.perform ctx refuses action with
    | (running, some failure) => (running, some failure)
    | (running, none) => performAll ctx refuses actions running

/-- The run is over: what it reported is kept. -/
def close (running : Running) : Running :=
  { running with
    world := { running.world with outputs := running.world.outputs ++ [running.reported] } }

-- ---------------------------------------------------------------------------
-- In process
-- ---------------------------------------------------------------------------

/-- Ends a run whose program failed: its failure is reported as an error of code 1. -/
def endFailed (refuses : Refusal) (failure : Failure) (running : Running) :
    Running × Option Failure :=
  match running.feed refuses CompilerOutput.errorStream (failure.trace) with
  | (running, some refusal) => (running, some refusal)
  | (running, none) => running.finish refuses 1

def endReturned (refuses : Refusal) (value : Json) (running : Running) :
    Running × Option Failure :=
  match exitCode value with
  | .error failure => (running, some failure)
  | .ok code => running.finish refuses code

/-- How the program ended, when its actions may have failed. -/
def endingOf (run : CompilerRun) (failure? : Option Failure) : CompilerEnding :=
  match failure? with
  | some failure => .failed failure
  | none => run.ending

/-- Ends a run in this process. Only an interrupt gets through. -/
def conclude (refuses : Refusal) (ending : CompilerEnding) (running : Running) :
    Running × Option Failure :=
  match ending with
  | .returned value => running.endReturned refuses value
  | .failed .interrupted => (running, some .interrupted)
  | .failed failure => running.endFailed refuses failure

def runInProcess (ctx : Context) (refuses : Refusal) (run : CompilerRun) (running : Running) :
    Running × Option Failure :=
  let (running, failure?) := running.performAll ctx refuses run.actions
  running.conclude refuses (endingOf run failure?)

-- ---------------------------------------------------------------------------
-- In a child process
-- ---------------------------------------------------------------------------

/-- What a child process writes to its two streams, and how it ends. -/
structure ChildOutput where
  output : String := ""
  errors : String := ""
  code : Int := 0

/-- The text on a stream of what was written before. -/
def ChildOutput.write (child : ChildOutput) (stream text : String) : ChildOutput :=
  if stream = CompilerOutput.errorStream then { child with errors := child.errors ++ text }
  else { child with output := child.output ++ text }

def ChildOutput.fail (child : ChildOutput) (failure : Failure) : ChildOutput :=
  { child.write CompilerOutput.errorStream (failure.trace) with code := 1 }

/-- The code that a process ends with: the low eight bits of a machine word. -/
def processCode (n : Int) : Int :=
  if -9223372036854775808 ≤ n && n < 9223372036854775808 then n % 256 else 255

/-- Ends the program of a child process. A value that is no code is written as an error. -/
def ChildOutput.conclude (child : ChildOutput) : CompilerEnding → ChildOutput
  | .returned (.scalar .null) => { child with code := 0 }
  | .returned (.scalar (.boolean b)) => { child with code := if b then 1 else 0 }
  | .returned (.scalar (.integer n)) => { child with code := processCode n }
  | .returned value =>
    { child.write CompilerOutput.errorStream (value.display ++ "\n") with code := 1 }
  | .failed failure => child.fail failure

/-- Performs the actions of a child process. Its own are on files; a source that others cannot
schedule meanwhile is their failure. -/
def performChild (ctx : Context) :
    List CompilerAction → World → ChildOutput → World × ChildOutput × Option Failure
  | [], world, child => (world, child, none)
  | .emit stream text :: actions, world, child =>
    performChild ctx actions world (child.write stream text)
  | .postProcess chunk source :: actions, world, child =>
    performChild ctx actions (world.postProcess ctx chunk source) child
  | .schedule chunk source :: actions, world, child =>
    performChild ctx actions ((world.schedule? ctx chunk source).getD world) child
  | .write p content :: actions, world, child =>
    match writeDeep p content world.files with
    | (.ok (), files) => performChild ctx actions { world with files } child
    | (.error fault, files) => ({ world with files }, child, some (.files fault))
  | .remove p :: actions, world, child =>
    match FileAction.removeFile p world.files with
    | (.ok (), files) => performChild ctx actions { world with files } child
    | (.error fault, files) => ({ world with files }, child, some (.files fault))

/-- Reads what a child process wrote to a stream, in the given character set and with one kind
of line end. -/
def readStream (refuses : Refusal) (charset : Charset) (stream text : String)
    (running : Running) : Running × Option Failure :=
  match charset.reread text with
  | .error fault => (running, some (.charset fault))
  | .ok text =>
    running.feed refuses stream (String.ofList (Text.unifyLineEnds text.toList))

/-- Reads the output of a child process that has ended. -/
def readChild (refuses : Refusal) (charset : Charset) (child : ChildOutput)
    (running : Running) : Running × Option Failure :=
  let (running, first?) :=
    running.readStream refuses charset CompilerOutput.outputStream child.output
  let (running, second?) :=
    running.readStream refuses charset CompilerOutput.errorStream child.errors
  match first? <|> second? with
  | some failure => (running, some failure)
  | none => running.finish refuses child.code

def runForked (ctx : Context) (refuses : Refusal) (charset : Charset) (run : CompilerRun)
    (running : Running) : Running × Option Failure :=
  let (world, child, failure?) := performChild ctx run.actions running.world {}
  readChild refuses charset (child.conclude (endingOf run failure?)) { running with world }

end Running

-- ---------------------------------------------------------------------------
-- Invocations
-- ---------------------------------------------------------------------------

namespace Invocation

/-- Why an invocation cannot start, or the character set of its text. -/
def prepare (invocation : Invocation) (ctx : Context) (files : FileSystem)
    (parameters : List String) : Except Failure Charset :=
  match invocation with
  | .inProcess .. => .ok .utf8
  | .forked java mainClass classpath machine encoding =>
    match Charset.ofName encoding with
    | .error fault => .error (.charset fault)
    | .ok charset =>
      match startFault? files ctx (command java mainClass classpath machine parameters) with
      | some failure => .error failure
      | none => .ok charset

/-- The content of the argument file, the third parameter. -/
def parameterContent (files : FileSystem) (parameters : List String) : Option (List UInt8) := do
  match files.stat (Path.ofString (← parameters[2]?)) with
  | .ok (_, .file content _) => some content
  | _ => none

/-- The start of the compiler that an invocation makes. -/
def call (invocation : Invocation) (parameters : List String) (world : World) :
    CompilerCall where
  invocation
  parameters
  argumentFile := parameterContent world.files parameters

/-- What the compiler program does when it is started. -/
def program (invocation : Invocation) (ctx : Context) (parameters : List String)
    (world : World) : CompilerRun :=
  ctx.compiler world.calls (invocation.call parameters world) world.files

/-- Runs a program that has been started. -/
def execute (invocation : Invocation) (ctx : Context) (refuses : Running.Refusal)
    (charset : Charset) (run : CompilerRun) (running : Running) : Running × Option Failure :=
  match invocation with
  | .inProcess .. => running.runInProcess ctx refuses run
  | .forked .. => running.runForked ctx refuses charset run

def run (invocation : Invocation) (ctx : Context) (refuses : Running.Refusal)
    (parameters : List String) (world : World) : Running × Option Failure :=
  match invocation.prepare ctx world.files parameters with
  | .error failure => ({ world }, some failure)
  | .ok charset =>
    let calls := world.calls ++ [invocation.call parameters world]
    let (running, failure?) := invocation.execute ctx refuses charset
      (invocation.program ctx parameters world) { world := { world with calls } }
    (running.close, failure?)

end Invocation

end GroovyRounds
