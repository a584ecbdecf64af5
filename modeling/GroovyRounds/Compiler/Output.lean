import GroovyRounds.Message
import GroovyRounds.OrderedMap
import GroovyRounds.Text.Lines
import GroovyRounds.Text.Numeral

/-!
# Compiler output

The compiler reports results in marker lines: progress, compiled units,
diagnostics, and a missing language runtime. Other lines of the error stream
are kept. Text arrives in pieces on several streams; an unfinished line waits
for its rest.
-/

namespace GroovyRounds

/-- A file the compiler wrote, and the source it came from. -/
structure OutputItem where
  output : String
  source : String
deriving DecidableEq, Repr

structure CompilerOutput where
  /-- The unfinished line of each stream. -/
  pending : OrderedMap String (List Char)
  compiled : List OutputItem := []
  diagnostics : List Message := []
  /-- The statuses reported so far. -/
  statuses : List String := []
  errorLines : List (List Char) := []
  noGroovy : Bool := false
  shouldRetry : Bool := false
  exitCode : Option Int := none
deriving Repr

namespace CompilerOutput

def outputStream : String := "stdout"

def errorStream : String := "stderr"

def initial : CompilerOutput where
  pending := ⟨[(outputStream, []), (errorStream, [])]⟩

instance : Inhabited CompilerOutput := ⟨initial⟩

def statusMarker : List Char := "%%status ".toList

def compiledMarker : List Char := "%%compiled\t".toList

def messageMarker : List Char := "%%message\t".toList

def noGroovyMarker : List Char := "%%no-groovy".toList

def compilerName : String := "Groovyc"

/-- Errors that stale or misordered classes may cause. -/
def retryTriggers : List (List Char) :=
  ["java.lang.NoClassDefFoundError".toList, "java.lang.TypeNotPresentException".toList,
    "unable to resolve class".toList]

-- ---------------------------------------------------------------------------
-- Lines
-- ---------------------------------------------------------------------------

def hasInfix (word : List Char) : List Char → Bool
  | [] => word.isEmpty
  | c :: cs => word.isPrefixOf (c :: cs) || hasInfix word cs

def dropMarker? (marker line : List Char) : Option (List Char) :=
  if marker.isPrefixOf line then some (line.drop marker.length) else none

/-- Each backslash followed by `n` becomes a line feed. -/
def unescapeLineFeeds : List Char → List Char
  | [] => []
  | '\\' :: 'n' :: cs => '\n' :: unescapeLineFeeds cs
  | c :: cs => c :: unescapeLineFeeds cs

/-- A positive number. -/
def position? (cs : List Char) : Option Int :=
  match Text.readInteger (String.ofList cs) with
  | .ok n => if 0 < n then some n else none
  | .error _ => none

/-- The diagnostic after its marker; with too few fields it is a note as it stands. -/
def readDiagnostic (payload : List Char) : Message :=
  match Text.splitOnAtMost '\t' 4 payload with
  | [kind, source, line, column, text] =>
    { kind := MessageKind.ofWord kind
      text := String.ofList (unescapeLineFeeds text)
      builder := compilerName
      source := if source = [] || source = ['-'] then none else some (String.ofList source)
      line := position? line
      column := position? column }
  | _ => { kind := .info, text := String.ofList payload, builder := compilerName }

/-- The compiled unit after its marker: two non-empty paths. -/
def readItem? (payload : List Char) : Option OutputItem :=
  match Text.splitOn '\t' payload with
  | [output, source] =>
    if output.isEmpty || source.isEmpty then none
    else some { output := String.ofList output, source := String.ofList source }
  | _ => none

/-- What a line reports. -/
inductive Report where
  | status (text : String)
  | compiled (item : Option OutputItem)
  | diagnostic (message : Message)
  | noGroovy
  /-- A line without a marker. -/
  | plain
deriving Repr

def readLine (line : List Char) : Report :=
  match dropMarker? statusMarker line with
  | some rest => .status (String.ofList (Text.trim rest))
  | none =>
    match dropMarker? compiledMarker line with
    | some rest => .compiled (readItem? rest)
    | none =>
      match dropMarker? messageMarker line with
      | some rest => .diagnostic (readDiagnostic rest)
      | none => if Text.trim line = noGroovyMarker then .noGroovy else .plain

/-- Takes a line other than a status. -/
def take (p : CompilerOutput) (stream : String) (line : List Char) : Report → CompilerOutput
  | .status text => { p with statuses := p.statuses ++ [text] }
  | .compiled item => { p with compiled := p.compiled ++ item.toList }
  | .diagnostic message => { p with diagnostics := p.diagnostics ++ [message] }
  | .noGroovy => { p with noGroovy := true }
  | .plain =>
    if stream = errorStream then
      { p with
        errorLines := p.errorLines ++ [line]
        shouldRetry := p.shouldRetry || retryTriggers.any fun word => hasInfix word line }
    else p

variable {ε : Type}

/-- Takes one line. The listener may refuse a status, which ends the taking. -/
def takeLine (refuses : String → Option ε) (stream : String) (line : List Char)
    (p : CompilerOutput) : CompilerOutput × Option ε :=
  let line := Text.trimRight (· = '\r') line
  match readLine line with
  | .status text =>
    match refuses text with
    | some refusal => (p, some refusal)
    | none => (p.take stream line (.status text), none)
  | report => (p.take stream line report, none)

/-- Takes lines until one is refused. -/
def takeLines (refuses : String → Option ε) (stream : String) :
    List (List Char) → CompilerOutput → CompilerOutput × Option ε
  | [], p => (p, none)
  | line :: lines, p =>
    match p.takeLine refuses stream line with
    | (p, some refusal) => (p, some refusal)
    | (p, none) => takeLines refuses stream lines p

-- ---------------------------------------------------------------------------
-- Pieces of text
-- ---------------------------------------------------------------------------

def setPending (p : CompilerOutput) (stream : String) (rest : List Char) : CompilerOutput :=
  { p with pending := p.pending.insert stream rest }

/-- Feeds a piece of a stream's text. Lines after a refused one are lost. -/
def feed (refuses : String → Option ε) (stream text : String) (p : CompilerOutput) :
    CompilerOutput × Option ε :=
  let pieces := Text.splitOn '\n' ((p.pending.find? stream).getD [] ++ text.toList)
  (p.setPending stream (pieces.getLastD [])).takeLines refuses stream pieces.dropLast

/-- Takes the unfinished lines, stream by stream. -/
def flush (refuses : String → Option ε) :
    List (String × List Char) → CompilerOutput → CompilerOutput × Option ε
  | [], p => (p, none)
  | (stream, rest) :: streams, p =>
    if rest.isEmpty then flush refuses streams p
    else
      match p.takeLine refuses stream rest with
      | (p, some refusal) => (p, some refusal)
      | (p, none) => flush refuses streams (p.setPending stream [])

/-- Ends the run: takes what is unfinished and records the exit code. -/
def finish (refuses : String → Option ε) (code : Int) (p : CompilerOutput) :
    CompilerOutput × Option ε :=
  match p.flush refuses p.pending.entries with
  | (p, some refusal) => (p, some refusal)
  | (p, none) => ({ p with exitCode := some code }, none)

-- ---------------------------------------------------------------------------
-- Results
-- ---------------------------------------------------------------------------

def errorText (p : CompilerOutput) : List Char :=
  Text.joinWith ['\n'] p.errorLines

def noGroovyMessage (moduleName : String) : Message where
  kind := .error
  text := "Cannot compile Groovy files: no Groovy library is defined for module '" ++
    moduleName ++ "'"
  builder := compilerName

/-- The error for a failure that the compiler did not explain. -/
def failureMessage (code : Int) (errorText : List Char) : Message where
  kind := .error
  text := "Internal groovyc error: code " ++ toString code ++
    (if errorText.isEmpty then "" else "\n" ++ String.ofList errorText)
  builder := compilerName

/-- The compiler ended with a code other than zero. -/
def failed (p : CompilerOutput) : Bool :=
  p.exitCode.any (· ≠ 0)

/-- The diagnostics of the run, and that a runtime is missing. -/
def reported (p : CompilerOutput) (moduleName : String) : List Message :=
  p.diagnostics ++ (if p.noGroovy then [noGroovyMessage moduleName] else [])

/-- All messages of the run. A failure without an error gets one, so that none is silent. -/
def messages (p : CompilerOutput) (moduleName : String) : List Message :=
  if (p.reported moduleName).any Message.isError then p.reported moduleName
  else match p.exitCode with
    | none | some 0 => p.reported moduleName
    | some code => p.reported moduleName ++ [failureMessage code (Text.trim p.errorText)]

end CompilerOutput

end GroovyRounds
