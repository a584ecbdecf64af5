import GroovyRounds.Build.Launch

/-!
# Starting programs

A command starts if its arguments are not too long and its file is a program: one
of the system's own, or an executable script whose first line names a program
that starts. A command without a slash is tried in each directory of the search
path.
-/

namespace GroovyRounds

-- ---------------------------------------------------------------------------
-- Scripts
-- ---------------------------------------------------------------------------

/-- How much of a file is looked at to find out what it is. -/
def headLength : Nat := 256

def isSpaceOrTab (b : UInt8) : Bool :=
  b = 0x20 || b = 0x09

/-- Where a word ends. -/
def endsWord (b : UInt8) : Bool :=
  isSpaceOrTab b || b = 0

/-- The first line of a script after its mark: up to a line feed, or as much as is looked at if
the first word is complete there. -/
def scriptLine? (head : List UInt8) : Option (List UInt8) :=
  let front := head.takeWhile (· ≠ 0)
  if front.contains 0x0A then some (front.takeWhile (· ≠ 0x0A))
  else if (head.dropWhile isSpaceOrTab).any endsWord then some (head.take (headLength - 3))
  else none

/-- The program that a script names in its first line. -/
def interpreter? (content : List UInt8) : Option String :=
  match content.take headLength ++ List.replicate (headLength - content.length) 0 with
  | 0x23 :: 0x21 :: head => do
    let word := ((← scriptLine? head).dropWhile isSpaceOrTab).takeWhile (!endsWord ·)
    if word.isEmpty then none
    else return String.ofList ((Text.Utf8.decodeText word).getD [])
  | _ => none

-- ---------------------------------------------------------------------------
-- Program files
-- ---------------------------------------------------------------------------

/-- A path spelled with a slash or a dot at its end leads to a directory only. -/
def spellsDirectory (s : String) : Bool :=
  match (Text.splitOn '/' s.toList).getLast? with
  | some [] | some ['.'] => true
  | _ => false

/-- How many files, each naming the next, may lead to a program. -/
def scriptDepth : Nat := 6

/-- Why a file is not started as a program. -/
def startRefusal? (files : FileSystem) (system : List Path) : Nat → String → Option Refusal
  | 0, _ => some .looped
  | depth + 1, name =>
    let p := Path.ofString name
    if name.isEmpty then some .notFound
    else if system.contains p && !spellsDirectory name then none
    else match files.stat p with
      | .error refusal => some refusal
      | .ok (_, .directory) => some .denied
      | .ok (_, .file content executable) =>
        if spellsDirectory name then some .notDirectory
        else if !executable then some .denied
        else match interpreter? content with
          | none => some .notExecutable
          | some program => startRefusal? files system depth program

/-- The files that a command may mean, in the order in which they are tried. -/
def commandFiles (searchPath : Option String) (command : String) : List String :=
  if command.toList.contains '/' then [command]
  else (Text.splitOn ':' (searchPath.getD "").toList).map fun directory =>
    inDirectory (String.ofList directory) command

/-- Why none of the files is started: the first refusal that is not about a missing file, or the
last one. -/
def firstRefusal? (refusals : List (Option Refusal)) : Option Refusal :=
  if refusals.contains none then none
  else
    let refusals := refusals.filterMap id
    (refusals.find? fun refusal => !refusal.leadsNowhere) <|> refusals.getLast?

-- ---------------------------------------------------------------------------
-- Commands
-- ---------------------------------------------------------------------------

/-- The length of an argument with the mark at its end. -/
def argumentSize (argument : String) : Nat :=
  argument.utf8ByteSize + 1

def argumentLimit : Nat := 131072

def commandLimit : Nat := 2097152

/-- The arguments of a command are too long, one of them or all together with their addresses. -/
def isTooLong (command : List String) : Bool :=
  command.any (fun argument => argumentLimit < argumentSize argument) ||
    commandLimit < (command.foldl (fun size argument => size + argumentSize argument + 8) 0)

def holdsZero (s : String) : Bool :=
  s.toList.contains (Char.ofNat 0)

/-- Why a command cannot be started, if it cannot. -/
def startFault? (files : FileSystem) (ctx : Context) (command : List String) : Option Failure :=
  if command.any holdsZero then some (.files .zeroCharacter)
  else
    let name := command.headD ""
    let refusals := (commandFiles ctx.searchPath name).map fun file =>
      (startRefusal? files ctx.systemPrograms scriptDepth file) <|>
        if isTooLong command then some .tooLong else none
    (firstRefusal? refusals).map fun refusal =>
      .launch (.notStarted name (.refused refusal (Path.ofString name)))

end GroovyRounds
