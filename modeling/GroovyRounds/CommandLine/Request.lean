import GroovyRounds.CommandLine.Options
import GroovyRounds.Path

/-!
# Requests

What the user asks for: `compile` or `clean-stubs` with a project file, help,
or the version.
-/

namespace GroovyRounds.CommandLine

structure CompileArguments where
  projectFile : Path
  config : Option Path := none
  verbose : Bool := false
deriving DecidableEq, Repr

inductive Command where
  | compile (args : CompileArguments)
  | cleanStubs (projectFile : Path)
deriving DecidableEq, Repr

def Command.projectFile : Command → Path
  | .compile args => args.projectFile
  | .cleanStubs projectFile => projectFile

inductive Request where
  | help
  | version
  | malformed
  /-- No command is given. -/
  | nothing
  | run (command : Command)
deriving DecidableEq, Repr

-- ---------------------------------------------------------------------------
-- Grammars
-- ---------------------------------------------------------------------------

def helpOptions : List (String × OptionEffect) :=
  [("-h", .help), ("--help", .help)]

def mainGrammar : Grammar where
  options := helpOptions ++ [("--version", .version)]
  positional := .rest

def compileGrammar : Grammar where
  options := helpOptions ++
    [("-c", .value "config"), ("--config", .value "config"), ("-v", .flag "verbose"),
      ("--verbose", .flag "verbose")]
  positional := .single

def cleanStubsGrammar : Grammar where
  options := helpOptions
  positional := .single

-- ---------------------------------------------------------------------------
-- From words to requests
-- ---------------------------------------------------------------------------

/-- What stops the reading first: help, the version, or a break of the grammar. -/
def stop? (said : List Said) : Option Request :=
  said.findSome? fun
    | .help => some .help
    | .version => some .version
    | .broken => some .malformed
    | _ => none

def hasExtra (said : List Said) : Bool :=
  said.any fun
    | .extra _ => true
    | _ => false

/-- The last value given for a key. -/
def value? (said : List Said) (key : String) : Option String :=
  said.reverse.findSome? fun
    | .value k text => if k = key then some text else none
    | _ => none

def argument? (said : List Said) : Option String :=
  said.findSome? fun
    | .arguments words => words.head?
    | _ => none

/-- A command of this name, with what the words after it say. -/
def readCommand (name : String) (args : List String) : Request :=
  let finish (said : List Said) (command : Path → Command) : Request :=
    match stop? said, argument? said with
    | some request, _ => request
    | none, some file =>
      if hasExtra said then .malformed else .run (command (Path.ofString file))
    | none, none => .malformed
  if name = "compile" then
    let said := compileGrammar.parse args
    finish said fun projectFile => .compile {
      projectFile
      config := (value? said "config").map Path.ofString
      verbose := said.contains (.flag "verbose") }
  else if name = "clean-stubs" then finish (cleanStubsGrammar.parse args) .cleanStubs
  else .malformed

/-- What the user asks for. A word that nothing takes breaks the line only at its end, after
help has been given. -/
def Request.ofArguments (args : List String) : Request :=
  let rec go (extra : Bool) : List Said → Request
    | [] => if extra then .malformed else .nothing
    | .help :: _ => .help
    | .version :: _ => .version
    | .arguments (name :: rest) :: said =>
      match readCommand name rest with
      | .run command => if extra || hasExtra said then .malformed else .run command
      | request => request
    | .extra _ :: said => go true said
    | _ :: _ => .malformed
  go false (mainGrammar.parse args)

end GroovyRounds.CommandLine
