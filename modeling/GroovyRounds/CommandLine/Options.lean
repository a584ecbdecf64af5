import GroovyRounds.Text.Digit
import GroovyRounds.Text.Lines

/-!
# Options and arguments

Reading words as options and arguments. Long options may be cut short and may
carry a value after `=`; short options may be run together; after `--` all
words are arguments.
-/

namespace GroovyRounds.CommandLine

-- ---------------------------------------------------------------------------
-- Grammar
-- ---------------------------------------------------------------------------

/-- What an option does. -/
inductive OptionEffect where
  | help
  | version
  | flag (key : String)
  | value (key : String)
deriving DecidableEq, Repr

/-- What the arguments are. -/
inductive Positional where
  /-- One word. -/
  | single
  /-- A word and all that follows it. -/
  | rest
deriving DecidableEq, Repr

structure Grammar where
  /-- Option words with their effects; no word stands twice. -/
  options : List (String × OptionEffect)
  positional : Positional

-- ---------------------------------------------------------------------------
-- Kinds of words
-- ---------------------------------------------------------------------------

inductive Word where
  | argument (s : String)
  /-- The first `--`. -/
  | dashes
  /-- An option, with the text that is attached to it. -/
  | option (s : String) (name : String) (effect : OptionEffect) (attached : Option (List Char))
  /-- A word that looks like an option and is none. -/
  | unknown (s : String)
deriving DecidableEq, Repr

def Word.source : Word → String
  | .argument s | .option s .. | .unknown s => s
  | .dashes => "--"

def isDigits (cs : List Char) : Bool :=
  !cs.isEmpty && cs.all fun c => (Text.decimalValue? c).isSome

/-- A minus sign and a number without exponent. -/
def isNegativeNumber : List Char → Bool
  | '-' :: cs =>
    let cs := if cs.getLast? = some '\n' then cs.dropLast else cs
    isDigits cs ||
      match Text.splitOn '.' cs with
      | [whole, fraction] => (whole.isEmpty || isDigits whole) && isDigits fraction
      | _ => false
  | _ => false

/-- Splits a word at its first equals sign. -/
def splitSign (cs : List Char) : List Char × Option (List Char) :=
  let name := cs.takeWhile (· ≠ '=')
  match cs.drop name.length with
  | [] => (name, none)
  | _ :: text => (name, some text)

/-- The options a word may stand for, other than by its full name. -/
def Grammar.candidates (grammar : Grammar) (cs : List Char) :
    List (String × OptionEffect × Option (List Char)) :=
  match cs with
  | '-' :: '-' :: _ =>
    let (front, attached) := splitSign cs
    grammar.options.filterMap fun (name, effect) =>
      if front.isPrefixOf name.toList then some (name, effect, attached) else none
  | _ =>
    grammar.options.filterMap fun (name, effect) =>
      if name.toList = cs.take 2 then some (name, effect, some (cs.drop 2)) else none

/-- What a word is; `none` if it may stand for several options. -/
def Grammar.classify (grammar : Grammar) (s : String) : Option Word :=
  let cs := s.toList
  let exact (name : List Char) := grammar.options.lookup (String.ofList name)
  if cs.head? ≠ some '-' then some (.argument s)
  else match exact cs with
    | some effect => some (.option s s effect none)
    | none =>
      if cs.length = 1 then some (.argument s)
      else
        let (front, attached) := splitSign cs
        match attached, exact front with
        | some attached, some effect =>
          some (.option s (String.ofList front) effect (some attached))
        | _, _ =>
          match grammar.candidates cs with
          | [(name, effect, attached)] => some (.option s name effect attached)
          | _ :: _ :: _ => none
          | [] =>
            if isNegativeNumber cs || cs.contains ' ' then some (.argument s)
            else some (.unknown s)

/-- The kinds of all words. -/
def Grammar.words (grammar : Grammar) : List String → Option (List Word)
  | [] => some []
  | s :: rest =>
    if s = "--" then some (.dashes :: rest.map .argument)
    else do
      let word ← grammar.classify s
      return word :: (← grammar.words rest)

-- ---------------------------------------------------------------------------
-- Parsing
-- ---------------------------------------------------------------------------

/-- What words say, in the order in which they say it. -/
inductive Said where
  | help
  | version
  | flag (key : String)
  | value (key text : String)
  /-- The arguments: one word, or a word and what follows it. -/
  | arguments (words : List String)
  /-- A word that nothing takes. -/
  | extra (s : String)
  /-- The words break the grammar here. -/
  | broken
deriving DecidableEq, Repr

def OptionEffect.said : OptionEffect → Said
  | .help => .help
  | .version => .version
  | .flag key => .flag key
  | .value key => .value key ""

/-- An option without attached text: what it says and how many of the following words it
takes. -/
def readAlone (following : List Word) : OptionEffect → List Said × Nat
  | .value key =>
    match following with
    | .argument s :: _ => ([.value key s], 1)
    | _ => ([.broken], 0)
  | effect => ([effect.said], 0)

/-- An option with attached text. The text is the value of an option that takes one; after a
short option that takes none it is a run of more short options. A run says nothing unless all
of it can be read. -/
def Grammar.readAttached (grammar : Grammar) (following : List Word) (isShort : Bool) :
    List Char → OptionEffect → List Said × Nat
  | text, .value key => ([.value key (String.ofList text)], 0)
  | [], _ => ([.broken], 0)
  | c :: text, effect =>
    match if isShort then grammar.options.lookup (String.ofList ['-', c]) else none with
    | none => ([.broken], 0)
    | some next =>
      let (more, taken) :=
        if text.isEmpty then readAlone following next
        else grammar.readAttached following true text next
      (if more.contains .broken then [.broken] else effect.said :: more, taken)

/-- What an option says and how many of the following words it takes. -/
def Grammar.readOption (grammar : Grammar) (following : List Word) (name : String)
    (effect : OptionEffect) : Option (List Char) → List Said × Nat
  | none => readAlone following effect
  | some text => grammar.readAttached following (name.toList[1]? ≠ some '-') text effect

/-- Takes the arguments at the front, if they are still due and there is one. -/
def takeArguments (positional : Positional) (words : List Word) :
    Option (List String × List Word) :=
  match positional, words with
  | .single, .argument s :: .dashes :: rest => some ([s], rest)
  | .single, .argument s :: rest => some ([s], rest)
  | .single, .dashes :: .argument s :: rest => some ([s], rest)
  | .rest, .argument s :: rest => some (s :: rest.map (·.source), [])
  | .rest, .dashes :: .argument s :: rest => some ("--" :: s :: rest.map (·.source), [])
  | _, _ => none

/-- What words say. `due` tells whether the arguments are still to come; the fuel bounds the
number of steps. -/
def Grammar.read (grammar : Grammar) : Nat → Bool → List Word → List Said
  | 0, _, _ => [.broken]
  | _ + 1, due, [] => if due && grammar.positional = .single then [.broken] else []
  | fuel + 1, due, word :: words =>
    match word with
    | .option _ name effect attached =>
      let (said, taken) := grammar.readOption words name effect attached
      said ++ grammar.read fuel due (words.drop taken)
    | .unknown s => .extra s :: grammar.read fuel due words
    | _ =>
      match if due then takeArguments grammar.positional (word :: words) else none with
      | some (arguments, rest) => .arguments arguments :: grammar.read fuel false rest
      | none => .extra word.source :: grammar.read fuel due words

/-- What a command line says. -/
def Grammar.parse (grammar : Grammar) (args : List String) : List Said :=
  match grammar.words args with
  | some words => grammar.read (args.length + 1) true words
  | none => [.broken]

end GroovyRounds.CommandLine
