import GroovyRounds.Text.Blank
import GroovyRounds.Text.Lower

/-!
# Messages

What the build tells its user: progress, notes, warnings and errors.
-/

namespace GroovyRounds

inductive MessageKind where
  | progress
  | info
  | warning
  | error
deriving DecidableEq, Repr

namespace MessageKind

def word : MessageKind → String
  | .progress => "progress"
  | .info => "info"
  | .warning => "warning"
  | .error => "error"

def capitals : MessageKind → String
  | .progress => "PROGRESS"
  | .info => "INFO"
  | .warning => "WARNING"
  | .error => "ERROR"

/-- The kind a word names, whatever its case and the blanks around it; an unknown word is a note. -/
def ofWord (cs : List Char) : MessageKind :=
  let word := Text.lower (Text.trim cs)
  ([progress, info, warning, error].find? fun kind => kind.word.toList = word).getD .info

end MessageKind

structure Message where
  kind : MessageKind
  text : String
  /-- Who reports it. -/
  builder : String := ""
  source : Option String := none
  line : Option Int := none
  column : Option Int := none
deriving DecidableEq, Repr

namespace Message

def ofProgress (text : String) : Message where
  kind := .progress
  text

def isError (message : Message) : Bool :=
  message.kind = .error

/-- Source, line and column, as far as they are known. -/
def location (message : Message) : String :=
  match message.source with
  | none | some "" => ""
  | some source =>
    let place := match message.line, message.column with
      | none, _ => source
      | some line, none => source ++ ":" ++ toString line
      | some line, some column => source ++ ":" ++ toString line ++ ":" ++ toString column
    place ++ ": "

def display (message : Message) : String :=
  message.kind.capitals ++ ": " ++ message.location ++ message.text

end Message

end GroovyRounds
