import GroovyRounds.Message

/-!
# Console texts

How results and messages are laid out and coloured for a terminal.
-/

namespace GroovyRounds.Console

def escape (code : String) : String :=
  String.singleton (Char.ofNat 27) ++ "[" ++ code ++ "m"

def red : String := escape "1;31"

def green : String := escape "1;32"

def yellow : String := escape "1;33"

def plain : String := escape "0"

def cross : String := "✗ "

def tick : String := "✓ "

def line (text : String) : String :=
  text ++ "\n"

/-- A title, set off from the text below it. -/
def error (title text : String) : String :=
  line "" ++ line (red ++ cross ++ title ++ plain) ++ line "" ++ line text ++ line ""

def success (text : String) : String :=
  line "" ++ line (green ++ tick ++ text ++ plain)

def warning (text : String) : String :=
  line "" ++ line (yellow ++ cross ++ text ++ plain)

/-- A complaint about the command line. -/
def refusal (text : String) : String :=
  line (red ++ cross ++ "Error: " ++ text ++ plain)

/-- A build message; progress shows only when the user asks for details. -/
def message (verbose : Bool) (m : Message) : String :=
  match m.kind with
  | .progress => if verbose then line ("      " ++ m.text) else ""
  | .error => line (red ++ m.display ++ plain)
  | .warning => line (yellow ++ m.display ++ plain)
  | .info => line m.display

def interrupted : String :=
  warning "Build interrupted"

/-- A failure that nothing foresaw, with its trace if the user asks for details. -/
def unexpected (verbose : Bool) (label text trace : String) : String :=
  error "Unexpected error" (label ++ ": " ++ text) ++
    (if verbose then line "Traceback:" ++ line trace else "")

end GroovyRounds.Console
