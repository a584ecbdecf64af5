import GroovyRounds.Text.Blank
import GroovyRounds.Text.Digit
import GroovyRounds.Text.Quoted

/-!
# Numerals

Reading an integer: blanks around it, a sign, and decimal digits of any script
with single underscores between them. A numeral has at most 4300 digits; a
misplaced underscore is found before they are counted.
-/

namespace GroovyRounds

/-- Why a text is no integer. -/
inductive NumeralFault where
  | malformed (text : String)
  | tooLong (digits : Nat)
deriving DecidableEq, Repr

namespace NumeralFault

/-- How many characters of a quoted text a message shows. -/
def shownLength : Nat := 200

def message : NumeralFault → String
  | .malformed text =>
    "invalid literal for int() with base 10: " ++
      String.ofList ((Text.quote text.toList).take shownLength)
  | .tooLong digits =>
    "Exceeds the limit (4300 digits) for integer string conversion: value has " ++
      toString digits ++ " digits; use sys.set_int_max_str_digits() to increase the limit"

end NumeralFault

namespace Text

-- ---------------------------------------------------------------------------
-- Digits
-- ---------------------------------------------------------------------------

def digitLimit : Nat := 4300

/-- The digits at the front, single underscores between them skipped, and the rest. -/
def takeDigits : List Char → List Nat × List Char
  | [] => ([], [])
  | '_' :: c :: cs =>
    match decimalValue? c with
    | some d => let (ds, rest) := takeDigits cs; (d :: ds, rest)
    | none => ([], '_' :: c :: cs)
  | c :: cs =>
    match decimalValue? c with
    | some d => let (ds, rest) := takeDigits cs; (d :: ds, rest)
    | none => ([], c :: cs)

/-- The number that decimal digits write, the most significant first. -/
def ofDigits (ds : List Nat) : Nat :=
  ds.foldl (fun n d => 10 * n + d) 0

-- ---------------------------------------------------------------------------
-- Integers
-- ---------------------------------------------------------------------------

/-- Splits off a sign; `true` stands for minus. -/
def takeSign : List Char → Bool × List Char
  | '-' :: cs => (true, cs)
  | '+' :: cs => (false, cs)
  | cs => (false, cs)

/-- Reads an integer. -/
def readInteger (s : String) : Except NumeralFault Int :=
  let (negative, body) := takeSign (trimBoth isNumeralBlank s.toList)
  let (ds, rest) := if body.head? = some '_' then ([], body) else takeDigits body
  if rest.head? = some '_' then .error (.malformed s)
  else if digitLimit < ds.length then .error (.tooLong ds.length)
  else if ds.isEmpty || !rest.isEmpty then .error (.malformed s)
  else .ok (if negative then -(ofDigits ds : Int) else ofDigits ds)

end Text

end GroovyRounds
