import GroovyRounds.Charset.CharacterName
import GroovyRounds.Charset.Reading
import GroovyRounds.Text.Digit

/-!
# Escapes

Texts of one byte a character in which a backslash begins the number of any
character.
-/

namespace GroovyRounds.Charset

/-- A number of so many digits in base 16, after so many bytes of its escape. What is no digit
ends the escape without being lost. -/
def hexEscape : (digits taken number : Nat) → List Nat → Reading
  | 0, taken, number, _ =>
    if number ≤ 0x10FFFF then .one taken number else .bad taken
  | digits + 1, taken, number, b :: bs =>
    match Text.hexValue? (charOf b) with
    | some n => hexEscape digits (taken + 1) (number * 16 + n) bs
    | none => .bad taken
  | _ + 1, taken, _, [] => .bad taken

-- ---------------------------------------------------------------------------
-- All escapes
-- ---------------------------------------------------------------------------

def isOctal (b : Nat) : Bool :=
  0x30 ≤ b && b ≤ 0x37

/-- A number of up to three digits in base 8. -/
def octalEscape (bs : List Nat) : Reading :=
  let digits := (bs.take 3).takeWhile isOctal
  .one digits.length (digits.foldl (fun n b => n * 8 + (b - 0x30)) 0)

/-- A character by its name in braces, after two bytes of its escape. Without a name, the
closing brace is not lost. -/
def namedEscape (bs : List Nat) : Reading :=
  match bs with
  | 0x7B :: rest =>
    let name := rest.takeWhile (· ≠ 0x7D)
    if name.length = rest.length then .bad (rest.length + 2)
    else if name.isEmpty then .bad 2
    else match CharacterName.find? (name.map charOf) with
      | some n => .one (name.length + 3) n
      | none => .bad (name.length + 3)
  | _ => .bad 1

/-- The characters that single letters stand for after a backslash. -/
def letterEscapes : List (Char × Nat) :=
  [('\\', 0x5C), ('\'', 0x27), ('"', 0x22), ('b', 8), ('f', 12), ('t', 9), ('n', 10), ('r', 13),
    ('v', 11), ('a', 7)]

/-- A backslash before anything else stands for itself, and one before a line feed is lost with
it. -/
def escaped : Decoder := fun b bs =>
  if b ≠ 0x5C then .one 0 b
  else match bs with
    | [] => .cut []
    | c :: rest =>
      match charOf c with
      | '\n' => { chars := [], further := 1 }
      | 'x' => hexEscape 2 1 0 rest
      | 'u' => hexEscape 4 1 0 rest
      | 'U' => hexEscape 8 1 0 rest
      | 'N' => namedEscape rest
      | char =>
        if isOctal c then octalEscape bs
        else match letterEscapes.lookup char with
          | some n => .one 1 n
          | none => { chars := ['\\', char], further := 1 }

-- ---------------------------------------------------------------------------
-- Numbers of characters only
-- ---------------------------------------------------------------------------

/-- The backslash of an escape that the end cuts short is lost with it. -/
def rawEscaped : Decoder := fun b bs =>
  if b ≠ 0x5C then .one 0 b
  else match bs with
    | [] => .one 0 b
    | c :: rest =>
      match charOf c with
      | 'u' => hexEscape 4 1 0 rest
      | 'U' => hexEscape 8 1 0 rest
      | char => { chars := ['\\', char], further := 1 }

end GroovyRounds.Charset
