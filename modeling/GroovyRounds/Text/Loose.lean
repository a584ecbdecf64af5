import GroovyRounds.Text.Quoted

/-!
# Loose texts

A text written with escapes for 16 bit units may hold a half of a surrogate pair
that stands alone. No character is such a half, so a text that holds one is kept
as a list of its code points.
-/

namespace GroovyRounds

/-- A character, or a half of a surrogate pair that stands alone. -/
inductive CodePoint where
  | char (c : Char)
  | half (n : Nat)
deriving DecidableEq, Repr

namespace CodePoint

def char? : CodePoint → Option Char
  | .char c => some c
  | .half _ => none

/-- A half shows as the replacement character. -/
def shown : CodePoint → Char
  | .char c => c
  | .half _ => Char.ofNat 0xFFFD

/-- How a code point is written between the given quotes. -/
def escape (quote : Char) : CodePoint → List Char
  | .char c => Text.escape quote c
  | .half n => ['\\', 'u'] ++ Text.hex 4 n

end CodePoint

inductive LooseText where
  | plain (s : String)
  /-- Code points with a half among them. -/
  | broken (points : List CodePoint)
deriving DecidableEq, Repr

namespace LooseText

instance : Coe String LooseText := ⟨plain⟩

def ofPoints (points : List CodePoint) : LooseText :=
  match points.mapM CodePoint.char? with
  | some cs => .plain (String.ofList cs)
  | none => .broken points

def points : LooseText → List CodePoint
  | .plain s => s.toList.map .char
  | .broken points => points

def isEmpty : LooseText → Bool
  | .plain s => s.isEmpty
  | .broken points => points.isEmpty

/-- The text with the replacement character for every half. -/
def display : LooseText → String
  | .plain s => s
  | .broken points => String.ofList (points.map CodePoint.shown)

/-- The text between quotes. -/
def quote : LooseText → String
  | .plain s => Text.quoteString s
  | .broken points =>
    let q := Text.quoteFor (points.filterMap CodePoint.char?)
    String.ofList (q :: points.flatMap (CodePoint.escape q) ++ [q])

end LooseText

-- ---------------------------------------------------------------------------
-- Encoding
-- ---------------------------------------------------------------------------

/-- Halves of surrogate pairs in a row stand where only characters can be encoded. -/
structure LoneHalves where
  first : Nat
  position : Nat
  count : Nat
deriving DecidableEq, Repr

namespace LoneHalves

def message (fault : LoneHalves) : String :=
  "'utf-8' codec can't encode " ++
    (if fault.count = 1 then
      "character '\\u" ++ String.ofList (Text.hex 4 fault.first) ++ "' in position " ++
        toString fault.position
    else
      "characters in position " ++ toString fault.position ++ "-" ++
        toString (fault.position + fault.count - 1)) ++
    ": surrogates not allowed"

/-- The first halves among code points that come after so many others. -/
def find? (before : Nat) : List CodePoint → Option LoneHalves
  | [] => none
  | .char _ :: points => find? (before + 1) points
  | .half n :: points =>
    some {
      first := n, position := before
      count := (points.takeWhile (·.char?.isNone)).length + 1 }

end LoneHalves

end GroovyRounds
