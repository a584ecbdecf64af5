import GroovyRounds.Text.Lines
import GroovyRounds.Text.Numeral

/-!
# Versions

Comparing dotted versions part by part. The first two parts that are spelled
differently decide; a version without a number sorts before every other.
-/

namespace GroovyRounds.Version

-- ---------------------------------------------------------------------------
-- Parts
-- ---------------------------------------------------------------------------

def isSeparator (c : Char) : Bool :=
  c = '.' || c = '_' || c = '-'

/-- The non-empty texts between separators. -/
def parts (version : String) : List (List Char) :=
  (Text.splitOn '.' (version.toList.map fun c => if isSeparator c then '.' else c)).filter
    (!·.isEmpty)

/-- Compares two parts of different spelling: numbers by value, a number after
any other text, texts by code point. -/
def comparePart (p q : List Char) : Except NumeralFault Int :=
  if Text.isFigures p && Text.isFigures q then do
    let m ← Text.readInteger (String.ofList p)
    let n ← Text.readInteger (String.ofList q)
    return m - n
  else if Text.isFigures p then .ok 1
  else if Text.isFigures q then .ok (-1)
  else .ok (if p < q then -1 else 1)

-- ---------------------------------------------------------------------------
-- Versions
-- ---------------------------------------------------------------------------

def compareParts : List (List Char) → List (List Char) → Except NumeralFault Int
  | p :: ps, q :: qs => if p = q then compareParts ps qs else comparePart p q
  | ps, qs => .ok (ps.length - qs.length : Int)

/-- Negative, zero or positive, as the first version sorts before, with or after the second. -/
def compare : Option String → Option String → Except NumeralFault Int
  | none, none => .ok 0
  | none, some _ => .ok (-1)
  | some _, none => .ok 1
  | some v, some w => compareParts (parts v) (parts w)

end GroovyRounds.Version
