/-!
# Grids

A table of characters of two bytes, kept as runs of neighbours.
-/

namespace GroovyRounds.Charset

/-- Runs of characters, each with the code of its first one. The first byte of a code is its
row, and no run goes beyond its row; the replacement character marks an empty cell. -/
structure Grid where
  runs : List (Nat × String)

/-- The character with the given two bytes. -/
def Grid.find? (grid : Grid) (lead trail : Nat) : Option Char := do
  let code := lead * 256 + trail
  let (first, chars) ← grid.runs.find? fun (first, chars) =>
    first / 256 = lead && first ≤ code && code < first + chars.length
  let c ← chars.toList[code - first]?
  if c = '\ufffd' then none else some c

/-- The character with the given two bytes when both have their high bit set. -/
def Grid.findHigh? (grid : Grid) (lead trail : Nat) : Option Char :=
  if 0x80 ≤ lead && 0x80 ≤ trail then grid.find? (lead - 0x80) (trail - 0x80) else none

end GroovyRounds.Charset
