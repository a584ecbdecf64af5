import GroovyRounds.Charset.Grid.Cp932
import GroovyRounds.Charset.Grid.JisX0208
import GroovyRounds.Charset.Grid.JisX0212
import GroovyRounds.Charset.Grid.JisX0213
import GroovyRounds.Charset.Grid.JisX0213Second
import GroovyRounds.Charset.Reading

/-!
# Japanese

The standards of Japanese characters, and the two ways to write them in eight
bits. The extended standard has two editions.
-/

namespace GroovyRounds.Charset

-- ---------------------------------------------------------------------------
-- One byte
-- ---------------------------------------------------------------------------

/-- The narrow syllable sign of a byte. -/
def katakana? (b : Nat) : Option Nat :=
  if 0xA1 ≤ b && b ≤ 0xDF then some (0xFEC0 + b) else none

/-- The Japanese form of ASCII has a yen sign and an overline. -/
def roman (b : Nat) : Nat :=
  if b = 0x5C then 0xA5 else if b = 0x7E then 0x203E else b

-- ---------------------------------------------------------------------------
-- Planes
-- ---------------------------------------------------------------------------

/-- The editions of the extended standard. -/
inductive Edition where
  | of2000
  | of2004
deriving DecidableEq

/-- Two characters that the extended standard writes as one. -/
def marked? (row column : Nat) : Option (List Char) :=
  match row with
  | 0x24 =>
    if 0x77 ≤ column && column ≤ 0x7B then
      some [charOf (0x304B + 2 * (column - 0x77)), '\u309a']
    else none
  | 0x25 =>
    if 0x77 ≤ column && column ≤ 0x7B then
      some [charOf (0x30AB + 2 * (column - 0x77)), '\u309a']
    else
      ([(0x7C, '\u30bb'), (0x7D, '\u30c4'), (0x7E, '\u30c8')].lookup column).map ([·, '\u309a'])
  | 0x26 => if column = 0x78 then some ['\u31f7', '\u309a'] else none
  | 0x2B => [
      (0x44, ['\u00e6', '\u0300']), (0x48, ['\u0254', '\u0300']), (0x49, ['\u0254', '\u0301']),
      (0x4A, ['\u028c', '\u0300']), (0x4B, ['\u028c', '\u0301']), (0x4C, ['\u0259', '\u0300']),
      (0x4D, ['\u0259', '\u0301']), (0x4E, ['\u025a', '\u0300']), (0x4F, ['\u025a', '\u0301']),
      (0x65, ['\u02e9', '\u02e5']), (0x66, ['\u02e5', '\u02e9'])].lookup column
  | _ => none

/-- The ten characters that the second edition added to the first plane. -/
def isLate (row column : Nat) : Bool :=
  [(0x2E, 0x21), (0x2F, 0x7E), (0x4F, 0x54), (0x4F, 0x7E), (0x74, 0x27), (0x7E, 0x7A),
    (0x7E, 0x7B), (0x7E, 0x7C), (0x7E, 0x7D), (0x7E, 0x7E)].contains (row, column)

/-- The first plane of the extended standard. -/
def firstPlane? (edition : Edition) (row column : Nat) : Option (List Char) :=
  if edition = .of2000 && isLate row column then none
  else
    marked? row column <|>
      (Grid.jisX0213First.find? row column <|> Grid.jisX0208.find? row column).map ([·])

/-- The first plane with the tilde of ASCII. -/
def firstPlaneTilde? (edition : Edition) (row column : Nat) : Option (List Char) :=
  if row = 0x22 && column = 0x32 then some ['~'] else firstPlane? edition row column

/-- The second plane of the extended standard. One character was another in the first
edition. -/
def secondPlane? (edition : Edition) (row column : Nat) : Option Char :=
  if edition = .of2000 && row = 0x7D && column = 0x3B then some '\u9b1d'
  else Grid.jisX0213Second.find? row column

/-- Two bytes as what the first plane has. Both are bad where it got a character late. -/
def Reading.ofFirstPlane? (edition : Edition) (row column : Nat) : Option (List Char) → Reading
  | some chars => { chars, further := 1 }
  | none => bad (if edition = .of2000 && isLate row column then 1 else 0)

-- ---------------------------------------------------------------------------
-- Planes by single shifts
-- ---------------------------------------------------------------------------

/-- A plane with both bytes high, narrow syllable signs after 0x8E, and a plane after 0x8F. -/
def shiftedPlanes (first : Nat → Nat → Reading) (second? : Nat → Nat → Option Char) :
    Decoder := fun b bs =>
  if b < 0x80 then .one 0 b
  else match b, bs with
    | _, [] => .cut []
    | 0x8E, c :: _ => .ofChar? 1 ((katakana? c).map charOf)
    | 0x8F, [_] => .cut bs
    | 0x8F, c :: d :: _ =>
      if 0x80 ≤ c && 0x80 ≤ d then .ofChar? 2 (second? (c - 0x80) (d - 0x80)) else .bad 0
    | b, c :: _ => if 0x80 ≤ c then first (b - 0x80) (c - 0x80) else .bad 0

def eucJp : Decoder :=
  shiftedPlanes (fun row column => .ofChar? 1 (Grid.jisX0208.find? row column))
    Grid.jisX0212.find?

def eucJis (edition : Edition) : Decoder :=
  shiftedPlanes
    (fun row column => .ofFirstPlane? edition row column (firstPlane? edition row column))
    fun row column => secondPlane? edition row column <|> Grid.jisX0212.find? row column

-- ---------------------------------------------------------------------------
-- Planes in folded rows
-- ---------------------------------------------------------------------------

def isLead (b : Nat) : Bool :=
  (0x81 ≤ b && b ≤ 0x9F) || (0xE0 ≤ b && b ≤ 0xFC)

/-- The row and column of two bytes: a first byte stands for two rows, both from zero. -/
def rowAndColumn? (lead trail : Nat) : Option (Nat × Nat) :=
  if 0x40 ≤ trail && trail ≤ 0xFC && trail ≠ 0x7F then
    let place := if trail < 0x7F then trail - 0x40 else trail - 0x41
    let pair := if lead < 0xE0 then lead - 0x81 else lead - 0xC1
    some (2 * pair + place / 94, place % 94)
  else none

def foldedJisX0208? (lead trail : Nat) : Option Char := do
  let (row, column) ← rowAndColumn? lead trail
  Grid.jisX0208.find? (row + 0x21) (column + 0x21)

def shiftJis : Decoder := fun b bs =>
  if isLead b then
    match bs with
    | [] => .cut []
    | c :: _ => .ofChar? 1 (foldedJisX0208? b c)
  else if b < 0x80 then .one 0 b
  else .ofChar? 0 ((katakana? b).map charOf)

/-- Code page 932 gives every byte a meaning and keeps ten first bytes for users. -/
def cp932 : Decoder := fun b bs =>
  if b ≤ 0x80 then .one 0 b
  else if b = 0xA0 then .one 0 0xF8F0
  else if 0xFD ≤ b then .one 0 (0xF8F1 + (b - 0xFD))
  else match katakana? b, bs with
    | some n, _ => .one 0 n
    | none, [] => .cut []
    | none, c :: _ =>
      if 0xF0 ≤ b && b ≤ 0xF9 then
        .ofChar? 1 ((rowAndColumn? 0x81 c).map fun (row, column) =>
          charOf (0xE000 + (2 * (b - 0xF0) + row) * 94 + column))
      else
        .ofChar? 1 (Grid.cp932Only.find? b c <|>
          if b ≤ 0xEA then foldedJisX0208? b c else none)

/-- The row of the second plane for a row counted on from the first plane. -/
def secondPlaneRow (n : Nat) : Nat :=
  if 0x67 ≤ n then n + 0x07 else if 0x63 ≤ n || n = 0x5F then n - 0x37 else n - 0x3D

/-- Folded rows of both planes. The backslash is the one of ASCII. -/
def foldedPlanes (edition : Edition) (lead trail : Nat) : Reading :=
  match rowAndColumn? lead trail with
  | none => .bad 0
  | some (0, 0x1F) => .one 1 '\\'.toNat
  | some (row, column) =>
    if row < 0x5E then
      .ofFirstPlane? edition (row + 0x21) (column + 0x21)
        (firstPlaneTilde? edition (row + 0x21) (column + 0x21))
    else .ofChar? 1 (secondPlane? edition (secondPlaneRow row) (column + 0x21))

def shiftJisExtended (edition : Edition) : Decoder := fun b bs =>
  if isLead b then
    match bs with
    | [] => .cut []
    | c :: _ => foldedPlanes edition b c
  else if b < 0x80 then .one 0 (roman b)
  else .ofChar? 0 ((katakana? b).map charOf)

end GroovyRounds.Charset
