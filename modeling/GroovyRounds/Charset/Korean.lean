import GroovyRounds.Charset.Grid.KsX1001
import GroovyRounds.Charset.Reading

/-!
# Korean

KS X 1001 and three ways to write the syllables that it leaves out: as eight
bytes, at places of their own, and by their letters.
-/

namespace GroovyRounds.Charset

-- ---------------------------------------------------------------------------
-- Syllables
-- ---------------------------------------------------------------------------

/-- The syllable of an initial, a vowel and a final, each by its place; the first final is
none. -/
def syllable (initial vowel final : Nat) : Nat :=
  0xAC00 + (initial * 21 + vowel) * 28 + final

/-- The number of a letter among those that stand alone. -/
def letter (n : Nat) : Nat :=
  0x3131 + n

/-- The letters that begin a syllable. -/
def initials : List Nat :=
  [0, 1, 3, 6, 7, 8, 16, 17, 18, 20, 21, 22, 23, 24, 25, 26, 27, 28, 29]

/-- The letters that end a syllable: all the consonants but three. -/
def finals : List Nat :=
  (List.range 30).filter fun n => !([7, 18, 24].contains n)

/-- The first vowel, after the consonants. -/
def firstVowel : Nat := 30

-- ---------------------------------------------------------------------------
-- The standard alone
-- ---------------------------------------------------------------------------

/-- The syllable of eight bytes: a filler and three letters. -/
def spelledSyllable? (initial vowel final : Nat) : Option Nat := do
  let i ← initials.idxOf? (initial - 0xA1)
  let f ← if final = 0xD4 then some 0 else (finals.idxOf? (final - 0xA1)).map (· + 1)
  if 0xA1 ≤ initial && 0xBF ≤ vowel && vowel ≤ 0xD3 && 0xA1 ≤ final then
    some (syllable i (vowel - 0xBF) f)
  else none

def eucKr : Decoder := fun b bs =>
  match b, bs with
  | 0xA4, 0xD4 :: rest =>
    match rest with
    | 0xA4 :: i :: 0xA4 :: v :: 0xA4 :: f :: _ =>
      .ofChar? 7 ((spelledSyllable? i v f).map charOf)
    | rest => if rest.length < 6 then .cut bs else .bad 0
  | b, bs => Decoder.ofPairs Grid.ksX1001.findHigh? b bs

-- ---------------------------------------------------------------------------
-- Unified code
-- ---------------------------------------------------------------------------

/-- The syllables of the standard, in order. -/
def standardSyllables : List Nat :=
  Grid.ksX1001.runs.flatMap fun (_, chars) =>
    (chars.toList.map Char.toNat).filter fun n => 0xAC00 ≤ n && n ≤ 0xD7A3

/-- The syllable at a place among those that the standard leaves out. -/
def unlistedSyllable? (place : Nat) : Option Nat :=
  let n := standardSyllables.foldl (fun n listed => if listed ≤ n then n + 1 else n)
    (0xAC00 + place)
  if n ≤ 0xD7A3 then some n else none

/-- The column of a second byte in the rows of syllables that the standard leaves out: letters,
small letters and the bytes from 0x81 on count. -/
def unlistedColumn? (trail : Nat) : Option Nat :=
  if 0x41 ≤ trail && trail ≤ 0x5A then some (trail - 0x41)
  else if 0x61 ≤ trail && trail ≤ 0x7A then some (trail - 0x61 + 26)
  else if 0x81 ≤ trail && trail ≤ 0xFE then some (trail - 0x81 + 52)
  else none

/-- The rows before the standard's are full; in the others, the standard has the right part. -/
def unlisted? (lead trail : Nat) : Option Char := do
  let column ← unlistedColumn? trail
  let place ←
    if 0x81 ≤ lead && lead ≤ 0xA0 then some ((lead - 0x81) * 178 + column)
    else if 0xA1 ≤ lead && lead ≤ 0xC6 && column < 84 then some (5696 + (lead - 0xA1) * 84 + column)
    else none
  (unlistedSyllable? place).map charOf

def cp949 : Decoder := .ofPairs fun lead trail =>
  Grid.ksX1001.findHigh? lead trail <|> unlisted? lead trail

-- ---------------------------------------------------------------------------
-- Johab
-- ---------------------------------------------------------------------------

/-- Five bits of a syllable: a letter by its place, or a filler. -/
inductive Part where
  | filler
  | place (n : Nat)

def initialPart? (bits : Nat) : Option Part :=
  if bits = 1 then some .filler
  else if 2 ≤ bits && bits ≤ 20 then some (.place (bits - 2))
  else none

/-- Vowels come in sixes, each group after two numbers that are not used. -/
def vowelPart? (bits : Nat) : Option Part :=
  if bits = 2 then some .filler
  else if 3 ≤ bits && bits ≤ 29 && bits % 8 ≥ 2 then some (.place (bits / 8 * 6 + bits % 8 - 3))
  else none

def finalPart? (bits : Nat) : Option Part :=
  if bits = 1 then some .filler
  else if 2 ≤ bits && bits ≤ 29 && bits ≠ 18 then
    some (.place (if bits < 18 then bits - 1 else bits - 2))
  else none

/-- A syllable, a letter that stands alone, or a wide blank. -/
def joined? (initial vowel final : Part) : Option Nat :=
  match initial, vowel, final with
  | .place i, .place v, .place f => some (syllable i v f)
  | .place i, .place v, .filler => some (syllable i v 0)
  | .place i, .filler, .filler => initials[i]?.map letter
  | .filler, .place v, .filler => some (letter (firstVowel + v))
  | .filler, .filler, .place f => finals[f - 1]?.map letter
  | .filler, .filler, .filler => some 0x3000
  | _, _, _ => none

/-- The characters of the standard that are no syllables, two rows for each first byte. -/
def johabSign? (lead trail : Nat) : Option Char :=
  if 0xD8 ≤ lead && lead ≤ 0xF9 && lead ≠ 0xDF &&
      ((0x31 ≤ trail && trail ≤ 0x7E) || (0x91 ≤ trail && trail ≤ 0xFE)) &&
      !(lead = 0xDA && 0xA1 ≤ trail && trail ≤ 0xD3) then
    let row := if lead < 0xE0 then 2 * lead - 0x191 else 2 * lead - 0x176
    let column := if trail < 0x91 then trail - 0x31 else trail - 0x43
    Grid.ksX1001.find? (row + column / 94) (column % 94 + 0x21)
  else none

def johab : Decoder := .ofPairs fun lead trail =>
  if lead < 0xD8 then do
    let bits := lead * 256 + trail
    let initial ← initialPart? (bits / 1024 % 32)
    let vowel ← vowelPart? (bits / 32 % 32)
    let final ← finalPart? (bits % 32)
    (joined? initial vowel final).map charOf
  else johabSign? lead trail

end GroovyRounds.Charset
