import GroovyRounds.Charset.CharacterName.Alphabets
import GroovyRounds.Charset.CharacterName.Hieroglyphs
import GroovyRounds.Charset.CharacterName.Indic
import GroovyRounds.Charset.CharacterName.Notations
import GroovyRounds.Charset.CharacterName.OldScripts
import GroovyRounds.Charset.CharacterName.Others
import GroovyRounds.Charset.CharacterName.Pictures
import GroovyRounds.Charset.CharacterName.Scripts
import GroovyRounds.Charset.CharacterName.Signs
import GroovyRounds.Charset.CharacterName.Syllabaries
import GroovyRounds.Charset.Korean
import GroovyRounds.Text.Lines

/-!
# Names of characters

The character that a name stands for. Most names are written out in runs, in
which a name begins with the number of words that it shares with the one before
it. Ideographs and Korean syllables have names by rule.
-/

namespace GroovyRounds.Charset.CharacterName

-- ---------------------------------------------------------------------------
-- Runs of names
-- ---------------------------------------------------------------------------

abbrev Words := List (List Char)

/-- The words of a name, given those of the name before it. -/
def wordsAfter (before : Words) (entry : List Char) : Words :=
  match entry.dropWhile (· = ' ') with
  | [] => []
  | shared :: rest => before.take (shared.toNat - '0'.toNat) ++ Text.splitOn ' ' rest

/-- The number of the first character with the given name. An empty entry has none. -/
def findInRun? (words before : Words) (n : Nat) : List (List Char) → Option Nat
  | [] => none
  | entry :: entries =>
    match wordsAfter before entry with
    | [] => findInRun? words before (n + 1) entries
    | found => if found = words then some n else findInRun? words found (n + 1) entries

def runs : List (Nat × String) :=
  alphabets ++ scripts ++ signs ++ syllabaries ++ oldScripts ++ indic ++ hieroglyphs ++
    notations ++ pictures

/-- The entries of a run stand between commas and line ends. -/
def findWritten? (words : Words) : Option Nat :=
  runs.findSome? fun (first, entries) =>
    findInRun? words [] first
      (Text.splitOn ',' (entries.toList.map fun c => if c = '\n' then ',' else c))

-- ---------------------------------------------------------------------------
-- Names by rule
-- ---------------------------------------------------------------------------

/-- What follows a beginning. -/
def after? (beginning : String) (name : List Char) : Option (List Char) :=
  if beginning.toList.isPrefixOf name then some (name.drop beginning.length) else none

def upperHexDigit? (c : Char) : Option Nat :=
  if '0' ≤ c && c ≤ '9' then some (c.toNat - '0'.toNat)
  else if 'A' ≤ c && c ≤ 'F' then some (c.toNat - 'A'.toNat + 10)
  else none

/-- A number of four or five digits in base 16. -/
def codeNumber? (digits : List Char) : Option Nat := do
  let values ← digits.mapM upperHexDigit?
  if values.length = 4 || values.length = 5 then
    some (values.foldl (fun n digit => n * 16 + digit) 0)
  else none

def isWithin (ranges : List (Nat × Nat)) (n : Nat) : Bool :=
  ranges.any fun (first, last) => first ≤ n && n ≤ last

def ideographs : List (Nat × Nat) :=
  [(0x3400, 0x4DBF), (0x4E00, 0x9FFF), (0x20000, 0x2A6DF), (0x2A700, 0x2B738),
    (0x2B740, 0x2B81D), (0x2B820, 0x2CEA1), (0x2CEB0, 0x2EBE0), (0x30000, 0x3134A)]

/-- An ideograph is named by its number. -/
def ideograph? (name : List Char) : Option Nat := do
  let n ← codeNumber? (← after? "CJK UNIFIED IDEOGRAPH-" name)
  if isWithin ideographs n then some n else none

/-- Sets of characters that are named by their numbers, with the beginning of the name. -/
def numbered : List (String × List (Nat × Nat)) :=
  [("CJK COMPATIBILITY IDEOGRAPH-",
      [(0xF900, 0xFA6D), (0xFA70, 0xFAD9), (0x2F800, 0x2FA1D)]),
    ("KHITAN SMALL SCRIPT CHARACTER-", [(0x18B00, 0x18CD5)]),
    ("NUSHU CHARACTER-", [(0x1B170, 0x1B2FB)])]

/-- The number in these names has no zero in front. -/
def numbered? (name : List Char) : Option Nat :=
  numbered.findSome? fun (beginning, ranges) => do
    let digits ← after? beginning name
    let n ← codeNumber? digits
    if digits.head? ≠ some '0' && isWithin ranges n then some n else none

/-- The selectors of a variant are numbered from one, in two ranges. -/
def selector? (name : List Char) : Option Nat := do
  let digits ← after? "VS" name
  let n ← (String.ofList digits).toNat?
  if digits.all Char.isDigit && digits.head? ≠ some '0' && 1 ≤ n && n ≤ 256 then
    some (if n ≤ 16 then 0xFE00 + (n - 1) else 0xE0100 + (n - 17))
  else none

-- ---------------------------------------------------------------------------
-- Korean syllables
-- ---------------------------------------------------------------------------

def initialNames : List String :=
  ["G", "GG", "N", "D", "DD", "R", "M", "B", "BB", "S", "SS", "", "J", "JJ", "C", "K", "T", "P",
    "H"]

def vowelNames : List String :=
  ["A", "AE", "YA", "YAE", "EO", "E", "YEO", "YE", "O", "WA", "WAE", "OE", "YO", "U", "WEO", "WE",
    "WI", "YU", "EU", "YI", "I"]

def finalNames : List String :=
  ["", "G", "GG", "GS", "N", "NJ", "NH", "D", "L", "LG", "LM", "LB", "LS", "LT", "LP", "LH", "M",
    "B", "BS", "S", "SS", "NG", "J", "C", "K", "T", "P", "H"]

/-- The place of the longest of the names that the text begins with, and what follows it. -/
def longest? (names : List String) (text : List Char) : Option (Nat × List Char) :=
  let lengths := names.zipIdx.filterMap fun (name, i) =>
    (after? name text).map fun rest => (i, rest)
  lengths.foldl (fun best? found =>
    match best? with
    | some best => if found.2.length < best.2.length then some found else some best
    | none => some found) none

/-- A syllable is named by its letters, each as long as can be. -/
def syllable? (name : List Char) : Option Nat := do
  let (initial, rest) ← longest? initialNames (← after? "HANGUL SYLLABLE " name)
  let (vowel, rest) ← longest? vowelNames rest
  let (final, rest) ← longest? finalNames rest
  if rest.isEmpty then some (syllable initial vowel final) else none

-- ---------------------------------------------------------------------------
-- All names
-- ---------------------------------------------------------------------------

/-- The character of a name. Only ideographs and syllables are told from others by case. -/
def find? (name : List Char) : Option Nat :=
  let upper := name.map Char.toUpper
  syllable? name <|> ideograph? name <|> numbered? upper <|> selector? upper <|>
    otherNames.lookup (String.ofList upper) <|> findWritten? (Text.splitOn ' ' upper)

end GroovyRounds.Charset.CharacterName
