import GroovyRounds.Json.Value
import GroovyRounds.OrderedMap
import GroovyRounds.Text.Numeral

/-!
# Reading JSON

A reader for JSON texts that also takes `NaN` and the infinities. Of two equal
keys the later value counts, at the place of the earlier.
-/

namespace GroovyRounds.Json

inductive ReadFault where
  | malformed
  /-- Arrays and objects are nested too deeply. -/
  | tooDeep
  | numeral (fault : NumeralFault)
deriving DecidableEq, Repr

def isSpace (c : Char) : Bool :=
  c = ' ' || c = '\t' || c = '\n' || c = '\r'

def skipSpace (cs : List Char) : List Char :=
  cs.dropWhile isSpace

def nestingLimit : Nat := 985

-- ---------------------------------------------------------------------------
-- Texts
-- ---------------------------------------------------------------------------

/-- The unit that four hexadecimal digits write. -/
def readUnit : List Char → Except ReadFault (Nat × List Char)
  | a :: b :: c :: d :: cs =>
    match Text.hexValue? a, Text.hexValue? b, Text.hexValue? c, Text.hexValue? d with
    | some a, some b, some c, some d => .ok (a * 4096 + b * 256 + c * 16 + d, cs)
    | _, _, _, _ => .error .malformed
  | _ => .error .malformed

/-- A unit after its escape mark, joined with the low half that may follow a high one. -/
def readEscapedUnit (cs : List Char) : Except ReadFault (CodePoint × List Char) := do
  let (unit, rest) ← readUnit cs
  let alone : CodePoint :=
    if 0xD800 ≤ unit && unit ≤ 0xDFFF then .half unit else .char (Char.ofNat unit)
  if 0xD800 ≤ unit && unit ≤ 0xDBFF then
    match rest with
    | '\\' :: 'u' :: more =>
      let (low, more) ← readUnit more
      if 0xDC00 ≤ low && low ≤ 0xDFFF then
        return (.char (Char.ofNat (0x10000 + (unit - 0xD800) * 0x400 + (low - 0xDC00))), more)
      else return (alone, rest)
    | _ => return (alone, rest)
  else return (alone, rest)

/-- The character a one-letter escape stands for. -/
def escaped? : Char → Option Char
  | '"' => some '"'
  | '\\' => some '\\'
  | '/' => some '/'
  | 'b' => some (Char.ofNat 8)
  | 'f' => some (Char.ofNat 12)
  | 'n' => some '\n'
  | 'r' => some '\r'
  | 't' => some '\t'
  | _ => none

/-- A text up to its closing quote, after what was read of it before, in reverse. The fuel bounds
the number of its characters. -/
def readText : Nat → List CodePoint → List Char → Except ReadFault (LooseText × List Char)
  | 0, _, _ => .error .malformed
  | _ + 1, _, [] => .error .malformed
  | fuel + 1, before, c :: cs =>
    if c = '"' then .ok (.ofPoints before.reverse, cs)
    else if c = '\\' then
      match cs with
      | [] => .error .malformed
      | 'u' :: cs =>
        match readEscapedUnit cs with
        | .error fault => .error fault
        | .ok (point, cs) => readText fuel (point :: before) cs
      | e :: cs =>
        match escaped? e with
        | none => .error .malformed
        | some c => readText fuel (.char c :: before) cs
    else if c.toNat < 32 then .error .malformed
    else readText fuel (.char c :: before) cs

-- ---------------------------------------------------------------------------
-- Numbers
-- ---------------------------------------------------------------------------

def takeFigures (cs : List Char) : List Nat × List Char :=
  ((cs.takeWhile Char.isDigit).map fun c => c.toNat - '0'.toNat, cs.dropWhile Char.isDigit)

/-- The digits of a whole part: a single zero, or digits that start with none. -/
def takeWhole : List Char → Option (List Nat × List Char)
  | '0' :: cs => some ([0], cs)
  | cs =>
    match takeFigures cs with
    | ([], _) => none
    | found => some found

/-- The digits after a point, if there are any. -/
def takeFraction : List Char → List Nat × List Char
  | '.' :: cs =>
    match takeFigures cs with
    | ([], _) => ([], '.' :: cs)
    | found => found
  | cs => ([], cs)

/-- The exponent, if there is a whole one. -/
def takeExponent : List Char → Option Int × List Char
  | [] => (none, [])
  | e :: cs =>
    if e = 'e' || e = 'E' then
      let (negative, body) := Text.takeSign cs
      match takeFigures body with
      | ([], _) => (none, e :: cs)
      | (ds, rest) =>
        (some (if negative then -(Text.ofDigits ds : Int) else Text.ofDigits ds), rest)
    else (none, e :: cs)

def readNumber (cs : List Char) : Except ReadFault (Scalar × List Char) :=
  let (negative, body) := match cs with
    | '-' :: cs => (true, cs)
    | cs => (false, cs)
  match takeWhole body with
  | none => .error .malformed
  | some (whole, cs) =>
    let (fraction, cs) := takeFraction cs
    let (exponent?, cs) := takeExponent cs
    if fraction.isEmpty && exponent?.isNone then
      if Text.digitLimit < whole.length then .error (.numeral (.tooLong whole.length))
      else
        let n := Text.ofDigits whole
        .ok (.integer (if negative then -(n : Int) else n), cs)
    else
      let mantissa := Text.ofDigits (whole ++ fraction)
      .ok (.double (Double.ofDecimal negative mantissa (exponent?.getD 0 - fraction.length)), cs)

-- ---------------------------------------------------------------------------
-- Values
-- ---------------------------------------------------------------------------

/-- The scalars written as a word. -/
def words : List (String × Scalar) :=
  [("null", .null), ("true", .boolean true), ("false", .boolean false),
    ("NaN", .double .notANumber), ("Infinity", .double (.infinite false)),
    ("-Infinity", .double (.infinite true))]

def readWord (cs : List Char) : Option (Scalar × List Char) :=
  words.findSome? fun (word, value) =>
    if word.toList.isPrefixOf cs then some (value, cs.drop word.length) else none

/-- A key of an object and the colon after it. -/
def readKey (fuel : Nat) : List Char → Except ReadFault (LooseText × List Char)
  | '"' :: cs => do
    let (key, cs) ← readText fuel [] cs
    match skipSpace cs with
    | ':' :: cs => return (key, skipSpace cs)
    | _ => throw .malformed
  | _ => .error .malformed

mutual

/-- A value. The fuel bounds the steps, the depth counts the values around it. -/
def readValue : Nat → Nat → List Char → Except ReadFault (Json × List Char)
  | 0, _, _ => .error .malformed
  | fuel + 1, depth, cs =>
    match cs with
    | '"' :: cs => do
      let (s, cs) ← readText (fuel + 1) [] cs
      return (.scalar (.text s), cs)
    | '[' :: cs =>
      if nestingLimit ≤ depth then .error .tooDeep
      else match skipSpace cs with
        | ']' :: cs => .ok (.array [], cs)
        | cs => do
          let (items, cs) ← readItems fuel (depth + 1) cs
          return (.array items, cs)
    | '\x7b' :: cs =>
      if nestingLimit ≤ depth then .error .tooDeep
      else match skipSpace cs with
        | '\x7d' :: cs => .ok (.object [], cs)
        | cs => do
          let (entries, cs) ← readEntries fuel (depth + 1) cs
          return (.object (OrderedMap.ofList entries).entries, cs)
    | cs =>
      match readWord cs with
      | some (value, cs) => .ok (.scalar value, cs)
      | none => do
        let (value, cs) ← readNumber cs
        return (.scalar value, cs)

/-- Items up to the closing bracket; there is at least one. -/
def readItems : Nat → Nat → List Char → Except ReadFault (List Json × List Char)
  | 0, _, _ => .error .malformed
  | fuel + 1, depth, cs => do
    let (item, cs) ← readValue fuel depth cs
    match skipSpace cs with
    | ']' :: cs => return ([item], cs)
    | ',' :: cs =>
      let (items, cs) ← readItems fuel depth (skipSpace cs)
      return (item :: items, cs)
    | _ => throw .malformed

/-- Entries up to the closing brace; there is at least one. -/
def readEntries : Nat → Nat → List Char → Except ReadFault (List (LooseText × Json) × List Char)
  | 0, _, _ => .error .malformed
  | fuel + 1, depth, cs => do
    let (key, cs) ← readKey (fuel + 1) cs
    let (value, cs) ← readValue fuel depth cs
    match skipSpace cs with
    | '\x7d' :: cs => return ([(key, value)], cs)
    | ',' :: cs =>
      let (entries, cs) ← readEntries fuel depth (skipSpace cs)
      return ((key, value) :: entries, cs)
    | _ => throw .malformed

end

/-- Reads a whole text as one value. -/
def read (cs : List Char) : Except ReadFault Json := do
  let (value, rest) ← readValue (2 * cs.length + 2) 0 (skipSpace cs)
  if (skipSpace rest).isEmpty then return value
  throw .malformed

end GroovyRounds.Json
