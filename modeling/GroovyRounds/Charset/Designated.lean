import GroovyRounds.Charset.Chinese
import GroovyRounds.Charset.Fault
import GroovyRounds.Charset.Japanese
import GroovyRounds.Charset.Korean
import GroovyRounds.Charset.Page.Iso

/-!
# ISO 2022

Seven bits with several sets of characters. An escape sequence designates a set
to one of three places, and what is read is taken from the first place, after a
shift from the second, or for one character from the third.
-/

namespace GroovyRounds.Charset

-- ---------------------------------------------------------------------------
-- Sets
-- ---------------------------------------------------------------------------

/-- The sets that can be designated. -/
inductive CodedSet where
  | ascii
  | roman
  | katakana
  | latin
  | greek
  | gb2312
  /-- The Japanese standard as first designated. -/
  | oldJisX0208
  | jisX0208
  | ksX1001
  | jisX0212
  | first (edition : Edition)
  | second
deriving DecidableEq

namespace CodedSet

/-- A set with its sign, and whether that stands after a dollar sign. -/
def signed : List (CodedSet × Char × Bool) :=
  [(.roman, 'J', false), (.katakana, 'I', false), (.latin, 'A', false), (.greek, 'F', false),
    (.oldJisX0208, '@', true), (.gb2312, 'A', true), (.jisX0208, 'B', true),
    (.ksX1001, 'C', true), (.jisX0212, 'D', true), (.first .of2000, 'O', true),
    (.second, 'P', true), (.first .of2004, 'Q', true)]

def isWide : CodedSet → Bool
  | .ascii | .roman | .katakana | .latin | .greek => false
  | _ => true

def narrow? (set : CodedSet) (b : Nat) : Option Char :=
  match set with
  | .ascii => some (charOf b)
  | .roman => some (charOf (Charset.roman b))
  | .katakana => (katakana? (b + 0x80)).map charOf
  | _ => none

def wide? (set : CodedSet) (row column : Nat) : Option (List Char) :=
  match set with
  | .gb2312 => (gb2312? (row + 0x80) (column + 0x80)).map ([·])
  | .oldJisX0208 | .jisX0208 => (Grid.jisX0208.find? row column).map ([·])
  | .ksX1001 => (Grid.ksX1001.find? row column).map ([·])
  | .jisX0212 => (Grid.jisX0212.find? row column).map ([·])
  | .first edition => firstPlaneTilde? edition row column
  | .second => (Grid.jisX0213Second.find? row column).map ([·])
  | _ => none

def read (set : CodedSet) (b : Nat) (bs : List Nat) : Reading :=
  if set.isWide then
    match bs with
    | [] => .cut []
    | c :: _ =>
      match set.wide? b c with
      | some chars => { chars, further := 1 }
      | none => .bad 1
  else .ofChar? 0 (set.narrow? b)

end CodedSet

-- ---------------------------------------------------------------------------
-- Variants
-- ---------------------------------------------------------------------------

/-- What a variant of ISO 2022 admits. -/
structure Variant where
  sets : List CodedSet
  /-- Whether the second place can be shifted to. -/
  shifts : Bool := false
  /-- Whether there is a third place. -/
  third : Bool := false
  /-- Whether an escape sequence may announce a revision before it designates. -/
  revised : Bool := true

/-- The sets designated to the places, and how reading goes on. -/
structure Places where
  first : CodedSet := .ascii
  second : CodedSet := .ascii
  third : CodedSet := .ascii
  shifted : Bool := false
  /-- Inside an escape sequence that designates nothing. -/
  escaping : Bool := false

def Places.designate (places : Places) (place : Nat) (set : CodedSet) : Places :=
  match place with
  | 0 => { places with first := set }
  | 1 => { places with second := set }
  | _ => { places with third := set }

-- ---------------------------------------------------------------------------
-- Escape sequences
-- ---------------------------------------------------------------------------

def isFinalByte (b : Nat) : Bool :=
  0x40 ≤ b && b ≤ 0x5A

/-- An escape sequence up to its last byte, which the end may cut off. -/
inductive Sequence where
  | whole (bytes : List Nat)
  | cut
  /-- No last byte within the limit. -/
  | endless

/-- Reads on in an escape sequence. The announcement of a revision hides its last byte and the
byte that follows. -/
def Sequence.find (revised : Bool) (taken : List Nat) : (limit : Nat) → List Nat → Sequence
  | 0, _ => .endless
  | _ + 1, [] => .cut
  | limit + 1, b :: bs =>
    if isFinalByte b then .whole (taken ++ [b])
    else if revised && b = '&'.toNat && bs.head? = some '@'.toNat then
      Sequence.find revised (taken ++ b :: bs.take 2) (limit - 2) (bs.drop 2)
    else Sequence.find revised (taken ++ [b]) limit bs
termination_by limit => limit

/-- The place, sign and width that an escape sequence designates, by what follows its first
byte. -/
def designation? (variant : Variant) (bytes : List Nat) : Option (Nat × Char × Bool) :=
  match bytes.map charOf with
  | ['$', sign] => some (0, sign, true)
  | ['(', sign] => some (0, sign, false)
  | [')', sign] => some (1, sign, false)
  | ['.', sign] => if variant.third then some (2, sign, false) else none
  | ['$', '(', sign] => some (0, sign, true)
  | ['$', ')', sign] => some (1, sign, true)
  | [_, _, '\x1b', '$', 'B'] => if variant.revised then some (0, 'B', true) else none
  | _ => none

/-- The set of a sign, if the variant has it. ASCII can always be designated. -/
def Variant.set? (variant : Variant) (sign : Char) (wide : Bool) : Option CodedSet :=
  if sign = 'B' && !wide then some .ascii
  else
    variant.sets.find? fun set => CodedSet.signed.contains (set, sign, wide)

/-- The most bytes that are kept of an escape sequence until it ends. -/
def keptBytes : Nat := 8

/-- The most bytes of an escape sequence after its first byte. -/
def sequenceLimit : Nat := 15

def escapeSequence (variant : Variant) (places : Places) (bs : List Nat) :
    Except Fault (Reading × Places) :=
  match Sequence.find variant.revised [] sequenceLimit bs with
  | .cut => if bs.length < keptBytes then .ok (.cut bs, places) else .error .unended
  | .endless => .ok (.bad 0, places)
  | .whole bytes =>
    let designated? := do
      let (place, sign, wide) ← designation? variant bytes
      some (places.designate place (← variant.set? sign wide))
    .ok <| match designated? with
      | some places => ({ chars := [], further := bytes.length }, places)
      | none => (.bad bytes.length, places)

-- ---------------------------------------------------------------------------
-- Texts
-- ---------------------------------------------------------------------------

/-- A character of the upper half of the Greek set, which lacks three signs. -/
def greek? (b : Nat) : Option Char :=
  let c := Page.part7.char b
  if c = replacement || [0xA4, 0xA5, 0xAA].contains b then none else some c

/-- A single character from the third place. -/
def thirdPlace (set : CodedSet) (b : Nat) : Except Fault Reading :=
  match set with
  | .ascii => .ok (if b < 0x80 then .one 2 b else .bad 2)
  | .latin => .ok (if b < 0x80 then .one 2 (b + 0x80) else .bad 2)
  | .greek =>
    if 0x80 ≤ b then .ok (.one 2 (b - 0x80))
    else match greek? (b + 0x80) with
      | some c => .ok { chars := [c], further := 2 }
      | none => .ok (.bad 2)
  | _ => .error .unshiftable

/-- An escape character begins a sequence that designates, takes a character from the third
place, or stands for itself. -/
def escape (variant : Variant) (places : Places) (b : Nat) (bs : List Nat) :
    Except Fault (Reading × Places) :=
  match bs with
  | [] => .ok (.cut [], places)
  | c :: rest =>
    if "()$.&".toList.contains (charOf c) then escapeSequence variant places bs
    else if variant.third && c = 'N'.toNat then
      match rest with
      | [] => .ok (.cut bs, places)
      | d :: _ => (thirdPlace places.third d).map (·, places)
    else .ok (.one 0 b, { places with escaping := true })

def Variant.step (variant : Variant) (places : Places) (b : Nat) (bs : List Nat) :
    Except Fault (Reading × Places) :=
  let set := if places.shifted then places.second else places.first
  if places.escaping then
    .ok (.one 0 b, { places with escaping := !isFinalByte b })
  else if b = 0x1B then escape variant places b bs
  else if variant.shifts && (b = 0x0E || b = 0x0F) then
    .ok ({ chars := [] }, { places with shifted := b = 0x0E })
  else if b = 0x0A then .ok (.one 0 b, { places with shifted := false })
  else if b < 0x20 then .ok (.one 0 b, places)
  else if 0x80 ≤ b then .ok (.bad 0, places)
  else .ok (set.read b bs, places)

def Variant.read (variant : Variant) (places : Places) : List Nat → Except Fault (List Char)
  | [] => .ok []
  | b :: bs => do
    let (reading, places) ← variant.step places b bs
    .ok (reading.chars ++ (← variant.read places (bs.drop reading.further)))
termination_by bytes => bytes.length
decreasing_by simp only [List.length_drop, List.length_cons]; omega

-- ---------------------------------------------------------------------------
-- Variants by name
-- ---------------------------------------------------------------------------

namespace Variant

def korean : Variant :=
  { sets := [.ksX1001], shifts := true, revised := false }

def japanese : Variant :=
  { sets := [.oldJisX0208, .jisX0208, .roman] }

def japanese1 : Variant :=
  { sets := [.oldJisX0208, .jisX0208, .jisX0212, .roman] }

def japanese2 : Variant :=
  { sets := [
      .oldJisX0208, .jisX0208, .jisX0212, .ksX1001, .gb2312, .roman, .latin, .greek]
    third := true }

def japanese3 : Variant :=
  { sets := [.jisX0208, .first .of2000, .second] }

def japanese2004 : Variant :=
  { sets := [.jisX0208, .first .of2004, .second] }

def japaneseExtended : Variant :=
  { sets := [.oldJisX0208, .jisX0208, .jisX0212, .roman, .katakana] }

end Variant

end GroovyRounds.Charset
