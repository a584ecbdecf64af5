/-!
# Readings

Character sets of several bytes for a character are read from the left, one
reading after the other. Bytes that stand for nothing are read as the
replacement character, and so is a character that the end cuts short.
-/

namespace GroovyRounds.Charset

def replacement : Char := '\ufffd'

/-- The character of a number. A half of a surrogate pair is none. -/
def charOf (n : Nat) : Char :=
  if n.isValidChar then Char.ofNat n else replacement

/-- The characters at the head of some bytes, and how many bytes after the first they take. -/
structure Reading where
  chars : List Char
  further : Nat := 0

namespace Reading

/-- So many bytes after the first stand for nothing with it. -/
def bad (further : Nat) : Reading :=
  { chars := [replacement], further }

/-- The end cuts a character short; the rest goes with it. -/
def cut (rest : List Nat) : Reading :=
  bad rest.length

def one (further n : Nat) : Reading :=
  { chars := [charOf n], further }

/-- A character of so many bytes after the first. If there is none, only the first is bad. -/
def ofChar? (further : Nat) : Option Char → Reading
  | some c => { chars := [c], further }
  | none => bad 0

end Reading

-- ---------------------------------------------------------------------------
-- Decoders
-- ---------------------------------------------------------------------------

/-- How a byte is read, given those after it. -/
abbrev Decoder := Nat → List Nat → Reading

def Decoder.read (decoder : Decoder) : List Nat → List Char
  | [] => []
  | b :: bs =>
    let reading := decoder b bs
    reading.chars ++ decoder.read (bs.drop reading.further)
termination_by bytes => bytes.length
decreasing_by simp only [List.length_drop, List.length_cons]; omega

/-- ASCII below 0x80, and characters of two bytes from there on. -/
def Decoder.ofPairs (find? : Nat → Nat → Option Char) : Decoder := fun b bs =>
  if b < 0x80 then .one 0 b
  else match bs with
    | [] => .cut []
    | c :: _ => .ofChar? 1 (find? b c)

-- ---------------------------------------------------------------------------
-- Decoders with modes
-- ---------------------------------------------------------------------------

/-- How a byte is read in a mode, given those after it, and the mode from there on. -/
abbrev ModalDecoder (Mode : Type) := Mode → Nat → List Nat → Reading × Mode

def ModalDecoder.read {Mode : Type} (decoder : ModalDecoder Mode) (mode : Mode) :
    List Nat → List Char
  | [] => []
  | b :: bs =>
    let (reading, mode) := decoder mode b bs
    reading.chars ++ decoder.read mode (bs.drop reading.further)
termination_by bytes => bytes.length
decreasing_by simp only [List.length_drop, List.length_cons]; omega

end GroovyRounds.Charset
