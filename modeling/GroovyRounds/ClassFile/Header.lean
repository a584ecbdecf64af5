import GroovyRounds.ClassFile.ModifiedUtf8

/-!
# Class file headers

Reading the name of a class from the front of its class file: the constant
pool, the access flags and the index of the class itself. Nothing behind that
is looked at.
-/

namespace GroovyRounds.ClassFile

-- ---------------------------------------------------------------------------
-- Faults
-- ---------------------------------------------------------------------------

/-- Why bytes are no class file header. -/
inductive Fault where
  | shortHeader (size : Nat)
  | badMagic (magic : Nat)
  | shortText (slot : Nat)
  | badText
  | shortPool (slot : Nat)
  | unknownTag (tag : UInt8) (slot : Nat)
  | shortBody (left : Nat)
  | notClass (slot : Nat)
  | notText (slot : Nat)
deriving DecidableEq, Repr

/-- Eight upper-case hexadecimal digits. -/
def hex32 (n : Nat) : String :=
  let digits := (Nat.toDigits 16 n).map Char.toUpper
  String.ofList (List.replicate (8 - digits.length) '0' ++ digits)

def Fault.message : Fault → String
  | .shortHeader size => s!"Truncated class file header: 10 bytes needed, {size} left"
  | .badMagic magic => s!"Bad class file magic 0x{hex32 magic}"
  | .shortText slot => s!"Truncated Utf8 constant #{slot}"
  | .badText => "Malformed Utf8 constant: no text has this encoding"
  | .shortPool slot => s!"Truncated constant pool at #{slot}"
  | .unknownTag tag slot => s!"Unknown constant pool tag {tag.toNat} at #{slot}"
  | .shortBody left => s!"Truncated class file after constant pool: 4 bytes needed, {left} left"
  | .notClass slot => s!"this_class #{slot} is not a Class constant"
  | .notText slot => s!"Class name #{slot} is not a Utf8 constant"

-- ---------------------------------------------------------------------------
-- Big-endian numbers
-- ---------------------------------------------------------------------------

def u16 (a b : UInt8) : Nat :=
  a.toNat * 256 + b.toNat

def u32 (a b c d : UInt8) : Nat :=
  u16 a b * 65536 + u16 c d

-- ---------------------------------------------------------------------------
-- The constant pool
-- ---------------------------------------------------------------------------

/-- The constants that a class name can be made of, by slot. -/
structure Pool where
  texts : List (Nat × List Char) := []
  classes : List (Nat × Nat) := []
deriving Repr

/-- Payload size of the constants that have a fixed one. -/
def payloadSize? (tag : UInt8) : Option Nat :=
  match tag.toNat with
  | 3 | 4 => some 4
  | 5 | 6 => some 8
  | 7 | 8 => some 2
  | 9 | 10 | 11 | 12 => some 4
  | 15 => some 3
  | 16 => some 2
  | 17 | 18 => some 4
  | 19 | 20 => some 2
  | _ => none

/-- Slots that a constant takes: 64-bit numbers take two. -/
def slots (tag : UInt8) : Nat :=
  if tag = 5 || tag = 6 then 2 else 1

theorem slots_pos (tag : UInt8) : 0 < slots tag := by
  unfold slots
  split <;> decide

/-- Reads the constants from slot `slot` up to `count`; also returns the bytes behind them. -/
def Pool.read (count slot : Nat) (bytes : List UInt8) (pool : Pool) :
    Except Fault (Pool × List UInt8) :=
  if _ : slot < count then
    match bytes with
    | [] => .error (.shortPool slot)
    | tag :: bytes =>
      if tag = 1 then
        match bytes with
        | a :: b :: bytes =>
          let length := u16 a b
          let raw := bytes.take length
          if raw.length ≠ length then .error (.shortText slot)
          else match ModifiedUtf8.decode raw with
            | none => .error .badText
            | some text =>
              read count (slot + 1) (bytes.drop length)
                { pool with texts := (slot, text) :: pool.texts }
        | _ => .error (.shortPool slot)
      else match payloadSize? tag with
        | none => .error (.unknownTag tag slot)
        | some size =>
          if tag = 7 then
            match bytes with
            | a :: b :: bytes =>
              read count (slot + 1) bytes
                { pool with classes := (slot, u16 a b) :: pool.classes }
            | _ => .error (.shortPool slot)
          else
            have := slots_pos tag
            read count (slot + slots tag) (bytes.drop size) pool
  else .ok (pool, bytes)
termination_by count - slot

-- ---------------------------------------------------------------------------
-- The class name
-- ---------------------------------------------------------------------------

def dotted (cs : List Char) : List Char :=
  cs.map fun c => if c = '/' then '.' else c

/-- The name of the class that a pool gives to the class constant in `slot`. -/
def Pool.className (pool : Pool) (slot : Nat) : Except Fault (List Char) :=
  match pool.classes.lookup slot with
  | none => .error (.notClass slot)
  | some nameSlot =>
    match pool.texts.lookup nameSlot with
    | none => .error (.notText nameSlot)
    | some name => .ok (dotted name)

/-- The dotted name of the class in a class file. -/
def className (bytes : List UInt8) : Except Fault String :=
  match bytes with
  | a :: b :: c :: d :: _ :: _ :: _ :: _ :: e :: f :: rest =>
    if u32 a b c d ≠ 0xCAFEBABE then .error (.badMagic (u32 a b c d))
    else match Pool.read (u16 e f) 1 rest {} with
      | .error fault => .error fault
      | .ok (pool, rest) =>
        match rest with
        | _ :: _ :: a :: b :: _ => (pool.className (u16 a b)).map String.ofList
        | _ => .error (.shortBody rest.length)
  | _ => .error (.shortHeader bytes.length)

end GroovyRounds.ClassFile
