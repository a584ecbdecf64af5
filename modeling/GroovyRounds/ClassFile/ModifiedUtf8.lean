import GroovyRounds.Text.Utf8

/-!
# Modified UTF-8

The text encoding of class files: the zero character takes two bytes, and a
supplementary character is a pair of surrogates of three bytes each.
-/

namespace GroovyRounds.ClassFile.ModifiedUtf8

open Text.Utf8

-- ---------------------------------------------------------------------------
-- Decoding
-- ---------------------------------------------------------------------------

/-- Makes every two-byte zero a zero byte. -/
def restoreZeros : List UInt8 → List UInt8
  | [] => []
  | 0xC0 :: 0x80 :: bs => 0 :: restoreZeros bs
  | b :: bs => b :: restoreZeros bs

def isHigh (n : Nat) : Bool :=
  0xD800 ≤ n && n ≤ 0xDBFF

def isLow (n : Nat) : Bool :=
  0xDC00 ≤ n && n ≤ 0xDFFF

/-- Joins surrogate pairs; a surrogate without its partner has no text. -/
def joinPairs : List Nat → Option (List Char)
  | [] => some []
  | n :: ns =>
    if isHigh n then
      match ns with
      | m :: ns =>
        if isLow m then
          (joinPairs ns).map (Char.ofNat (0x10000 + (n - 0xD800) * 1024 + (m - 0xDC00)) :: ·)
        else none
      | [] => none
    else if isLow n then none
    else (joinPairs ns).map (Char.ofNat n :: ·)

def decode (bytes : List UInt8) : Option (List Char) :=
  match Text.Utf8.decode true (restoreZeros bytes) with
  | some points => joinPairs points
  | none => none

-- ---------------------------------------------------------------------------
-- Encoding
-- ---------------------------------------------------------------------------

/-- The two bytes of a code point below U+0800. -/
def twoBytes (n : Nat) : List UInt8 :=
  [UInt8.ofNat (0xC0 + n / 64), UInt8.ofNat (0x80 + n % 64)]

/-- The three bytes of a code unit of at most sixteen bits. -/
def threeBytes (n : Nat) : List UInt8 :=
  [UInt8.ofNat (0xE0 + n / 4096), UInt8.ofNat (0x80 + n / 64 % 64), UInt8.ofNat (0x80 + n % 64)]

def encodeChar (c : Char) : List UInt8 :=
  let n := c.toNat
  if n = 0 then [0xC0, 0x80]
  else if n < 0x80 then [UInt8.ofNat n]
  else if n < 0x800 then twoBytes n
  else if n < 0x10000 then threeBytes n
  else threeBytes (0xD800 + (n - 0x10000) / 1024) ++ threeBytes (0xDC00 + (n - 0x10000) % 1024)

def encode (cs : List Char) : List UInt8 :=
  cs.flatMap encodeChar

end GroovyRounds.ClassFile.ModifiedUtf8
