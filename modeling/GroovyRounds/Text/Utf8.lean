/-!
# UTF-8

A strict decoder: no overlong form, nothing above U+10FFFF. Surrogates are
refused unless the caller asks for them, as the encoding inside class files
writes supplementary characters as pairs of them.
-/

namespace GroovyRounds.Text.Utf8

-- ---------------------------------------------------------------------------
-- Decoding
-- ---------------------------------------------------------------------------

def isContinuation (b : UInt8) : Bool :=
  0x80 ≤ b && b ≤ 0xBF

def isSurrogate (n : Nat) : Bool :=
  0xD800 ≤ n && n ≤ 0xDFFF

/-- The six low bits of a continuation byte. -/
def low (b : UInt8) : Nat :=
  b.toNat % 64

/-- The code points of an encoded text, or `none` for bytes that encode none. -/
def decode (surrogates : Bool) : List UInt8 → Option (List Nat)
  | [] => some []
  | a :: bs =>
    if a < 0x80 then
      (decode surrogates bs).map (a.toNat :: ·)
    else if 0xC2 ≤ a && a ≤ 0xDF then
      match bs with
      | b :: bs =>
        if isContinuation b then
          (decode surrogates bs).map ((a.toNat % 32 * 64 + low b) :: ·)
        else none
      | [] => none
    else if 0xE0 ≤ a && a ≤ 0xEF then
      match bs with
      | b :: c :: bs =>
        let n := a.toNat % 16 * 4096 + low b * 64 + low c
        if isContinuation b && isContinuation c && 0x800 ≤ n && (surrogates || !isSurrogate n) then
          (decode surrogates bs).map (n :: ·)
        else none
      | _ => none
    else if 0xF0 ≤ a && a ≤ 0xF4 then
      match bs with
      | b :: c :: d :: bs =>
        let n := a.toNat % 8 * 262144 + low b * 4096 + low c * 64 + low d
        if isContinuation b && isContinuation c && isContinuation d &&
            0x10000 ≤ n && n ≤ 0x10FFFF then
          (decode surrogates bs).map (n :: ·)
        else none
      | _ => none
    else none

/-- The text that bytes encode. -/
def decodeText (bytes : List UInt8) : Option (List Char) :=
  (decode false bytes).map (·.map Char.ofNat)

-- ---------------------------------------------------------------------------
-- Encoding
-- ---------------------------------------------------------------------------

def encodeText (s : String) : List UInt8 :=
  s.toUTF8.data.toList

end GroovyRounds.Text.Utf8
