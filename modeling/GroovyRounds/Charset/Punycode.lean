import GroovyRounds.Charset.Fault
import GroovyRounds.Charset.Reading

/-!
# Punycode

A text of any characters in ASCII: its ASCII characters, and after the last
hyphen the other characters and their places as numbers of variable length.
-/

namespace GroovyRounds.Charset

-- ---------------------------------------------------------------------------
-- Numbers
-- ---------------------------------------------------------------------------

/-- The value of a digit; letters come before numerals. -/
def punycodeDigit? (b : Nat) : Option Nat :=
  if 0x41 ≤ b && b ≤ 0x5A then some (b - 0x41)
  else if 0x61 ≤ b && b ≤ 0x7A then some (b - 0x61)
  else if 0x30 ≤ b && b ≤ 0x39 then some (b - 0x30 + 26)
  else none

/-- Below this value the digit at a place is the last one of its number. -/
def threshold (bias place : Nat) : Nat :=
  max 1 (min 26 (36 * (place + 1) - bias))

/-- The number at the head, and what follows it. -/
def punycodeNumber? (bias : Nat) : (place weight sum : Nat) → List Nat → Option (Nat × List Nat)
  | _, _, _, [] => none
  | place, weight, sum, b :: bs => do
    let digit ← punycodeDigit? b
    let sum := sum + digit * weight
    let t := threshold bias place
    if digit < t then some (sum, bs)
    else punycodeNumber? bias (place + 1) (weight * (36 - t)) sum bs

theorem length_punycodeNumber? {bias place weight sum n : Nat} {bytes rest : List Nat}
    (h : punycodeNumber? bias place weight sum bytes = some (n, rest)) :
    rest.length < bytes.length := by
  induction bytes generalizing place weight sum with
  | nil => simp [punycodeNumber?] at h
  | cons b bs ih =>
    simp only [punycodeNumber?, Option.bind_eq_bind, Option.bind_eq_some_iff] at h
    obtain ⟨digit, -, h⟩ := h
    split at h
    · simp_all
    · exact Nat.lt_succ_of_lt (ih h)

/-- Scales a number down until its digits fit the thresholds. -/
def scaleDown (delta : Nat) : Nat × Nat :=
  if 455 < delta then
    let (scaled, steps) := scaleDown (delta / 35)
    (scaled, steps + 1)
  else (delta, 0)
termination_by delta
decreasing_by exact Nat.div_lt_self (by omega) (by omega)

/-- The bias for the number after this one, in a text of so many characters. -/
def adaptBias (delta : Nat) (isFirst : Bool) (count : Nat) : Nat :=
  let delta := if isFirst then delta / 700 else delta / 2
  let (scaled, steps) := scaleDown (delta + delta / count)
  steps * 36 + 36 * scaled / (scaled + 38)

-- ---------------------------------------------------------------------------
-- Texts
-- ---------------------------------------------------------------------------

/-- Where the next character goes: the place after the one before it, its number and the
bias. -/
structure Insertion where
  place : Nat := 0
  number : Nat := 0x80
  bias : Nat := 72

/-- Inserts characters until a number is broken. A character beyond all characters becomes a
question mark. -/
def insertAll (isFirst : Bool) (next : Insertion) (chars : List Char) (bytes : List Nat) :
    List Char :=
  match _read : punycodeNumber? next.bias 0 1 0 bytes with
  | none => chars
  | some (delta, rest) =>
    let place := next.place + delta
    let count := chars.length + 1
    let number := next.number + place / count
    let number := if 0x10FFFF < number then '?'.toNat else number
    let place := place % count
    insertAll false
      { place := place + 1, number, bias := adaptBias delta isFirst count }
      (chars.take place ++ charOf number :: chars.drop place) rest
termination_by bytes.length
decreasing_by exact length_punycodeNumber? _read

/-- The bytes before the last hyphen, and those after it. -/
def atLastHyphen (bytes : List Nat) : List Nat × List Nat :=
  let tail := (bytes.reverse.takeWhile (· ≠ '-'.toNat)).reverse
  (bytes.take (bytes.length - tail.length - 1), tail)

/-- What is not ASCII is replaced before the last hyphen, and a fault after it. -/
def readPunycode (bytes : List Nat) : Except Fault (List Char) :=
  let (plain, inserted) := atLastHyphen bytes
  match inserted.findIdx? (0x80 ≤ ·) with
  | some i => .error (.notAscii (inserted.getD i 0) i)
  | none =>
    .ok (insertAll true {} (plain.map fun b => if b < 0x80 then charOf b else replacement) inserted)

end GroovyRounds.Charset
