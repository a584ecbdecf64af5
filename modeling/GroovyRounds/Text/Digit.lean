/-!
# Digits

Decimal digits of every script, and the wider class that also holds raised,
lowered and enclosed digits. Only the former have a place in a numeral.
-/

namespace GroovyRounds.Text

-- ---------------------------------------------------------------------------
-- Decimal digits
-- ---------------------------------------------------------------------------

/-- The zero of each run of ten decimal digits. -/
def decimalZeros : List Nat :=
  [0x30, 0x660, 0x6f0, 0x7c0, 0x966, 0x9e6, 0xa66, 0xae6, 0xb66, 0xbe6, 0xc66, 0xce6, 0xd66,
   0xde6, 0xe50, 0xed0, 0xf20, 0x1040, 0x1090, 0x17e0, 0x1810, 0x1946, 0x19d0, 0x1a80, 0x1a90,
   0x1b50, 0x1bb0, 0x1c40, 0x1c50, 0xa620, 0xa8d0, 0xa900, 0xa9d0, 0xa9f0, 0xaa50, 0xabf0,
   0xff10, 0x104a0, 0x10d30, 0x11066, 0x110f0, 0x11136, 0x111d0, 0x112f0, 0x11450, 0x114d0,
   0x11650, 0x116c0, 0x11730, 0x118e0, 0x11950, 0x11c50, 0x11d50, 0x11da0, 0x16a60, 0x16ac0,
   0x16b50, 0x1d7ce, 0x1d7d8, 0x1d7e2, 0x1d7ec, 0x1d7f6, 0x1e140, 0x1e2f0, 0x1e950, 0x1fbf0]

/-- The value of a decimal digit of any script. -/
def decimalValue? (c : Char) : Option Nat :=
  match decimalZeros.find? (fun first => first ≤ c.toNat && c.toNat ≤ first + 9) with
  | some first => some (c.toNat - first)
  | none => none

theorem decimalValue?_ascii :
    "0123456789".toList.map decimalValue? = (List.range 10).map some := by decide

-- ---------------------------------------------------------------------------
-- Digits in base 16
-- ---------------------------------------------------------------------------

def hexValue? (c : Char) : Option Nat :=
  if c.isDigit then some (c.toNat - '0'.toNat)
  else if 'a' ≤ c && c ≤ 'f' then some (c.toNat - 'a'.toNat + 10)
  else if 'A' ≤ c && c ≤ 'F' then some (c.toNat - 'A'.toNat + 10)
  else none

-- ---------------------------------------------------------------------------
-- Other digits
-- ---------------------------------------------------------------------------

/-- Runs of raised, lowered and enclosed digits. -/
def figureRuns : List (Nat × Nat) :=
  [(178, 179), (185, 185), (4969, 4977), (6618, 6618), (8304, 8304), (8308, 8313), (8320, 8329),
   (9312, 9320), (9332, 9340), (9352, 9360), (9450, 9450), (9461, 9469), (9471, 9471),
   (10102, 10110), (10112, 10120), (10122, 10130), (68160, 68163), (69216, 69224),
   (69714, 69722), (127232, 127242)]

/-- Decimal digits and the figures that only look like one. -/
def isFigure (c : Char) : Bool :=
  (decimalValue? c).isSome || figureRuns.any (fun (lo, hi) => lo ≤ c.toNat && c.toNat ≤ hi)

/-- A text of one or more figures. -/
def isFigures (cs : List Char) : Bool :=
  !cs.isEmpty && cs.all isFigure

end GroovyRounds.Text
