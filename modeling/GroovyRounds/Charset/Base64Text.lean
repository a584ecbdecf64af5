import GroovyRounds.Charset.Reading

/-!
# UTF-7

ASCII, with runs of units of 16 bits in base 64 between a plus sign and a hyphen.
-/

namespace GroovyRounds.Charset

-- ---------------------------------------------------------------------------
-- Base 64
-- ---------------------------------------------------------------------------

def base64Digit? (b : Nat) : Option Nat :=
  if 0x41 ≤ b && b ≤ 0x5A then some (b - 0x41)
  else if 0x61 ≤ b && b ≤ 0x7A then some (b - 0x61 + 26)
  else if 0x30 ≤ b && b ≤ 0x39 then some (b - 0x30 + 52)
  else if b = 0x2B then some 62
  else if b = 0x2F then some 63
  else none

/-- What is left inside a run: bits that make no unit yet, and the first half of a pair. -/
structure Base64Run where
  width : Nat := 0
  bits : Nat := 0
  half? : Option Nat := none

namespace Base64Run

/-- A unit after what was read before it. -/
def unit (run : Base64Run) (n : Nat) : List Char × Base64Run :=
  let fresh (chars : List Char) : List Char × Base64Run :=
    if 0xD800 ≤ n && n ≤ 0xDBFF then (chars, { run with half? := some n })
    else (chars ++ [charOf n], { run with half? := none })
  match run.half? with
  | some half =>
    if 0xDC00 ≤ n && n ≤ 0xDFFF then
      ([charOf (0x10000 + (half - 0xD800) * 1024 + (n - 0xDC00))], { run with half? := none })
    else fresh [replacement]
  | none => fresh []

/-- Six more bits. -/
def digit (run : Base64Run) (n : Nat) : List Char × Base64Run :=
  let bits := run.bits * 64 + n
  let width := run.width + 6
  if width < 16 then ([], { run with bits, width })
  else
    let scale := Nat.pow 2 (width - 16)
    { run with bits := bits % scale, width := width - 16 }.unit (bits / scale)

/-- Whether bits are left that are no padding. -/
def isBroken (run : Base64Run) : Bool :=
  6 ≤ run.width || run.bits ≠ 0

end Base64Run

-- ---------------------------------------------------------------------------
-- Texts
-- ---------------------------------------------------------------------------

/-- Outside of runs. -/
def utf7Plain (b : Nat) (bs : List Nat) : Reading × Option Base64Run :=
  if b = 0x2B then
    match bs with
    | 0x2D :: _ => (.one 1 b, none)
    | [] => ({ chars := [] }, some {})
    | c :: _ =>
      if (base64Digit? c).isSome then ({ chars := [] }, some {}) else (.bad 1, none)
  else if b < 0x80 then (.one 0 b, none)
  else (.bad 0, none)

/-- A byte that ends a run. It is lost with bits that are left. A half of a pair is lost too,
but ASCII keeps it. -/
def utf7Leave (run : Base64Run) (b : Nat) (bs : List Nat) : Reading × Option Base64Run :=
  if run.isBroken then (.bad 0, none)
  else
    let kept := if run.half?.isSome && b < 0x80 then [replacement] else []
    if b = 0x2D then ({ chars := kept }, none)
    else
      let (reading, next) := utf7Plain b bs
      ({ reading with chars := kept ++ reading.chars }, next)

def utf7 : ModalDecoder (Option Base64Run) := fun run? b bs =>
  match run? with
  | none => utf7Plain b bs
  | some run =>
    match base64Digit? b with
    | none => utf7Leave run b bs
    | some n =>
      let (chars, run) := run.digit n
      let unended := bs.isEmpty && (run.isBroken || run.half?.isSome)
      ({ chars := if unended then chars ++ [replacement] else chars }, some run)

end GroovyRounds.Charset
