import GroovyRounds.Charset.Fault
import GroovyRounds.Charset.Reading

/-!
# Units of several bytes

UTF-16 and UTF-32, each in the two orders of the bytes of a unit, or in the order
that a mark at the start tells.
-/

namespace GroovyRounds.Charset

/-- The order of the bytes of a unit. -/
inductive ByteOrder where
  | little
  | big

/-- The number that bytes of a unit stand for. -/
def ByteOrder.number (order : ByteOrder) (bytes : List Nat) : Nat :=
  match order with
  | .little => bytes.foldr (fun b n => n * 256 + b) 0
  | .big => bytes.foldl (fun n b => n * 256 + b) 0

-- ---------------------------------------------------------------------------
-- Two bytes
-- ---------------------------------------------------------------------------

def utf16 (order : ByteOrder) : Decoder := fun a bs =>
  match bs with
  | [] => .cut []
  | b :: rest =>
    let unit := order.number [a, b]
    if 0xD800 ≤ unit && unit ≤ 0xDBFF then
      match rest with
      | c :: d :: _ =>
        let second := order.number [c, d]
        if 0xDC00 ≤ second && second ≤ 0xDFFF then
          .one 3 (0x10000 + (unit - 0xD800) * 1024 + (second - 0xDC00))
        else .bad 1
      | _ => .cut bs
    else .one 1 unit

-- ---------------------------------------------------------------------------
-- Four bytes
-- ---------------------------------------------------------------------------

def utf32 (order : ByteOrder) : Decoder := fun a bs =>
  match bs with
  | b :: c :: d :: _ => .one 3 (order.number [a, b, c, d])
  | _ => .cut bs

-- ---------------------------------------------------------------------------
-- Marks
-- ---------------------------------------------------------------------------

/-- Reads units of so many bytes in the order that a mark tells. Fewer bytes than a unit are
read as one character cut short. -/
def readMarked (decoder : ByteOrder → Decoder) (width : Nat) (bytes : List Nat) :
    Except Fault (List Char) :=
  let (head, rest) := bytes.splitAt width
  if bytes.isEmpty then .ok []
  else if head.length < width then .ok [replacement]
  else if ByteOrder.little.number head = 0xFEFF then .ok ((decoder .little).read rest)
  else if ByteOrder.big.number head = 0xFEFF then .ok ((decoder .big).read rest)
  else .error (.unmarked (8 * width))

end GroovyRounds.Charset
