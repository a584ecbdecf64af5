/-!
# Pages

Character sets of one byte for each character.
-/

namespace GroovyRounds.Charset

/-- The characters of the bytes below 0x80 and of the others. The replacement character
stands where there is none. -/
structure Page where
  low : String
  high : String

namespace Page

def asciiChars : String :=
  String.ofList ((List.range 0x80).map Char.ofNat)

def overAscii (high : String) : Page :=
  { low := asciiChars, high }

/-- A page with control characters from 0x80 on and the given characters from 0xA0 on. -/
def overControls (upper : String) : Page :=
  overAscii (String.ofList ((List.range 0x20).map fun n => Char.ofNat (0x80 + n)) ++ upper)

def char (page : Page) (b : Nat) : Char :=
  ((page.low ++ page.high).toList[b]?).getD '\ufffd'

def read (page : Page) (bytes : List Nat) : List Char :=
  let cells := (page.low ++ page.high).toList.toArray
  bytes.map fun b => cells.getD b '\ufffd'

def ascii : Page := overAscii ""

/-- The first part of ISO 8859: every byte is the character of its number. -/
def latin1 : Page :=
  overControls (String.ofList ((List.range 0x60).map fun n => Char.ofNat (0xA0 + n)))

end Page

end GroovyRounds.Charset
