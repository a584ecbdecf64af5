import GroovyRounds.Text.Quoted

/-!
# Faults of character sets

Why a name stands for no character set of texts, and why a set that replaces
what it cannot read still fails on some bytes.
-/

namespace GroovyRounds.Charset

inductive Fault where
  | zeroInName
  | unknown (name : String)
  /-- The name of a conversion between bytes, or between texts. -/
  | notText (name : String)
  /-- A text without the byte order mark that it needs, of so many bits for a unit. -/
  | unmarked (bits : Nat)
  /-- A set that replaces nothing. -/
  | unreplaced
  /-- A set that reads no text at all. -/
  | undefined
  /-- A byte where only ASCII may stand. -/
  | notAscii (byte position : Nat)
  /-- An escape sequence that goes on too long at the end. -/
  | unended
  /-- A shift to a set from which single characters cannot be taken. -/
  | unshiftable
deriving DecidableEq, Repr

namespace Fault

def label : Fault → String
  | .zeroInName => "ValueError"
  | .unknown _ | .notText _ => "LookupError"
  | .unmarked _ | .unreplaced | .undefined | .unended => "UnicodeError"
  | .notAscii .. => "UnicodeDecodeError"
  | .unshiftable => "RuntimeError"

/-- The characters that the first so many bytes of UTF-8 hold. The replacement character stands
for one that is cut. -/
def cutTo : Nat → List Char → List Char
  | _, [] => []
  | n, c :: cs =>
    if c.utf8Size ≤ n then c :: cutTo (n - c.utf8Size) cs
    else if n = 0 then [] else ['\ufffd']

def message : Fault → String
  | .zeroInName => "embedded null character"
  | .unknown name => "unknown encoding: " ++ name
  | .notText name =>
    "'" ++ String.ofList (cutTo 400 name.toList) ++
      "' is not a text encoding; use codecs.open() to handle arbitrary codecs"
  | .unmarked bits => "UTF-" ++ toString bits ++ " stream does not start with BOM"
  | .unreplaced => "Unsupported error handling replace"
  | .undefined => "undefined encoding"
  | .notAscii byte position =>
    "'ascii' codec can't decode byte 0x" ++ String.ofList (Text.hex 2 byte) ++ " in position " ++
      toString position ++ ": ordinal not in range(128)"
  | .unended => "pending buffer overflow"
  | .unshiftable => "internal codec error"

end Fault

end GroovyRounds.Charset
