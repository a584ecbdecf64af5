import GroovyRounds.Text.Utf8

/-!
# The least class file

A class file that holds a class's name and nothing else.
-/

namespace GroovyRounds.ClassFile

/-- A number in two bytes, the high one first. -/
def bigEndian (n : Nat) : List UInt8 :=
  [UInt8.ofNat (n / 256), UInt8.ofNat n]

def slashed (name : String) : String :=
  String.ofList (name.toList.map fun c => if c = '.' then '/' else c)

/-- The class file of a dotted name: two constants, then flags, the class, no superclass, and
no members. -/
def least (name : String) : List UInt8 :=
  let encoded := Text.Utf8.encodeText (slashed name)
  [0xCA, 0xFE, 0xBA, 0xBE, 0x00, 0x00, 0x00, 0x34, 0x00, 0x03] ++
    [0x01] ++ bigEndian encoded.length ++ encoded ++ [0x07, 0x00, 0x01] ++
    [0x00, 0x21, 0x00, 0x02, 0x00, 0x00, 0x00, 0x00, 0x00, 0x00, 0x00, 0x00]

end GroovyRounds.ClassFile
