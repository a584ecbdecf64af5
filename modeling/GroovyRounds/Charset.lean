import GroovyRounds.Charset.Fault
import GroovyRounds.Charset.Page
import GroovyRounds.Charset.Reading
import GroovyRounds.Text.Utf8

/-!
# Character sets

The character sets by which the text of a child process may be read. The child
itself writes UTF-8.
-/

namespace GroovyRounds

inductive Charset where
  | utf8
  /-- UTF-8 after a byte order mark, which may be missing. -/
  | utf8Marked
  /-- Another reading of bytes, each given by its number. -/
  | ofBytes (read : List Nat → Except Charset.Fault (List Char))

namespace Charset

-- ---------------------------------------------------------------------------
-- Kinds of sets
-- ---------------------------------------------------------------------------

def ofPage (page : Page) : Charset :=
  .ofBytes fun bytes => .ok (page.read bytes)

def ofDecoder (decoder : Decoder) : Charset :=
  .ofBytes fun bytes => .ok (decoder.read bytes)

def ofModal {Mode : Type} (decoder : ModalDecoder Mode) (mode : Mode) : Charset :=
  .ofBytes fun bytes => .ok (decoder.read mode bytes)

/-- A set that reads nothing, not even an empty text. -/
def failing (fault : Fault) : Charset :=
  .ofBytes fun _ => .error fault

-- ---------------------------------------------------------------------------
-- Reading UTF-8 by another set
-- ---------------------------------------------------------------------------

/-- What is read when the writer wrote this text as UTF-8. -/
def reread (charset : Charset) (text : String) : Except Fault String :=
  match charset with
  | .utf8 => .ok text
  | .utf8Marked =>
    match text.toList with
    | '\ufeff' :: cs => .ok (String.ofList cs)
    | _ => .ok text
  | .ofBytes read => (read ((Text.Utf8.encodeText text).map (·.toNat))).map String.ofList

end Charset

end GroovyRounds
