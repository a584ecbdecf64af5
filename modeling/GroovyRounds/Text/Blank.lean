/-!
# Blank characters

The characters that count as blank, trimming, and the shape of a word list.
Texts are handled as lists of characters; `String` appears where a text
enters or leaves the library.
-/

namespace GroovyRounds.Text

-- ---------------------------------------------------------------------------
-- The class of blanks
-- ---------------------------------------------------------------------------

/-- Unicode white space together with the four information separators. -/
def isBlank (c : Char) : Bool :=
  let n := c.toNat
  (9 ≤ n && n ≤ 13) || (28 ≤ n && n ≤ 32) || n == 0x85 || n == 0xA0 || n == 0x1680 ||
    (0x2000 ≤ n && n ≤ 0x200A) || n == 0x2028 || n == 0x2029 || n == 0x202F ||
    n == 0x205F || n == 0x3000

/-- Blanks that may surround a numeral: the information separators do not count. -/
def isNumeralBlank (c : Char) : Bool :=
  isBlank c && !(28 ≤ c.toNat && c.toNat ≤ 31)

theorem isBlank_of_isWhitespace {c : Char} (h : c.isWhitespace = true) : isBlank c = true := by
  simp only [Char.isWhitespace, Bool.or_eq_true, decide_eq_true_eq] at h
  rcases h with ((rfl | rfl) | rfl) | rfl <;> decide

-- ---------------------------------------------------------------------------
-- Trimming
-- ---------------------------------------------------------------------------

def trimLeft (p : Char → Bool) (cs : List Char) : List Char :=
  cs.dropWhile p

def trimRight (p : Char → Bool) (cs : List Char) : List Char :=
  (cs.reverse.dropWhile p).reverse

def trimBoth (p : Char → Bool) (cs : List Char) : List Char :=
  trimRight p (trimLeft p cs)

/-- The text without the blanks at its two ends. -/
def trim (cs : List Char) : List Char :=
  trimBoth isBlank cs

def trimString (s : String) : String :=
  String.ofList (trim s.toList)

@[simp] theorem trimLeft_nil (p : Char → Bool) : trimLeft p [] = [] := rfl

@[simp] theorem trimRight_nil (p : Char → Bool) : trimRight p [] = [] := rfl

end GroovyRounds.Text
