import GroovyRounds.Text.Blank

/-!
# Lines

Three ways to cut a text: at one separator, at line feeds after the three
line ends have been made one, and at every character that Unicode counts as a
line boundary.
-/

namespace GroovyRounds.Text

-- ---------------------------------------------------------------------------
-- Cutting at a separator
-- ---------------------------------------------------------------------------

/-- The pieces between the separators: one more than there are separators. -/
def splitOn (sep : Char) : List Char → List (List Char)
  | [] => [[]]
  | c :: cs =>
    if c = sep then [] :: splitOn sep cs
    else match splitOn sep cs with
      | [] => [[c]]
      | piece :: pieces => (c :: piece) :: pieces

@[simp] theorem splitOn_nil (sep : Char) : splitOn sep [] = [[]] := rfl

theorem splitOn_ne_nil (sep : Char) (cs : List Char) : splitOn sep cs ≠ [] := by
  cases cs with
  | nil => simp
  | cons c cs =>
    simp only [splitOn]
    split
    · simp
    · split <;> simp

/-- The pieces between the first `limit` separators; the last piece holds the rest. -/
def splitOnAtMost (sep : Char) : Nat → List Char → List (List Char)
  | 0, cs => [cs]
  | _ + 1, [] => [[]]
  | limit + 1, c :: cs =>
    if c = sep then [] :: splitOnAtMost sep limit cs
    else match splitOnAtMost sep (limit + 1) cs with
      | [] => [[c]]
      | piece :: pieces => (c :: piece) :: pieces

/-- Puts the separator between the pieces. -/
def joinWith (sep : List Char) (pieces : List (List Char)) : List Char :=
  List.intercalate sep pieces

-- ---------------------------------------------------------------------------
-- Line ends
-- ---------------------------------------------------------------------------

/-- Makes a carriage return, alone or before a line feed, a line feed. -/
def unifyLineEnds : List Char → List Char
  | [] => []
  | '\r' :: '\n' :: cs => '\n' :: unifyLineEnds cs
  | '\r' :: cs => '\n' :: unifyLineEnds cs
  | c :: cs => c :: unifyLineEnds cs

/-- The lines of a text whose line ends are line feeds; a last empty line does not count. -/
def lines (cs : List Char) : List (List Char) :=
  let pieces := splitOn '\n' cs
  if pieces.getLast? = some [] then pieces.dropLast else pieces

/-- Characters after which Unicode text may start a new line. -/
def isLineBoundary (c : Char) : Bool :=
  let n := c.toNat
  (10 ≤ n && n ≤ 13) || (28 ≤ n && n ≤ 30) || n == 0x85 || n == 0x2028 || n == 0x2029

/-- The pieces between line boundaries. -/
def boundaryPieces (cs : List Char) : List (List Char) :=
  go cs []
where
  go : List Char → List Char → List (List Char)
    | [], piece => [piece.reverse]
    | c :: cs, piece =>
      if isLineBoundary c then piece.reverse :: go cs [] else go cs (c :: piece)

/-- The trimmed lines of a setting that holds a list, without the empty ones. -/
def listItems (s : String) : List String :=
  (boundaryPieces s.toList).map trim |>.filter (!·.isEmpty) |>.map String.ofList

end GroovyRounds.Text
