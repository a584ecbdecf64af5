import GroovyRounds.Path

/-!
# Glob patterns

A pattern is a list of tokens: a literal character, any character, any run of
characters (slashes included), or a character of a set. The whole text has to
match.
-/

namespace GroovyRounds.Glob

/-- Inclusive ranges of characters. -/
abbrev Ranges := List (Char × Char)

inductive Token where
  | literal (c : Char)
  | any
  | run
  | oneOf (negated : Bool) (ranges : Ranges)
deriving DecidableEq, Repr

-- ---------------------------------------------------------------------------
-- Character sets
-- ---------------------------------------------------------------------------

/-- Cuts a set at the hyphens that make ranges: one needs a character before it, and two
characters stand between one and the next. A hyphen at the end belongs to the last piece. -/
def cutAtHyphens (skip : Nat) (piece : List Char) : List Char → List (List Char)
  | [] => [piece.reverse]
  | c :: cs =>
    match skip with
    | skip + 1 => cutAtHyphens skip (c :: piece) cs
    | 0 =>
      if c = '-' then
        if cs.isEmpty then [(c :: piece).reverse]
        else piece.reverse :: cutAtHyphens 2 [] cs
      else cutAtHyphens 0 (c :: piece) cs

/-- Drops each range that runs backwards together with its two ends, the last range first. -/
def dropEmptyRanges : List (List Char) → List (List Char)
  | [] => []
  | piece :: pieces =>
    match dropEmptyRanges pieces with
    | [] => [piece]
    | next :: rest =>
      match piece.getLast?, next.head? with
      | some low, some high =>
        if high < low then (piece.dropLast ++ next.tail) :: rest else piece :: next :: rest
      | _, _ => piece :: next :: rest

/-- The range between two pieces; a hyphen with nothing before it stands for itself. -/
def rangeBetween (left right : List Char) : Char × Char :=
  match left.getLast?, right.head? with
  | some low, some high => (low, high)
  | _, _ => ('-', '-')

def rangesOf : List (List Char) → Ranges
  | [] => []
  | [piece] => piece.map fun c => (c, c)
  | piece :: next :: rest =>
    (piece.map fun c => (c, c)) ++ rangeBetween piece next :: rangesOf (next :: rest)

/-- The set between two brackets. An exclamation mark in front negates it. -/
def setOf (content : List Char) : Token :=
  let skip := if content.head? = some '!' then 2 else 1
  match dropEmptyRanges (cutAtHyphens skip [] content) with
  | ('!' :: piece) :: pieces => .oneOf true (rangesOf (piece :: pieces))
  | pieces => .oneOf false (rangesOf pieces)

/-- The content of a set and what follows it. A closing bracket in front is part of it. -/
def takeSet (cs : List Char) : Option (List Char × List Char) :=
  let head := match cs with
    | '!' :: ']' :: _ => 2
    | '!' :: _ | ']' :: _ => 1
    | _ => 0
  let content := cs.take head ++ (cs.drop head).takeWhile (· ≠ ']')
  match cs.drop content.length with
  | ']' :: rest => some (content, rest)
  | _ => none

-- ---------------------------------------------------------------------------
-- Patterns
-- ---------------------------------------------------------------------------

/-- The tokens of a pattern. The fuel bounds their number. -/
def tokens : Nat → List Char → List Token
  | 0, _ => []
  | _, [] => []
  | fuel + 1, '*' :: cs => .run :: tokens fuel cs
  | fuel + 1, '?' :: cs => .any :: tokens fuel cs
  | fuel + 1, '[' :: cs =>
    match takeSet cs with
    | some (content, rest) => setOf content :: tokens fuel rest
    | none => .literal '[' :: tokens fuel cs
  | fuel + 1, c :: cs => .literal c :: tokens fuel cs

def ofString (pattern : String) : List Token :=
  tokens pattern.length pattern.toList

-- ---------------------------------------------------------------------------
-- Matching
-- ---------------------------------------------------------------------------

/-- The token matches this one character. -/
def Token.admits : Token → Char → Bool
  | .literal d, c => c = d
  | .any, _ | .run, _ => true
  | .oneOf negated ranges, c => negated ≠ ranges.any fun (low, high) => low ≤ c && c ≤ high

/-- For each tail of the text: does it match the empty pattern? -/
def onlyEmpty : List Char → List Bool
  | [] => [true]
  | _ :: cs => false :: onlyEmpty cs

/-- For each tail of the text: does it match the token before a pattern, given which tails
match that pattern? -/
def Token.before (t : Token) : List Char → List Bool → List Bool
  | [], tails => [t = .run && tails.headD false]
  | c :: cs, tails =>
    let rest := t.before cs tails.tail
    let here := match t with
      | .run => tails.headD false || rest.headD false
      | t => t.admits c && tails.tail.headD false
    here :: rest

/-- The pattern matches the whole text. -/
def accepts (pattern : List Token) (text : List Char) : Bool :=
  (pattern.foldr (fun t tails => t.before text tails) (onlyEmpty text)).headD false

/-- The pattern matches the path, or the part of it after some slash. -/
def covers (pattern : String) (p : Path) : Bool :=
  let text := p.toString.toList
  accepts (ofString pattern) text || accepts (ofString ("*/" ++ pattern)) text

end GroovyRounds.Glob
