import GroovyRounds.Decimal.Shortest
import GroovyRounds.Text.Loose

/-!
# JSON values

Values as a project file holds them, what counts as saying nothing, and how a
value reads inside a message.
-/

namespace GroovyRounds

-- ---------------------------------------------------------------------------
-- Types
-- ---------------------------------------------------------------------------

inductive Scalar where
  | null
  | boolean (b : Bool)
  | integer (n : Int)
  | double (x : Double)
  | text (s : LooseText)
deriving DecidableEq, Repr

inductive Json where
  | scalar (s : Scalar)
  | array (items : List Json)
  /-- Entries in the order of the first mention of their keys. -/
  | object (entries : List (LooseText × Json))
deriving Repr

instance : Inhabited Json := ⟨.scalar .null⟩

-- ---------------------------------------------------------------------------
-- Scalars
-- ---------------------------------------------------------------------------

namespace Scalar

/-- Absent, false, zero or without content. -/
def isVoid : Scalar → Bool
  | .null => true
  | .boolean b => !b
  | .integer n => n = 0
  | .double x => x.isZero
  | .text s => s.isEmpty

/-- The spelling inside a value. -/
def spell : Scalar → String
  | .null => "None"
  | .boolean b => if b then "True" else "False"
  | .integer n => toString n
  | .double x => x.spell
  | .text s => s.quote

/-- The spelling in running text, where a text stands for itself. -/
def display : Scalar → String
  | .text s => s.display
  | s => s.spell

/-- The number a scalar counts as; the truth values count as 0 and 1. -/
def number? : Scalar → Option Int
  | .boolean b => some (if b then 1 else 0)
  | .integer n => some n
  | .double x => x.toInt?
  | _ => none

/-- Scalars that name the same thing: equal ones and equal numbers. -/
def sameName (s t : Scalar) : Bool :=
  s = t || match s.number?, t.number? with
    | some m, some n => m = n
    | _, _ => false

/-- The word for the sort of value. -/
def sort : Scalar → String
  | .null => "NoneType"
  | .boolean _ => "bool"
  | .integer _ => "int"
  | .double _ => "float"
  | .text _ => "str"

end Scalar

-- ---------------------------------------------------------------------------
-- Values
-- ---------------------------------------------------------------------------

namespace Json

def null : Json := .scalar .null

def text (s : String) : Json := .scalar (.text s)

def isVoid : Json → Bool
  | .scalar s => s.isVoid
  | .array items => items.isEmpty
  | .object entries => entries.isEmpty

def isNull : Json → Bool
  | .scalar .null => true
  | _ => false

def sort : Json → String
  | .scalar s => s.sort
  | .array _ => "list"
  | .object _ => "dict"

mutual

/-- The spelling inside a message. -/
def spell : Json → String
  | .scalar s => s.spell
  | .array items => "[" ++ ", ".intercalate (spellItems items) ++ "]"
  | .object entries => "\x7b" ++ ", ".intercalate (spellEntries entries) ++ "\x7d"

def spellItems : List Json → List String
  | [] => []
  | item :: items => item.spell :: spellItems items

def spellEntries : List (LooseText × Json) → List String
  | [] => []
  | (key, value) :: entries => (key.quote ++ ": " ++ value.spell) :: spellEntries entries

end

/-- The spelling in running text, where a text stands for itself. -/
def display : Json → String
  | .scalar s => s.display
  | value => value.spell

/-- The value under a key. -/
def lookup (entries : List (LooseText × Json)) (key : String) : Option Json :=
  List.lookup (key : LooseText) entries

end Json

end GroovyRounds
