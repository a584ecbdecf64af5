/-!
# Maps in insertion order

A map as the list of its entries. A new key goes to the end; a known key keeps
its place and gets the new value.
-/

namespace GroovyRounds

structure OrderedMap (κ ν : Type) where
  entries : List (κ × ν)
deriving DecidableEq, Repr

namespace OrderedMap

variable {κ ν μ : Type} [DecidableEq κ]

def empty : OrderedMap κ ν := ⟨[]⟩

instance : Inhabited (OrderedMap κ ν) := ⟨empty⟩

instance : EmptyCollection (OrderedMap κ ν) := ⟨empty⟩

def keys (m : OrderedMap κ ν) : List κ :=
  m.entries.map (·.1)

def values (m : OrderedMap κ ν) : List ν :=
  m.entries.map (·.2)

def isEmpty (m : OrderedMap κ ν) : Bool :=
  m.entries.isEmpty

def find? (m : OrderedMap κ ν) (k : κ) : Option ν :=
  m.entries.lookup k

def contains (m : OrderedMap κ ν) (k : κ) : Bool :=
  (m.find? k).isSome

-- ---------------------------------------------------------------------------
-- Changing
-- ---------------------------------------------------------------------------

def insertEntry (k : κ) (v : ν) : List (κ × ν) → List (κ × ν)
  | [] => [(k, v)]
  | (j, w) :: es => if j = k then (j, v) :: es else (j, w) :: insertEntry k v es

def insert (m : OrderedMap κ ν) (k : κ) (v : ν) : OrderedMap κ ν :=
  ⟨insertEntry k v m.entries⟩

/-- Gives a key the value made from the one it has, or from the default. -/
def alter (m : OrderedMap κ ν) (k : κ) (default : ν) (f : ν → ν) : OrderedMap κ ν :=
  m.insert k (f ((m.find? k).getD default))

def erase (m : OrderedMap κ ν) (k : κ) : OrderedMap κ ν :=
  ⟨m.entries.filter (·.1 ≠ k)⟩

/-- Inserts the entries one after another. -/
def ofList (es : List (κ × ν)) : OrderedMap κ ν :=
  es.foldl (fun m (k, v) => m.insert k v) empty

-- ---------------------------------------------------------------------------
-- Finding what was put in
-- ---------------------------------------------------------------------------

@[simp] theorem find?_empty (k : κ) : (empty : OrderedMap κ ν).find? k = none := rfl

theorem lookup_insertEntry (k j : κ) (v : ν) (es : List (κ × ν)) :
    (insertEntry k v es).lookup j = if j = k then some v else es.lookup j := by
  induction es with
  | nil => by_cases h : j = k <;> grind [insertEntry]
  | cons e es ih =>
    obtain ⟨i, w⟩ := e
    by_cases hik : i = k <;> by_cases hj : j = i <;>
      grind [insertEntry]

theorem find?_insert (m : OrderedMap κ ν) (k j : κ) (v : ν) :
    (m.insert k v).find? j = if j = k then some v else m.find? j :=
  lookup_insertEntry k j v m.entries

@[simp] theorem find?_insert_self (m : OrderedMap κ ν) (k : κ) (v : ν) :
    (m.insert k v).find? k = some v := by simp [find?_insert]

end OrderedMap

end GroovyRounds
