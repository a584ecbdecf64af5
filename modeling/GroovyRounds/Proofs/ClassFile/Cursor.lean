import GroovyRounds.Proofs.ClassFile.Layout

/-!
# Class file headers by position

Reading a header at positions of bytes that stay as they are. An access fails
in its own way: there is no byte, there are too few of them, or they encode no
text. Where an access is made, some of these failures are reported as faults of
the header. That no other failure is left is what `className_eq` says: reading
by position is reading the header.
-/

namespace GroovyRounds.ClassFile.Cursor

-- ---------------------------------------------------------------------------
-- Access
-- ---------------------------------------------------------------------------

/-- Why reading by position ends: a fault of the header, or an access that failed. -/
inductive Failure where
  | fault (fault : Fault)
  | noByte (position : Nat)
  | tooShort (needed left : Nat)
  | noText
deriving DecidableEq, Repr

/-- Reports some failures as faults and leaves the others as they are. -/
def reporting {α : Type} (report : Failure → Option Fault) : Except Failure α → Except Failure α :=
  Except.mapError fun failure => (report failure).elim failure .fault

section
variable (data : List UInt8) (position : Nat)

def byteAt : Except Failure UInt8 :=
  match data[position]? with
  | some b => .ok b
  | none => .error (.noByte position)

/-- The number in two bytes. -/
def word : Except Failure Nat :=
  match data.drop position with
  | a :: b :: _ => .ok (u16 a b)
  | left => .error (.tooShort 2 left.length)

/-- The two numbers in four bytes. -/
def words : Except Failure (Nat × Nat) :=
  match data.drop position with
  | a :: b :: c :: d :: _ => .ok (u16 a b, u16 c d)
  | left => .error (.tooShort 4 left.length)

/-- Magic number, versions and count of slots, in ten bytes. -/
def front : Except Failure (Nat × Nat × Nat × Nat) :=
  match data.drop position with
  | a :: b :: c :: d :: e :: f :: g :: h :: i :: j :: _ =>
    .ok (u32 a b c d, u16 e f, u16 g h, u16 i j)
  | left => .error (.tooShort 10 left.length)

end

def points (raw : List UInt8) : Except Failure (List Nat) :=
  match Text.Utf8.decode true (ModifiedUtf8.restoreZeros raw) with
  | some points => .ok points
  | none => .error .noText

def joined (points : List Nat) : Except Failure (List Char) :=
  match ModifiedUtf8.joinPairs points with
  | some text => .ok text
  | none => .error .noText

def decode (raw : List UInt8) : Except Failure (List Char) :=
  reporting (fun
    | .noText => some .badText
    | _ => none) (points raw >>= joined)

-- ---------------------------------------------------------------------------
-- Reading
-- ---------------------------------------------------------------------------

/-- Reads a text whose length is at the position. -/
def readText (data : List UInt8) (slot position : Nat) (pool : Pool) :
    Except Failure (Nat × Pool) := do
  let length ← word data position
  let raw := (data.drop (position + 2)).take length
  if raw.length ≠ length then
    throw (.fault (.shortText slot))
  let text ← decode raw
  return (position + 2 + length, { pool with texts := (slot, text) :: pool.texts })

/-- Passes over a payload. Only that of a class is looked at, no other need even be there. -/
def readFixed (data : List UInt8) (tag : UInt8) (slot position : Nat) (pool : Pool) :
    Except Failure (Nat × Pool) :=
  match payloadSize? tag with
  | none => .error (.fault (.unknownTag tag slot))
  | some size =>
    if tag = 7 then
      (word data position).map fun name =>
        (position + size, { pool with classes := (slot, name) :: pool.classes })
    else .ok (position + size, pool)

/-- Reads one constant: its tag, the position behind it and the pool with it. -/
def readConstant (data : List UInt8) (slot position : Nat) (pool : Pool) :
    Except Failure (UInt8 × Nat × Pool) := do
  let tag ← byteAt data position
  let found ←
    if tag = 1 then readText data slot (position + 1) pool
    else readFixed data tag slot (position + 1) pool
  return (tag, found)

/-- Within the constants, an access that fails is the end of the pool. -/
def poolFault (slot : Nat) : Failure → Option Fault
  | .noByte _ | .tooShort .. => some (.shortPool slot)
  | .fault _ | .noText => none

/-- Reads the constants up to `count`. -/
def readPool (data : List UInt8) (count slot position : Nat) (pool : Pool) :
    Except Failure (Nat × Pool) :=
  if slot < count then
    match reporting (poolFault slot) (readConstant data slot position pool) with
    | .error failure => .error failure
    | .ok (tag, position, pool) =>
      have := slots_pos tag
      readPool data count (slot + slots tag) position pool
  else .ok (position, pool)
termination_by count - slot

/-- The name that a pool gives to the class whose slot stands at the position, behind flags. -/
def nameAt (data : List UInt8) (position : Nat) (pool : Pool) : Except Failure String := do
  let (_, thisClass) ← reporting (fun
    | .tooShort _ left => some (.shortBody left)
    | _ => none) (words data position)
  ((pool.className thisClass).map String.ofList).mapError .fault

/-- The dotted name of the class in a class file. -/
def className (data : List UInt8) : Except Failure String := do
  let (magic, _, _, count) ← reporting (fun
    | .tooShort _ left => some (.shortHeader left)
    | _ => none) (front data 0)
  if magic ≠ 0xCAFEBABE then .error (.fault (.badMagic magic))
  else
    let (position, pool) ← readPool data count 1 10 {}
    nameAt data position pool

-- ---------------------------------------------------------------------------
-- Agreement
-- ---------------------------------------------------------------------------

section
variable {data : List UInt8} {position : Nat} {bytes : List UInt8}

theorem byteAt_of_drop {b : UInt8} (h : data.drop position = b :: bytes) :
    byteAt data position = .ok b := by
  have hget : data[position]? = some b := by
    rw [← List.head?_drop, h, List.head?_cons]
  rw [byteAt, hget]

theorem drop_succ {b : UInt8} (h : data.drop position = b :: bytes) :
    data.drop (position + 1) = bytes := by
  rw [← List.drop_drop, h, List.drop_succ_cons, List.drop_zero]

theorem drop_two {a b : UInt8} (h : data.drop position = a :: b :: bytes) :
    data.drop (position + 2) = bytes :=
  drop_succ (drop_succ h)

end

theorem decode_eq (raw : List UInt8) :
    decode raw =
      match ModifiedUtf8.decode raw with
      | some text => .ok text
      | none => .error (.fault .badText) := by
  rw [decode, points, ModifiedUtf8.decode]
  cases Text.Utf8.decode true (ModifiedUtf8.restoreZeros raw) with
  | none => rfl
  | some points =>
    simp only [joined, bind, Except.bind]
    cases ModifiedUtf8.joinPairs points <;> rfl

section
variable {data : List UInt8} {count slot position : Nat} (pool : Pool)

theorem read_eq_readText (hslot : slot < count) :
    (Pool.read count slot (1 :: data.drop position) pool).mapError .fault =
      match reporting (poolFault slot) (readText data slot position pool) with
      | .error failure => .error failure
      | .ok (position, pool) =>
        (Pool.read count (slot + 1) (data.drop position) pool).mapError .fault := by
  rw [Pool.read.eq_def, dif_pos hslot, readText, word]
  match hdrop : data.drop position with
  | [] | [_] => rfl
  | a :: b :: bytes =>
    have hbytes := drop_two hdrop
    simp only [if_true, bind, Except.bind, hbytes, decode_eq]
    by_cases hlength : (bytes.take (u16 a b)).length ≠ u16 a b
    · simp only [if_pos hlength]
      rfl
    · have hrest : data.drop (position + 2 + u16 a b) = bytes.drop (u16 a b) := by
        rw [← List.drop_drop, hbytes]
      simp only [if_neg hlength]
      cases ModifiedUtf8.decode (bytes.take (u16 a b)) with
      | none => rfl
      | some text =>
        rw [← hrest]
        rfl

theorem read_eq_readFixed {tag : UInt8} (htext : tag ≠ 1) (hslot : slot < count) :
    (Pool.read count slot (tag :: data.drop position) pool).mapError .fault =
      match reporting (poolFault slot) (readFixed data tag slot position pool) with
      | .error failure => .error failure
      | .ok (position, pool) =>
        (Pool.read count (slot + slots tag) (data.drop position) pool).mapError .fault := by
  rw [Pool.read.eq_def, dif_pos hslot, readFixed]
  simp only [if_neg htext]
  cases hsize : payloadSize? tag with
  | none => rfl
  | some size =>
    dsimp only
    by_cases hclass : tag = 7
    · subst hclass
      obtain rfl : 2 = size := Option.some.inj hsize
      rw [if_pos rfl, if_pos rfl, word]
      cases hdrop : data.drop position with
      | nil => rfl
      | cons a rest =>
        cases rest with
        | nil => rfl
        | cons b bytes =>
          rw [← drop_two hdrop]
          rfl
    · rw [if_neg hclass, if_neg hclass, List.drop_drop]
      rfl

/-- A constant by position is a constant of the reader. -/
theorem read_eq_readConstant (hslot : slot < count) :
    (Pool.read count slot (data.drop position) pool).mapError .fault =
      match reporting (poolFault slot) (readConstant data slot position pool) with
      | .error failure => .error failure
      | .ok (tag, position, pool) =>
        (Pool.read count (slot + slots tag) (data.drop position) pool).mapError .fault := by
  rw [readConstant]
  cases hdrop : data.drop position with
  | nil =>
    have hnone : data[position]? = none := by
      rw [← List.head?_drop, hdrop, List.head?_nil]
    rw [Pool.read.eq_def, dif_pos hslot, byteAt, hnone]
    rfl
  | cons tag bytes =>
    rw [byteAt_of_drop hdrop, ← drop_succ hdrop]
    simp only [bind, Except.bind]
    by_cases htext : tag = 1
    · subst htext
      rw [read_eq_readText pool hslot]
      cases readText data slot (position + 1) pool <;> rfl
    · rw [read_eq_readFixed pool htext hslot, if_neg htext]
      cases readFixed data tag slot (position + 1) pool <;> rfl

theorem readPool_eq :
    (readPool data count slot position pool).map
        (fun (position, pool) => (pool, data.drop position)) =
      (Pool.read count slot (data.drop position) pool).mapError .fault := by
  fun_induction readPool data count slot position pool with
  | case1 slot position pool hslot failure hfailure =>
    rw [read_eq_readConstant pool hslot, hfailure]
    rfl
  | case2 slot position pool hslot tag next pool' hfound _ ih =>
    rw [read_eq_readConstant pool hslot, hfound]
    exact ih
  | case3 slot position pool hslot =>
    rw [Pool.read.eq_def, dif_neg hslot]
    rfl

end

theorem nameAt_eq (data : List UInt8) (position : Nat) (pool : Pool) :
    nameAt data position pool = (pool.nameBefore (data.drop position)).mapError .fault := by
  rw [nameAt, words]
  match data.drop position with
  | [] | [_] | [_, _] | [_, _, _] | _ :: _ :: _ :: _ :: _ => rfl

/-- Reading by position is reading the header: no access fails without being reported. -/
theorem className_eq (data : List UInt8) :
    className data = (ClassFile.className data).mapError .fault := by
  match data with
  | a :: b :: c :: d :: v₁ :: v₂ :: v₃ :: v₄ :: e :: f :: bytes =>
    let data := a :: b :: c :: d :: v₁ :: v₂ :: v₃ :: v₄ :: e :: f :: bytes
    have hdata : className data =
        if u32 a b c d ≠ 0xCAFEBABE then .error (.fault (.badMagic (u32 a b c d)))
        else readPool data (u16 e f) 1 10 {} >>= fun (position, pool) =>
          nameAt data position pool := rfl
    have hpool : (readPool data (u16 e f) 1 10 {}).map
        (fun (position, pool) => (pool, data.drop position)) =
          (Pool.read (u16 e f) 1 bytes {}).mapError .fault := readPool_eq {}
    rw [hdata, className_cons]
    by_cases hmagic : u32 a b c d ≠ 0xCAFEBABE
    · rw [if_pos hmagic, if_pos hmagic]
      rfl
    rw [if_neg hmagic, if_neg hmagic]
    revert hpool
    cases readPool data (u16 e f) 1 10 {} with
    | error failure =>
      cases Pool.read (u16 e f) 1 bytes {} with
      | error fault =>
        intro hpool
        cases hpool
        rfl
      | ok found => exact nofun
    | ok found =>
      obtain ⟨position, pool⟩ := found
      cases Pool.read (u16 e f) 1 bytes {} with
      | error fault => exact nofun
      | ok found' =>
        intro hpool
        cases hpool
        exact nameAt_eq data position pool
  | [] | [_] | [_, _] | [_, _, _] | [_, _, _, _] | [_, _, _, _, _] | [_, _, _, _, _, _]
  | [_, _, _, _, _, _, _] | [_, _, _, _, _, _, _, _] | [_, _, _, _, _, _, _, _, _] => rfl

end GroovyRounds.ClassFile.Cursor
