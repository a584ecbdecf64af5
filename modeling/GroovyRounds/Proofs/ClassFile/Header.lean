import GroovyRounds.Proofs.ClassFile.Layout
import GroovyRounds.Proofs.ClassFile.ModifiedUtf8

/-!
# Names behind class file headers

A header is written constant after constant, and a constant takes one slot or
two. It is an entry of a layout (`exists_entry`), so reading it leaves the
reader behind its bytes and at the slot after its own (`read_bytes`). A whole
pool is read as what its constants say in their slots (`read_flatMap_bytes`),
and the name of the class is found under the two slots that lead to it
(`className_header`).
-/

namespace GroovyRounds.ClassFile

-- ---------------------------------------------------------------------------
-- Written constants
-- ---------------------------------------------------------------------------

/-- A constant of a class file. It names others by their slots. -/
inductive Constant where
  | utf8 (text : List Char)
  | integer (value : UInt32)
  | float (bits : UInt32)
  | long (value : UInt64)
  | double (bits : UInt64)
  | classInfo (name : UInt16)
  | string (text : UInt16)
  | fieldRef (holder member : UInt16)
  | methodRef (holder member : UInt16)
  | interfaceMethodRef (holder member : UInt16)
  | nameAndType (name descriptor : UInt16)
  | methodHandle (kind : UInt8) (reference : UInt16)
  | methodType (descriptor : UInt16)
  | dynamic (bootstrap member : UInt16)
  | invokeDynamic (bootstrap member : UInt16)
  | moduleInfo (name : UInt16)
  | packageInfo (name : UInt16)
deriving DecidableEq, Repr

def word32 (n : Nat) : List UInt8 :=
  bigEndian (n / 65536) ++ bigEndian (n % 65536)

def word64 (n : UInt64) : List UInt8 :=
  word32 (n.toNat / 4294967296) ++ word32 (n.toNat % 4294967296)

namespace Constant

/-- The constant as it is written: its tag and its payload. -/
def bytes : Constant → List UInt8
  | utf8 text =>
    1 :: (bigEndian (ModifiedUtf8.encode text).length ++ ModifiedUtf8.encode text)
  | integer value => 3 :: word32 value.toNat
  | float bits => 4 :: word32 bits.toNat
  | long value => 5 :: word64 value
  | double bits => 6 :: word64 bits
  | classInfo name => 7 :: word16 name
  | string text => 8 :: word16 text
  | fieldRef holder member => 9 :: (word16 holder ++ word16 member)
  | methodRef holder member => 10 :: (word16 holder ++ word16 member)
  | interfaceMethodRef holder member => 11 :: (word16 holder ++ word16 member)
  | nameAndType name descriptor => 12 :: (word16 name ++ word16 descriptor)
  | methodHandle kind reference => 15 :: kind :: word16 reference
  | methodType descriptor => 16 :: word16 descriptor
  | dynamic bootstrap member => 17 :: (word16 bootstrap ++ word16 member)
  | invokeDynamic bootstrap member => 18 :: (word16 bootstrap ++ word16 member)
  | moduleInfo name => 19 :: word16 name
  | packageInfo name => 20 :: word16 name

/-- How many slots the constant takes. -/
def width : Constant → Nat
  | long _ | double _ => 2
  | _ => 1

/-- A text is so short that its length can be written. -/
def Fits : Constant → Prop
  | utf8 text => (ModifiedUtf8.encode text).length < 65536
  | _ => True

theorem width_pos (c : Constant) : 0 < c.width := by
  cases c <;> simp [width]

instance : (c : Constant) → Decidable c.Fits
  | utf8 text => inferInstanceAs (Decidable ((ModifiedUtf8.encode text).length < 65536))
  | integer _ | float _ | long _ | double _ | classInfo _ | string _ | fieldRef .. | methodRef ..
  | interfaceMethodRef .. | nameAndType .. | methodHandle .. | methodType _ | dynamic ..
  | invokeDynamic .. | moduleInfo _ | packageInfo _ => inferInstanceAs (Decidable True)

end Constant

/-- How many slots constants take. -/
def slotCount : List Constant → Nat
  | [] => 0
  | c :: cs => c.width + slotCount cs

/-- The constant stands in the slot; the first slot is 1. -/
def HasConstant (constants : List Constant) (slot : UInt16) (c : Constant) : Prop :=
  ∃ before after, constants = before ++ c :: after ∧ slot.toNat = 1 + slotCount before

-- ---------------------------------------------------------------------------
-- Read constants
-- ---------------------------------------------------------------------------

namespace Pool

/-- The pool with what a constant in a slot says. -/
def add (pool : Pool) (slot : Nat) : Constant → Pool
  | .utf8 text => { pool with texts := (slot, text) :: pool.texts }
  | .classInfo name => { pool with classes := (slot, name.toNat) :: pool.classes }
  | _ => pool

/-- The pool with what constants say from a slot on. -/
def addAll (pool : Pool) (slot : Nat) : List Constant → Pool
  | [] => pool
  | c :: cs => (pool.add slot c).addAll (slot + c.width) cs

/-- A constant is an entry that is written and entered like it. -/
theorem exists_entry (c : Constant) :
    ∃ e : Entry, e.bytes = c.bytes ∧ e.width = c.width ∧ (c.Fits → e.WellFormed) ∧
      ∀ (pool : Pool) slot, pool.enter? slot e = some (pool.add slot c) := by
  cases c with
  | utf8 text =>
    refine ⟨.text (ModifiedUtf8.encode text), rfl, rfl, fun hfits => hfits, fun pool slot => ?_⟩
    rw [enter?, ModifiedUtf8.decode_encode]
    rfl
  | classInfo name =>
    refine ⟨.fixed 7 (word16 name), rfl, rfl, fun _ => rfl, fun pool slot => ?_⟩
    have hname : (Entry.fixed 7 (word16 name)).nameSlot? = some name.toNat :=
      congrArg some (u16_bigEndian name.toNat_lt)
    simp only [enter?, hname, add]
  | _ => exact ⟨.fixed _ _, rfl, rfl, fun _ => rfl, fun _ _ => enter_fixed (by decide) _⟩

section
variable {count slot : Nat} (rest : List UInt8) (pool : Pool)

/-- A constant is read: the reader stands behind its bytes, at the slot after its own. -/
theorem read_bytes {c : Constant} (hslot : slot < count) (hfits : c.Fits) :
    read count slot (c.bytes ++ rest) pool =
      read count (slot + c.width) rest (pool.add slot c) := by
  obtain ⟨e, hbytes, hwidth, hformed, henter⟩ := exists_entry c
  rw [← hbytes, read_entry rest pool hslot (hformed hfits), henter pool slot, hwidth]

/-- All constants are read, up to the slot that was announced. -/
theorem read_flatMap_bytes {constants : List Constant} (hfits : ∀ c ∈ constants, c.Fits) :
    read (slot + slotCount constants) slot (constants.flatMap Constant.bytes ++ rest) pool =
      .ok (pool.addAll slot constants, rest) := by
  -- the slot grows by the widths, the bytes shrink by the constants
  induction constants generalizing slot pool with
  | nil =>
    rw [read.eq_def, dif_neg (by simp [slotCount])]
    rfl
  | cons c cs ih =>
    have hwidth := c.width_pos
    have hslot : slot < slot + slotCount (c :: cs) := by
      rw [slotCount]
      omega
    rw [List.flatMap_cons, List.append_assoc, read_bytes _ _ hslot (hfits c List.mem_cons_self),
      slotCount, ← Nat.add_assoc]
    exact ih _ fun d hd => hfits d (List.mem_cons_of_mem _ hd)

end

-- ---------------------------------------------------------------------------
-- Found constants
-- ---------------------------------------------------------------------------

theorem addAll_append (pool : Pool) (slot : Nat) (cs ds : List Constant) :
    pool.addAll slot (cs ++ ds) =
      (pool.addAll slot cs).addAll (slot + slotCount cs) ds := by
  induction cs generalizing pool slot with
  | nil => rfl
  | cons c cs ih => rw [List.cons_append, addAll, ih, addAll, slotCount, Nat.add_assoc]

/-- A constant says nothing about another slot. -/
theorem lookup_add_of_ne {slot other : Nat} (hne : other ≠ slot) (pool : Pool) (c : Constant) :
    (pool.add slot c).texts.lookup other = pool.texts.lookup other ∧
      (pool.add slot c).classes.lookup other = pool.classes.lookup other := by
  obtain ⟨e, -, -, -, henter⟩ := exists_entry c
  exact lookup_enter_of_ne hne (henter pool slot)

/-- Constants from a slot on say nothing about the slots before it. -/
theorem lookup_addAll_of_lt {slot other : Nat} (h : other < slot) (pool : Pool)
    (cs : List Constant) :
    (pool.addAll slot cs).texts.lookup other = pool.texts.lookup other ∧
      (pool.addAll slot cs).classes.lookup other = pool.classes.lookup other := by
  induction cs generalizing pool slot with
  | nil => exact ⟨rfl, rfl⟩
  | cons c cs ih =>
    obtain ⟨htexts, hclasses⟩ := ih (Nat.lt_of_lt_of_le h (Nat.le_add_right _ c.width))
      (pool.add slot c)
    obtain ⟨htexts', hclasses'⟩ := lookup_add_of_ne (Nat.ne_of_lt h) pool c
    exact ⟨htexts.trans htexts', hclasses.trans hclasses'⟩

/-- What the constant in a slot says stays, whatever comes after it. -/
theorem lookup_addAll {constants : List Constant} {slot : UInt16} {c : Constant}
    (h : HasConstant constants slot c) (pool : Pool) :
    ∃ before : Pool,
      (pool.addAll 1 constants).texts.lookup slot.toNat =
        (before.add slot.toNat c).texts.lookup slot.toNat ∧
      (pool.addAll 1 constants).classes.lookup slot.toNat =
        (before.add slot.toNat c).classes.lookup slot.toNat := by
  obtain ⟨front, back, rfl, hslot⟩ := h
  refine ⟨pool.addAll 1 front, ?_⟩
  rw [addAll_append, addAll, ← hslot]
  exact lookup_addAll_of_lt (Nat.lt_add_of_pos_right c.width_pos) _ back

end Pool

-- ---------------------------------------------------------------------------
-- Headers
-- ---------------------------------------------------------------------------

/-- The front of a class file. -/
structure Header where
  minor : UInt16
  major : UInt16
  constants : List Constant
  access : UInt16
  /-- The slot of the class itself. -/
  thisClass : UInt16
deriving DecidableEq, Repr

namespace Header

/-- The header as it is written. The count of slots includes the slot 0, which no constant has. -/
def bytes (header : Header) : List UInt8 :=
  [0xCA, 0xFE, 0xBA, 0xBE] ++ word16 header.minor ++ word16 header.major ++
    bigEndian (slotCount header.constants + 1) ++ header.constants.flatMap Constant.bytes ++
    word16 header.access ++ word16 header.thisClass

end Header

/-- Reading the name of a class undoes writing its header, whatever constants the pool holds and
whatever follows. -/
theorem className_header (header : Header) (rest : List UInt8) (nameSlot : UInt16)
    (name : List Char) (hslots : slotCount header.constants ≤ 65534)
    (hfits : ∀ c ∈ header.constants, c.Fits)
    (hclass : HasConstant header.constants header.thisClass (.classInfo nameSlot))
    (hname : HasConstant header.constants nameSlot (.utf8 name)) :
    className (header.bytes ++ rest) =
      .ok (String.ofList (name.map fun c => if c = '/' then '.' else c)) := by
  let tail := word16 header.access ++ word16 header.thisClass ++ rest
  let pool := ({} : Pool).addAll 1 header.constants
  have hcount : u16 (UInt8.ofNat ((slotCount header.constants + 1) / 256))
      (UInt8.ofNat (slotCount header.constants + 1)) = 1 + slotCount header.constants := by
    rw [u16_bigEndian (by omega), Nat.add_comm]
  have hread : Pool.read (1 + slotCount header.constants) 1
      (header.constants.flatMap Constant.bytes ++ tail) {} = .ok (pool, tail) :=
    Pool.read_flatMap_bytes tail {} hfits
  have hthis : u16 (UInt8.ofNat (header.thisClass.toNat / 256))
      (UInt8.ofNat header.thisClass.toNat) = header.thisClass.toNat :=
    u16_bigEndian header.thisClass.toNat_lt
  have hfound : pool.className header.thisClass.toNat = .ok (dotted name) := by
    obtain ⟨before, -, hclasses⟩ := Pool.lookup_addAll hclass {}
    obtain ⟨before', htexts, -⟩ := Pool.lookup_addAll hname {}
    simp only [Pool.add, List.lookup_cons_self] at hclasses htexts
    simp only [Pool.className, pool, hclasses, htexts]
  have hmagic : ¬ u32 0xCA 0xFE 0xBA 0xBE ≠ 0xCAFEBABE := by decide
  have hbytes : header.bytes ++ rest = [0xCA, 0xFE, 0xBA, 0xBE] ++ word16 header.minor ++
      word16 header.major ++ bigEndian (slotCount header.constants + 1) ++
      (header.constants.flatMap Constant.bytes ++ tail) := by
    simp only [Header.bytes, tail, List.append_assoc]
  rw [hbytes]
  simp only [word16, bigEndian, List.cons_append, List.nil_append, className, if_neg hmagic,
    hcount, hread]
  simp only [tail, word16, bigEndian, List.cons_append, List.nil_append, hthis, hfound]
  rfl

/-- A header whose class stands before its name, with a number of two slots between them. -/
def sampleHeader : Header where
  minor := 0
  major := 52
  constants := [.utf8 "Code".toList, .classInfo 5, .long 7, .utf8 "pkg/Gr\u00f6\u00dfe$\x00😀".toList,
    .double 0]
  access := 0x21
  thisClass := 2

theorem className_header_sample :
    slotCount sampleHeader.constants ≤ 65534 ∧ (∀ c ∈ sampleHeader.constants, c.Fits) ∧
      HasConstant sampleHeader.constants sampleHeader.thisClass (.classInfo 5) ∧
      HasConstant sampleHeader.constants 5 (.utf8 "pkg/Gr\u00f6\u00dfe$\x00😀".toList) ∧
      className (sampleHeader.bytes ++ [0, 0]) = .ok "pkg.Gr\u00f6\u00dfe$\x00😀" := by
  have hslots : slotCount sampleHeader.constants ≤ 65534 := by decide
  have hfits : ∀ c ∈ sampleHeader.constants, c.Fits := by decide
  have hclass : HasConstant sampleHeader.constants sampleHeader.thisClass (.classInfo 5) :=
    ⟨[.utf8 "Code".toList], _, rfl, rfl⟩
  have hname : HasConstant sampleHeader.constants 5 (.utf8 "pkg/Gr\u00f6\u00dfe$\x00😀".toList) :=
    ⟨[.utf8 "Code".toList, .classInfo 5, .long 7], _, rfl, rfl⟩
  exact ⟨hslots, hfits, hclass, hname,
    className_header sampleHeader [0, 0] 5 _ hslots hfits hclass hname⟩

end GroovyRounds.ClassFile
