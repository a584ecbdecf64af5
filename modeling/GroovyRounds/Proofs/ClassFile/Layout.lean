import GroovyRounds.ClassFile.Header
import GroovyRounds.ClassFile.Least
import Mathlib.Data.List.Basic

/-!
# Class files as they are laid out

A header as its bytes lie there: a text is a length and so many bytes, any other
constant a tag and a payload of the tag's size. Texts are raw, they need not
encode anything. The reader enters one entry after another (`read_entries`), so
a laid out header is read as its entries say (`Layout.className_bytes`), and
whatever is read to a name is such a header and more (`exists_layout`).
-/

namespace GroovyRounds.ClassFile

-- ---------------------------------------------------------------------------
-- Numbers
-- ---------------------------------------------------------------------------

def word16 (n : UInt16) : List UInt8 :=
  bigEndian n.toNat

theorem u16_bigEndian {n : Nat} (h : n < 65536) :
    u16 (UInt8.ofNat (n / 256)) (UInt8.ofNat n) = n := by
  rw [u16, UInt8.toNat_ofNat', UInt8.toNat_ofNat']
  omega

theorem u16_lt (a b : UInt8) : u16 a b < 65536 := by
  have ha := a.toNat_lt
  have hb := b.toNat_lt
  rw [u16]
  omega

theorem u32_inj {a b c d a' b' c' d' : UInt8} (h : u32 a b c d = u32 a' b' c' d') :
    a = a' ∧ b = b' ∧ c = c' ∧ d = d' := by
  have hab := u16_lt a b
  have hcd := u16_lt c d
  have hab' := u16_lt a' b'
  have hcd' := u16_lt c' d'
  have hb := b.toNat_lt
  have hd := d.toNat_lt
  have hb' := b'.toNat_lt
  have hd' := d'.toNat_lt
  simp only [u32, u16] at h hab hcd hab' hcd'
  simp only [← UInt8.toNat_inj]
  omega

theorem bigEndian_u16 (a b : UInt8) : bigEndian (u16 a b) = [a, b] := by
  have hb := b.toNat_lt
  have hhigh : u16 a b / 256 = a.toNat := by
    rw [u16]
    omega
  have hlow : UInt8.ofNat (u16 a b) = b := by
    apply UInt8.toNat_inj.mp
    rw [UInt8.toNat_ofNat', u16]
    omega
  rw [bigEndian, hhigh, hlow, UInt8.ofNat_toNat]

theorem toNat_ofNat_u16 (a b : UInt8) : (UInt16.ofNat (u16 a b)).toNat = u16 a b := by
  rw [UInt16.toNat_ofNat', Nat.mod_eq_of_lt (u16_lt a b)]

theorem word16_ofNat_u16 (a b : UInt8) : word16 (UInt16.ofNat (u16 a b)) = [a, b] := by
  rw [word16, toNat_ofNat_u16, bigEndian_u16]

-- ---------------------------------------------------------------------------
-- Entries
-- ---------------------------------------------------------------------------

/-- A constant as its bytes. -/
inductive Entry where
  | text (raw : List UInt8)
  | fixed (tag : UInt8) (payload : List UInt8)
deriving DecidableEq, Repr

namespace Entry

def bytes : Entry → List UInt8
  | text raw => 1 :: (bigEndian raw.length ++ raw)
  | fixed tag payload => tag :: payload

/-- How many slots the entry takes. -/
def width : Entry → Nat
  | text _ => 1
  | fixed tag _ => slots tag

/-- The length of a text can be written, a payload is as long as its tag asks for. -/
def WellFormed : Entry → Prop
  | text raw => raw.length < 65536
  | fixed tag payload => payloadSize? tag = some payload.length

instance : (e : Entry) → Decidable e.WellFormed
  | text raw => inferInstanceAs (Decidable (raw.length < 65536))
  | fixed tag payload => inferInstanceAs (Decidable (payloadSize? tag = some payload.length))

/-- The slot of the name, for a class. -/
def nameSlot? : Entry → Option Nat
  | fixed tag [a, b] => if tag = 7 then some (u16 a b) else none
  | _ => none

end Entry

/-- The entries take the slots from `slot` on until `count` is reached. The last one may reach one
slot further. -/
def Fills (count : Nat) : Nat → List Entry → Prop
  | slot, [] => count ≤ slot
  | slot, e :: es => slot < count ∧ Fills count (slot + e.width) es

instance (count : Nat) : (slot : Nat) → (es : List Entry) → Decidable (Fills count slot es)
  | slot, [] => inferInstanceAs (Decidable (count ≤ slot))
  | slot, e :: es =>
    have := instDecidableFills count (slot + e.width) es
    inferInstanceAs (Decidable (slot < count ∧ Fills count (slot + e.width) es))

-- ---------------------------------------------------------------------------
-- Entered entries
-- ---------------------------------------------------------------------------

namespace Pool

/-- The pool with what an entry in a slot says, or `none` for a text that says nothing. -/
def enter? (pool : Pool) (slot : Nat) : Entry → Option Pool
  | .text raw =>
    (ModifiedUtf8.decode raw).map fun text => { pool with texts := (slot, text) :: pool.texts }
  | .fixed tag payload =>
    match (Entry.fixed tag payload).nameSlot? with
    | some name => some { pool with classes := (slot, name) :: pool.classes }
    | none => some pool

/-- The pool with what entries from a slot on say. -/
def enterAll? (pool : Pool) (slot : Nat) : List Entry → Option Pool
  | [] => some pool
  | e :: es => (pool.enter? slot e).bind fun pool => pool.enterAll? (slot + e.width) es

/-- Only classes and texts are kept. -/
theorem enter_fixed {tag : UInt8} (hclass : tag ≠ 7) {pool : Pool} {slot : Nat}
    (payload : List UInt8) : pool.enter? slot (.fixed tag payload) = some pool := by
  have hname : (Entry.fixed tag payload).nameSlot? = none := by
    unfold Entry.nameSlot?
    split
    · rename_i heq
      cases heq
      exact if_neg hclass
    · rfl
  simp only [enter?, hname]

section
variable {count slot : Nat} (rest : List UInt8) (pool : Pool)

/-- An entry is read: the reader stands behind its bytes, at the slot after its own. -/
theorem read_entry {e : Entry} (hslot : slot < count) (h : e.WellFormed) :
    read count slot (e.bytes ++ rest) pool =
      match pool.enter? slot e with
      | none => .error .badText
      | some pool => read count (slot + e.width) rest pool := by
  cases e with
  | text raw =>
    rw [Entry.bytes, bigEndian, List.cons_append, List.append_assoc, List.cons_append,
      List.cons_append, List.nil_append, read.eq_def, dif_pos hslot]
    simp only [if_true, u16_bigEndian h, List.take_left, ne_eq, not_true, if_false,
      List.drop_left, enter?]
    cases ModifiedUtf8.decode raw <;> rfl
  | fixed tag payload =>
    have htext : tag ≠ 1 := by
      rintro rfl
      cases h
    by_cases hclass : tag = 7
    · subst hclass
      obtain ⟨a, b, rfl⟩ : ∃ a b, payload = [a, b] :=
        List.length_eq_two.mp (Option.some.inj h).symm
      rw [Entry.bytes, List.cons_append, List.cons_append, List.cons_append, List.nil_append,
        read.eq_def, dif_pos hslot]
      simp only [if_neg htext, show payloadSize? 7 = some 2 by decide, if_true]
      rfl
    · rw [enter_fixed hclass, Entry.bytes, List.cons_append, read.eq_def, dif_pos hslot]
      simp only [if_neg htext, show payloadSize? tag = some payload.length from h, if_neg hclass,
        List.drop_left]
      rfl

/-- Entries are read as what they say, up to the slot that was announced. -/
theorem read_entries {es : List Entry} (hfills : Fills count slot es)
    (h : ∀ e ∈ es, e.WellFormed) :
    read count slot (es.flatMap Entry.bytes ++ rest) pool =
      match pool.enterAll? slot es with
      | none => .error .badText
      | some pool => .ok (pool, rest) := by
  induction es generalizing slot pool with
  | nil => rw [read.eq_def, dif_neg (Nat.not_lt.mpr hfills)]; rfl
  | cons e es ih =>
    obtain ⟨hslot, hfills⟩ := hfills
    obtain ⟨he, hes⟩ := List.forall_mem_cons.mp h
    rw [List.flatMap_cons, List.append_assoc, read_entry _ _ hslot he, enterAll?]
    cases pool.enter? slot e with
    | none => rfl
    | some pool => exact ih pool hfills hes

theorem read_nil_of_ok {pool' : Pool} (h : read count slot [] pool = .ok (pool', rest)) :
    rest = [] := by
  rw [read.eq_def] at h
  split at h
  · cases h
  · cases h
    rfl

end

/-- What is read, with bytes left, are entries. -/
theorem exists_entries {count slot : Nat} {bytes rest : List UInt8} {pool pool' : Pool}
    (h : read count slot bytes pool = .ok (pool', rest)) (hrest : rest ≠ []) :
    ∃ es, Fills count slot es ∧ (∀ e ∈ es, e.WellFormed) ∧
      bytes = es.flatMap Entry.bytes ++ rest ∧ pool.enterAll? slot es = some pool' := by
  fun_induction read count slot bytes pool with
  | case1 | case2 | case3 | case5 | case6 | case8 => cases h
  | case4 slot pool hslot a b bytes length raw hlength text htext ih =>
    obtain ⟨es, hfills, hes, hbytes, henter⟩ := ih h
    have hraw : raw.length = u16 a b := not_not.mp hlength
    refine ⟨.text raw :: es, ⟨hslot, hfills⟩,
      List.forall_mem_cons.mpr ⟨?_, hes⟩, ?_, ?_⟩
    · rw [Entry.WellFormed, hraw]
      exact u16_lt a b
    · rw [List.flatMap_cons, List.append_assoc, ← hbytes, Entry.bytes, hraw, bigEndian_u16]
      simp only [List.cons_append, List.nil_append, raw, length, List.take_append_drop]
    · rw [enterAll?, enter?, htext]
      exact henter
  | case7 slot pool hslot size a b bytes htext hsize ih =>
    obtain ⟨es, hfills, hes, hbytes, henter⟩ := ih h
    refine ⟨.fixed 7 [a, b] :: es, ⟨hslot, hfills⟩,
      List.forall_mem_cons.mpr ⟨rfl, hes⟩, ?_, henter⟩
    rw [hbytes]
    rfl
  | case9 slot pool hslot tag bytes htext size hsize hclass _ ih =>
    have hlength : size ≤ bytes.length := by
      by_contra hshort
      rw [List.drop_eq_nil_of_le (by omega)] at h
      exact hrest (read_nil_of_ok _ _ h)
    obtain ⟨es, hfills, hes, hbytes, henter⟩ := ih h
    refine ⟨.fixed tag (bytes.take size) :: es, ⟨hslot, hfills⟩,
      List.forall_mem_cons.mpr ⟨?_, hes⟩, ?_, ?_⟩
    · rw [Entry.WellFormed, hsize, List.length_take_of_le hlength]
    · rw [List.flatMap_cons, List.append_assoc, ← hbytes, Entry.bytes, List.cons_append,
        List.take_append_drop]
    · rw [enterAll?, enter_fixed hclass]
      exact henter
  | case10 slot bytes pool hslot =>
    cases h
    exact ⟨[], Nat.not_lt.mp hslot, nofun, rfl, rfl⟩

end Pool

-- ---------------------------------------------------------------------------
-- Entries in slots
-- ---------------------------------------------------------------------------

/-- How many slots entries take. -/
def entrySlots : List Entry → Nat
  | [] => 0
  | e :: es => e.width + entrySlots es

/-- The entry stands in the slot; the first slot is 1. -/
def HasEntry (es : List Entry) (slot : Nat) (e : Entry) : Prop :=
  ∃ before after, es = before ++ e :: after ∧ slot = 1 + entrySlots before

theorem Entry.width_pos (e : Entry) : 0 < e.width := by
  cases e with
  | text raw => exact Nat.one_pos
  | fixed tag payload => exact slots_pos tag

namespace Pool

variable {pool pool' : Pool} {slot other : Nat}

theorem enterAll_append (es fs : List Entry) :
    pool.enterAll? slot (es ++ fs) =
      (pool.enterAll? slot es).bind fun pool => pool.enterAll? (slot + entrySlots es) fs := by
  induction es generalizing pool slot with
  | nil => rfl
  | cons e es ih =>
    rw [List.cons_append, enterAll?, enterAll?, Option.bind_assoc]
    simp only [ih, entrySlots, Nat.add_assoc]

/-- An entry says nothing about another slot. -/
theorem lookup_enter_of_ne (hne : other ≠ slot) {e : Entry} (h : pool.enter? slot e = some pool') :
    pool'.texts.lookup other = pool.texts.lookup other ∧
      pool'.classes.lookup other = pool.classes.lookup other := by
  have hbeq : (other == slot) = false := beq_false_of_ne hne
  cases e with
  | text raw =>
    obtain ⟨text, -, rfl⟩ := Option.map_eq_some_iff.mp h
    exact ⟨by rw [List.lookup_cons, hbeq], rfl⟩
  | fixed tag payload =>
    rw [enter?] at h
    split at h <;> cases h
    · exact ⟨rfl, by rw [List.lookup_cons, hbeq]⟩
    · exact ⟨rfl, rfl⟩

/-- Entries from a slot on say nothing about the slots before it. -/
theorem lookup_enterAll_of_lt {es : List Entry} (hlt : other < slot)
    (h : pool.enterAll? slot es = some pool') :
    pool'.texts.lookup other = pool.texts.lookup other ∧
      pool'.classes.lookup other = pool.classes.lookup other := by
  induction es generalizing pool slot with
  | nil =>
    cases h
    exact ⟨rfl, rfl⟩
  | cons e es ih =>
    obtain ⟨next, hfirst, hrest⟩ := Option.bind_eq_some_iff.mp h
    obtain ⟨htexts, hclasses⟩ := ih (Nat.lt_of_lt_of_le hlt (Nat.le_add_right _ e.width)) hrest
    obtain ⟨htexts', hclasses'⟩ := lookup_enter_of_ne (Nat.ne_of_lt hlt) hfirst
    exact ⟨htexts.trans htexts', hclasses.trans hclasses'⟩

/-- What the entry in a slot says stays, whatever comes after it. -/
theorem lookup_enterAll {es : List Entry} {e : Entry} (hentry : HasEntry es slot e)
    (h : pool.enterAll? 1 es = some pool') :
    ∃ before entered, enter? before slot e = some entered ∧
      pool'.texts.lookup slot = entered.texts.lookup slot ∧
      pool'.classes.lookup slot = entered.classes.lookup slot := by
  obtain ⟨front, back, rfl, rfl⟩ := hentry
  rw [enterAll_append] at h
  obtain ⟨before, -, h⟩ := Option.bind_eq_some_iff.mp h
  obtain ⟨entered, hentered, hback⟩ := Option.bind_eq_some_iff.mp h
  exact ⟨before, entered, hentered,
    lookup_enterAll_of_lt (Nat.lt_add_of_pos_right e.width_pos) hback⟩

end Pool

-- ---------------------------------------------------------------------------
-- Headers
-- ---------------------------------------------------------------------------

/-- The name that a pool gives to the class in the bytes behind it. -/
def Pool.nameBefore (pool : Pool) : List UInt8 → Except Fault String
  | _ :: _ :: a :: b :: _ => (pool.className (u16 a b)).map String.ofList
  | rest => .error (.shortBody rest.length)

theorem className_cons (a b c d v₁ v₂ v₃ v₄ e f : UInt8) (bytes : List UInt8) :
    className (a :: b :: c :: d :: v₁ :: v₂ :: v₃ :: v₄ :: e :: f :: bytes) =
      if u32 a b c d ≠ 0xCAFEBABE then .error (.badMagic (u32 a b c d))
      else match Pool.read (u16 e f) 1 bytes {} with
        | .error fault => .error fault
        | .ok (pool, rest) => pool.nameBefore rest := by
  rw [className]
  cases Pool.read (u16 e f) 1 bytes {} with
  | error fault => rfl
  | ok found =>
    obtain ⟨pool, rest⟩ := found
    match rest with
    | [] | [_] | [_, _] | [_, _, _] | _ :: _ :: _ :: _ :: _ => rfl

/-- A header as its bytes. The count of slots includes the slot 0. -/
structure Layout where
  minor : UInt16
  major : UInt16
  count : UInt16
  entries : List Entry
  access : UInt16
  thisClass : UInt16
deriving DecidableEq, Repr

namespace Layout

/-- What stands before the entries. -/
def front (layout : Layout) : List UInt8 :=
  [0xCA, 0xFE, 0xBA, 0xBE] ++ word16 layout.minor ++ word16 layout.major ++ word16 layout.count

/-- What stands behind the entries. -/
def back (layout : Layout) : List UInt8 :=
  word16 layout.access ++ word16 layout.thisClass

def bytes (layout : Layout) : List UInt8 :=
  layout.front ++ layout.entries.flatMap Entry.bytes ++ layout.back

/-- The entries fill the slots that are announced, from slot 1 on. -/
def WellFormed (layout : Layout) : Prop :=
  Fills layout.count.toNat 1 layout.entries ∧ ∀ e ∈ layout.entries, e.WellFormed

instance (layout : Layout) : Decidable layout.WellFormed :=
  inferInstanceAs (Decidable (_ ∧ _))

/-- What the entries say, if all of them say something. -/
def pool? (layout : Layout) : Option Pool :=
  ({} : Pool).enterAll? 1 layout.entries

variable (layout : Layout)

theorem className_front (bytes : List UInt8) :
    className (layout.front ++ bytes) =
      match Pool.read layout.count.toNat 1 bytes {} with
      | .error fault => .error fault
      | .ok (pool, rest) => pool.nameBefore rest := by
  have hmagic : ¬ u32 0xCA 0xFE 0xBA 0xBE ≠ 0xCAFEBABE := by decide
  have hcount : u16 (UInt8.ofNat (layout.count.toNat / 256)) (UInt8.ofNat layout.count.toNat) =
      layout.count.toNat := u16_bigEndian layout.count.toNat_lt
  simp only [front, word16, bigEndian, List.cons_append, List.nil_append, className_cons,
    if_neg hmagic, hcount]

/-- A laid out header is read as its entries say, whatever follows. -/
theorem className_bytes {layout : Layout} (h : layout.WellFormed) (rest : List UInt8) :
    className (layout.bytes ++ rest) =
      match layout.pool? with
      | none => .error .badText
      | some pool => (pool.className layout.thisClass.toNat).map String.ofList := by
  have hthis : u16 (UInt8.ofNat (layout.thisClass.toNat / 256))
      (UInt8.ofNat layout.thisClass.toNat) = layout.thisClass.toNat :=
    u16_bigEndian layout.thisClass.toNat_lt
  rw [bytes, List.append_assoc, List.append_assoc, className_front,
    Pool.read_entries (layout.back ++ rest) {} h.1 h.2, pool?]
  cases ({} : Pool).enterAll? 1 layout.entries with
  | none => rfl
  | some pool =>
    simp only [back, word16, bigEndian, List.cons_append, List.nil_append, Pool.nameBefore, hthis]

end Layout

/-- What is read to a name begins with a laid out header. -/
theorem exists_layout {bytes : List UInt8} {name : String} (h : className bytes = .ok name) :
    ∃ (layout : Layout) (pool : Pool), layout.WellFormed ∧ layout.pool? = some pool ∧
      layout.bytes <+: bytes := by
  match bytes with
  | m₁ :: m₂ :: m₃ :: m₄ :: v₁ :: v₂ :: v₃ :: v₄ :: e :: f :: bytes =>
    rw [className_cons] at h
    split at h
    · cases h
    rename_i hmagic
    have hmagic : u32 m₁ m₂ m₃ m₄ = u32 0xCA 0xFE 0xBA 0xBE := not_not.mp hmagic
    split at h
    · cases h
    rename_i pool left hread
    match left with
    | f₁ :: f₂ :: a :: b :: rest =>
      obtain ⟨es, hfills, hes, rfl, henter⟩ := Pool.exists_entries hread (List.cons_ne_nil _ _)
      let layout : Layout :=
        { minor := UInt16.ofNat (u16 v₁ v₂), major := UInt16.ofNat (u16 v₃ v₄),
          count := UInt16.ofNat (u16 e f), entries := es,
          access := UInt16.ofNat (u16 f₁ f₂), thisClass := UInt16.ofNat (u16 a b) }
      refine ⟨layout, pool, ⟨?_, hes⟩, henter, rest, ?_⟩
      · rwa [toNat_ofNat_u16]
      · obtain ⟨rfl, rfl, rfl, rfl⟩ := u32_inj hmagic
        simp only [layout, Layout.bytes, Layout.front, Layout.back, word16_ofNat_u16,
          List.append_assoc, List.cons_append, List.nil_append]
    | [] | [_] | [_, _] | [_, _, _] => cases h
  | [] | [_] | [_, _] | [_, _, _] | [_, _, _, _] | [_, _, _, _, _] | [_, _, _, _, _, _]
  | [_, _, _, _, _, _, _] | [_, _, _, _, _, _, _, _] | [_, _, _, _, _, _, _, _, _] => cases h

end GroovyRounds.ClassFile
