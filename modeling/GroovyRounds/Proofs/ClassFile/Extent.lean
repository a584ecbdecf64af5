import GroovyRounds.Proofs.ClassFile.Cursor

/-!
# How far a header reaches

The name of a class depends on the header and on nothing behind it, and needs
all of it (`className_extent`). A header that is cut off anywhere, even within
a constant that is passed over without being read, is refused as too short
(`Layout.className_take`).
-/

namespace GroovyRounds.ClassFile

/-- The bytes have ended too early. -/
def Fault.IsCut : Fault → Prop
  | .shortHeader _ | .shortText _ | .shortPool _ | .shortBody _ => True
  | .badMagic _ | .badText | .unknownTag .. | .notClass _ | .notText _ => False

-- ---------------------------------------------------------------------------
-- Cut constants
-- ---------------------------------------------------------------------------

namespace Pool

/-- The reader came to the end of the bytes, within a constant or behind the last one. -/
def Exhausted : Except Fault (Pool × List UInt8) → Prop
  | .error fault => fault.IsCut
  | .ok (_, rest) => rest = []

variable {count slot : Nat}

theorem exhausted_nil (pool : Pool) : Exhausted (read count slot [] pool) := by
  rw [read.eq_def]
  split
  · trivial
  · rfl

theorem exhausted_text (hslot : slot < count) {raw : List UInt8} (hlength : raw.length < 65536)
    {n : Nat} (hn : n < (Entry.text raw).bytes.length) (pool : Pool) :
    Exhausted (read count slot ((Entry.text raw).bytes.take n) pool) := by
  rw [Entry.bytes, bigEndian] at hn ⊢
  rcases n with _ | _ | _ | n
  · exact exhausted_nil pool
  · rw [read.eq_def, dif_pos hslot]
    trivial
  · rw [read.eq_def, dif_pos hslot]
    trivial
  · have hshort : ((raw.take n).take raw.length).length ≠ raw.length := by
      simp only [List.length_cons, List.cons_append, List.nil_append] at hn
      simp only [List.length_take]
      omega
    simp only [List.cons_append, List.nil_append, List.take_succ_cons]
    rw [read.eq_def, dif_pos hslot]
    simp only [if_true, u16_bigEndian hlength, if_pos hshort]
    trivial

theorem exhausted_fixed (hslot : slot < count) {tag : UInt8} {payload : List UInt8}
    (hsize : payloadSize? tag = some payload.length) {n : Nat} (hn : n < payload.length + 1)
    (pool : Pool) : Exhausted (read count slot ((Entry.fixed tag payload).bytes.take n) pool) := by
  have htext : tag ≠ 1 := by
    rintro rfl
    cases hsize
  cases n with
  | zero => exact exhausted_nil pool
  | succ n =>
    have hn : n < payload.length := Nat.lt_of_succ_lt_succ hn
    rw [Entry.bytes, List.take_succ_cons, read.eq_def, dif_pos hslot]
    simp only [if_neg htext, hsize]
    split
    · rename_i hclass
      subst hclass
      have htwo : payload.length = 2 := (Option.some.inj hsize).symm
      split
      · rename_i heq
        have hlength := congrArg List.length heq
        simp only [List.length_take, List.length_cons] at hlength
        omega
      · trivial
    · rw [List.drop_eq_nil_of_le (by rw [List.length_take]; omega)]
      exact exhausted_nil pool

/-- An entry that is cut off is the end of the bytes. -/
theorem exhausted_entry (hslot : slot < count) {e : Entry} (h : e.WellFormed) {n : Nat}
    (hn : n < e.bytes.length) (pool : Pool) :
    Exhausted (read count slot (e.bytes.take n) pool) := by
  cases e with
  | text raw => exact exhausted_text hslot h hn pool
  | fixed tag payload => exact exhausted_fixed hslot h hn pool

/-- Entries that are cut off anywhere are the end of the bytes. -/
theorem exhausted_entries {es : List Entry} (hfills : Fills count slot es)
    (h : ∀ e ∈ es, e.WellFormed) {pool pool' : Pool} (henter : pool.enterAll? slot es = some pool')
    {n : Nat} (hn : n < (es.flatMap Entry.bytes).length) :
    Exhausted (read count slot ((es.flatMap Entry.bytes).take n) pool) := by
  -- the cut is within the first entry, or it is one of the entries behind it
  induction es generalizing slot pool n with
  | nil => cases hn
  | cons e es ih =>
    obtain ⟨hslot, hfills⟩ := hfills
    obtain ⟨he, hes⟩ := List.forall_mem_cons.mp h
    obtain ⟨pool₁, hfirst, hrest⟩ := Option.bind_eq_some_iff.mp henter
    rw [List.flatMap_cons] at hn ⊢
    rw [List.length_append] at hn
    by_cases hcut : n < e.bytes.length
    · rw [List.take_append_of_le_length (Nat.le_of_lt hcut)]
      exact exhausted_entry hslot he hcut pool
    · rw [List.take_append, List.take_of_length_le (Nat.not_lt.mp hcut),
        read_entry _ pool hslot he, hfirst]
      exact ih hfills hes hrest (by omega)

end Pool

-- ---------------------------------------------------------------------------
-- Cut headers
-- ---------------------------------------------------------------------------

theorem className_of_length_lt {bytes : List UInt8} (h : bytes.length < 10) :
    className bytes = .error (.shortHeader bytes.length) := by
  unfold className
  split
  · simp only [List.length_cons] at h
    omega
  · rfl

theorem Pool.nameBefore_of_length_lt (pool : Pool) {rest : List UInt8} (h : rest.length < 4) :
    pool.nameBefore rest = .error (.shortBody rest.length) := by
  unfold Pool.nameBefore
  split
  · simp only [List.length_cons] at h
    omega
  · rfl

namespace Layout

variable {layout : Layout}

theorem length_front (layout : Layout) : layout.front.length = 10 := rfl

theorem length_back (layout : Layout) : layout.back.length = 4 := rfl

/-- A header that is cut off anywhere is too short. -/
theorem className_take (h : layout.WellFormed) {pool : Pool} (hpool : layout.pool? = some pool)
    {n : Nat} (hn : n < layout.bytes.length) :
    ∃ fault, className (layout.bytes.take n) = .error fault ∧ fault.IsCut := by
  have hfront := layout.length_front
  have hback := layout.length_back
  rw [bytes, List.append_assoc, List.length_append, List.length_append] at hn
  rw [bytes, List.append_assoc]
  by_cases hshort : n < 10
  · refine ⟨_, className_of_length_lt ?_, trivial⟩
    rw [List.length_take]
    omega
  rw [List.take_append, List.take_of_length_le (by omega), className_front]
  by_cases hcut : n - 10 < (layout.entries.flatMap Entry.bytes).length
  · have hexhausted := Pool.exhausted_entries h.1 h.2 hpool hcut
    rw [hfront, List.take_append_of_le_length (Nat.le_of_lt hcut)]
    revert hexhausted
    cases Pool.read _ _ _ _ with
    | error fault => exact fun hexhausted => ⟨fault, rfl, hexhausted⟩
    | ok found =>
      obtain ⟨pool, rest⟩ := found
      rintro rfl
      exact ⟨_, rfl, trivial⟩
  · have hread := Pool.read_entries (layout.back.take (n - 10 -
      (layout.entries.flatMap Entry.bytes).length)) {} h.1 h.2
    rw [show ({} : Pool).enterAll? 1 layout.entries = some pool from hpool] at hread
    rw [hfront, List.take_append, List.take_of_length_le (Nat.not_lt.mp hcut), hread]
    refine ⟨_, pool.nameBefore_of_length_lt ?_, trivial⟩
    rw [List.length_take]
    omega

end Layout

-- ---------------------------------------------------------------------------
-- Bytes
-- ---------------------------------------------------------------------------

/-- Bytes have a name or are refused with a fault, and no access to them fails in any other way.
The name comes from so many bytes at the front: whatever follows them, the name is the same, and
fewer of them are refused as too short. -/
theorem className_extent (data : List UInt8) :
    ((∃ name, Cursor.className data = .ok name ∧ className data = .ok name) ∨
      ∃ fault, Cursor.className data = .error (.fault fault) ∧ className data = .error fault) ∧
    ∀ name, className data = .ok name →
      ∃ size ≤ data.length,
        (∀ other, data.take size <+: other → className other = .ok name) ∧
        ∀ n < size, ∃ fault, className (data.take n) = .error fault ∧ fault.IsCut := by
  refine ⟨?_, fun name hname => ?_⟩
  · have hcursor := Cursor.className_eq data
    cases hclass : className data with
    | ok name => exact .inl ⟨name, by rw [hcursor, hclass]; rfl, rfl⟩
    | error fault => exact .inr ⟨fault, by rw [hcursor, hclass]; rfl, rfl⟩
  obtain ⟨layout, pool, hformed, hpool, rest, rfl⟩ := exists_layout hname
  have hread := Layout.className_bytes hformed
  refine ⟨layout.bytes.length, by rw [List.length_append]; omega, ?_, fun n hn => ?_⟩
  · rw [List.take_left]
    rintro other ⟨more, rfl⟩
    rw [hread, ← hread rest, hname]
  · rw [List.take_append_of_le_length (Nat.le_of_lt hn)]
    exact Layout.className_take hformed hpool hn

/-- A header that ends in a number of two slots, which is passed over. -/
def numberedLayout : Layout where
  minor := 0
  major := 52
  count := 5
  entries := [.text [112, 47, 65], .fixed 7 [0, 1], .fixed 5 [0, 0, 0, 0, 0, 0, 0, 7]]
  access := 0x21
  thisClass := 2

theorem className_extent_numbered :
    className (numberedLayout.bytes ++ [0, 0]) = .ok "p.A" ∧
      ∃ size ≤ (numberedLayout.bytes ++ [0, 0]).length,
        (∀ other, (numberedLayout.bytes ++ [0, 0]).take size <+: other →
          className other = .ok "p.A") ∧
        ∀ n < size, ∃ fault,
          className ((numberedLayout.bytes ++ [0, 0]).take n) = .error fault ∧ fault.IsCut := by
  have hformed : numberedLayout.WellFormed := by decide
  have hname : className (numberedLayout.bytes ++ [0, 0]) = .ok "p.A" := by
    rw [Layout.className_bytes hformed]
    rfl
  exact ⟨hname, (className_extent _).2 _ hname⟩

end GroovyRounds.ClassFile
