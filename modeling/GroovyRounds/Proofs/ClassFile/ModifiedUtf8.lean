import GroovyRounds.ClassFile.ModifiedUtf8
import GroovyRounds.Proofs.Text.Utf8

/-!
# Texts in class files

A text in a class file is a sequence of 16 bit units, each of which is encoded
on its own. Decoding undoes this: the zero bytes are restored, the bytes are
read as units, and the units are joined to characters (`decode_encodeUnits`).
Units can be joined only if they are those of some characters
(`joinPairs_eq_some_iff`). So a text comes back from its encoding
(`decode_encode`), and units that are no text come to nothing.
-/

namespace GroovyRounds.ClassFile.ModifiedUtf8

open Text

variable {n : Nat} {c : Char}

/-- The 16 bit units of a character: a supplementary one has two. -/
def units (c : Char) : List Nat :=
  if c.toNat < 0x10000 then [c.toNat]
  else [0xD800 + (c.toNat - 0x10000) / 1024, 0xDC00 + (c.toNat - 0x10000) % 1024]

/-- The encoding of a 16 bit unit, a surrogate or not. -/
def encodeUnit (n : Nat) : List UInt8 :=
  if n = 0 then [0xC0, 0x80]
  else if n < 0x80 then [UInt8.ofNat n]
  else if n < 0x800 then twoBytes n
  else threeBytes n

theorem toNat_cases (c : Char) : c.toNat < 0xD800 ∨ 0xDFFF < c.toNat ∧ c.toNat < 0x110000 :=
  c.valid

theorem toNat_ofNat_of_isValidChar (h : n.isValidChar) : (Char.ofNat n).toNat = n := by
  rw [Char.ofNat, dif_pos h]
  rfl

theorem units_lt (c : Char) : ∀ n ∈ units c, n < 0x10000 := by
  have hvalid := toNat_cases c
  unfold units
  split
  · rw [List.forall_mem_singleton]
    assumption
  · simp only [List.forall_mem_cons]
    exact ⟨by omega, by omega, nofun⟩

theorem encodeChar_eq (c : Char) : encodeChar c = (units c).flatMap encodeUnit := by
  have hvalid := toNat_cases c
  unfold encodeChar units
  dsimp only
  by_cases hone : c.toNat < 0x10000
  · rw [if_pos hone, if_pos hone, List.flatMap_singleton, encodeUnit]
  · have hhigh : encodeUnit (0xD800 + (c.toNat - 0x10000) / 1024) =
        threeBytes (0xD800 + (c.toNat - 0x10000) / 1024) := by
      rw [encodeUnit, if_neg (by omega), if_neg (by omega), if_neg (by omega)]
    have hlow : encodeUnit (0xDC00 + (c.toNat - 0x10000) % 1024) =
        threeBytes (0xDC00 + (c.toNat - 0x10000) % 1024) := by
      rw [encodeUnit, if_neg (by omega), if_neg (by omega), if_neg (by omega)]
    rw [if_neg hone, if_neg (by omega), if_neg (by omega), if_neg (by omega), if_neg hone,
      List.flatMap_cons, List.flatMap_singleton, hhigh, hlow]

-- ---------------------------------------------------------------------------
-- Zero bytes
-- ---------------------------------------------------------------------------

/-- The encoding of a unit once the zero bytes are restored. -/
def restored (n : Nat) : List UInt8 :=
  if n = 0 then [0] else encodeUnit n

theorem restoreZeros_cons {b : UInt8} (h : b ≠ 0xC0) (bs : List UInt8) :
    restoreZeros (b :: bs) = b :: restoreZeros bs := by
  rw [restoreZeros]
  intro bs' heq
  exact fun _ => h heq

theorem restoreZeros_append {as : List UInt8} (h : ∀ b ∈ as, b ≠ 0xC0) (bs : List UInt8) :
    restoreZeros (as ++ bs) = as ++ restoreZeros bs := by
  induction as with
  | nil => rfl
  | cons a as ih =>
    rw [List.cons_append, restoreZeros_cons (h a List.mem_cons_self),
      ih fun b hb => h b (List.mem_cons_of_mem _ hb), List.cons_append]

theorem ofNat_ne (h : n < 256) (hne : n ≠ 0xC0) : UInt8.ofNat n ≠ 0xC0 := by
  intro heq
  have hnat := congrArg UInt8.toNat heq
  rw [Utf8.toNat_ofNat h] at hnat
  exact hne hnat

theorem ne_of_mem_twoBytes (hlow : 0x80 ≤ n) (hhigh : n < 0x800) :
    ∀ b ∈ twoBytes n, b ≠ 0xC0 := by
  simp only [twoBytes, List.forall_mem_cons]
  exact ⟨ofNat_ne (by omega) (by omega), ofNat_ne (by omega) (by omega), nofun⟩

theorem ne_of_mem_threeBytes (h : n < 0x10000) : ∀ b ∈ threeBytes n, b ≠ 0xC0 := by
  simp only [threeBytes, List.forall_mem_cons]
  exact ⟨ofNat_ne (by omega) (by omega), ofNat_ne (by omega) (by omega),
    ofNat_ne (by omega) (by omega), nofun⟩

/-- Only the zero unit is encoded with the byte that zeros begin with. -/
theorem ne_of_mem_encodeUnit (h : n < 0x10000) (hne : n ≠ 0) : ∀ b ∈ encodeUnit n, b ≠ 0xC0 := by
  unfold encodeUnit
  rw [if_neg hne]
  split
  · rw [List.forall_mem_singleton]
    exact ofNat_ne (by omega) (by omega)
  split
  · exact ne_of_mem_twoBytes (by omega) (by omega)
  · exact ne_of_mem_threeBytes h

theorem restoreZeros_encodeUnit (h : n < 0x10000) (bs : List UInt8) :
    restoreZeros (encodeUnit n ++ bs) = restored n ++ restoreZeros bs := by
  unfold restored
  split
  · rename_i hzero
    rw [encodeUnit, if_pos hzero]
    rfl
  · rename_i hzero
    exact restoreZeros_append (ne_of_mem_encodeUnit h hzero) bs

-- ---------------------------------------------------------------------------
-- Bytes of units
-- ---------------------------------------------------------------------------

/-- A unit is read as it is, a surrogate or not. -/
theorem decode_restored (h : n < 0x10000) (bs : List UInt8) :
    Utf8.decode true (restored n ++ bs) = (Utf8.decode true bs).map (n :: ·) := by
  by_cases hzero : n = 0
  · subst hzero
    exact Utf8.decode_oneByte true bs (by decide)
  rw [restored, if_neg hzero, encodeUnit, if_neg hzero]
  by_cases hone : n < 0x80
  · rw [if_pos hone]
    exact Utf8.decode_oneByte true bs hone
  rw [if_neg hone]
  by_cases htwo : n < 0x800
  · rw [if_pos htwo]
    exact Utf8.decode_twoBytes true bs (by omega) htwo
  · rw [if_neg htwo]
    exact Utf8.decode_threeBytes true bs (by omega) h (.inl rfl)

section
variable {ns : List Nat} (h : ∀ n ∈ ns, n < 0x10000)
include h

theorem restoreZeros_encodeUnits :
    restoreZeros (ns.flatMap encodeUnit) = ns.flatMap restored := by
  induction ns with
  | nil => rfl
  | cons n ns ih =>
    obtain ⟨hn, hns⟩ := List.forall_mem_cons.mp h
    rw [List.flatMap_cons, restoreZeros_encodeUnit hn, ih hns, List.flatMap_cons]

theorem decode_flatMap_restored : Utf8.decode true (ns.flatMap restored) = some ns := by
  induction ns with
  | nil => rfl
  | cons n ns ih =>
    obtain ⟨hn, hns⟩ := List.forall_mem_cons.mp h
    rw [List.flatMap_cons, decode_restored hn, ih hns, Option.map_some]

/-- Encoded units are joined to the characters they are made of. -/
theorem decode_encodeUnits : decode (ns.flatMap encodeUnit) = joinPairs ns := by
  rw [decode, restoreZeros_encodeUnits h, decode_flatMap_restored h]

end

-- ---------------------------------------------------------------------------
-- Pairs
-- ---------------------------------------------------------------------------

/-- Units are joined to the character they were made from. -/
theorem joinPairs_units (c : Char) (ns : List Nat) :
    joinPairs (units c ++ ns) = (joinPairs ns).map (c :: ·) := by
  have hvalid := toNat_cases c
  unfold units
  split
  · have hhigh : isHigh c.toNat = false := by
      simp only [isHigh, Bool.and_eq_false_iff, decide_eq_false_iff_not]
      omega
    have hlow : isLow c.toNat = false := by
      simp only [isLow, Bool.and_eq_false_iff, decide_eq_false_iff_not]
      omega
    rw [List.cons_append, List.nil_append, joinPairs.eq_def]
    simp only [hhigh, hlow, Bool.false_eq_true, if_false, Char.ofNat_toNat]
  · have hhigh : isHigh (0xD800 + (c.toNat - 0x10000) / 1024) = true := by
      simp only [isHigh, Bool.and_eq_true, decide_eq_true_eq]
      omega
    have hlow : isLow (0xDC00 + (c.toNat - 0x10000) % 1024) = true := by
      simp only [isLow, Bool.and_eq_true, decide_eq_true_eq]
      omega
    have hvalue : 0x10000 + (0xD800 + (c.toNat - 0x10000) / 1024 - 0xD800) * 1024 +
        (0xDC00 + (c.toNat - 0x10000) % 1024 - 0xDC00) = c.toNat := by omega
    simp only [List.cons_append, List.nil_append, joinPairs, hhigh, hlow, if_true, hvalue,
      Char.ofNat_toNat]

theorem joinPairs_flatMap_units (cs : List Char) : joinPairs (cs.flatMap units) = some cs := by
  induction cs with
  | nil => rfl
  | cons c cs ih => rw [List.flatMap_cons, joinPairs_units, ih, Option.map_some]

theorem units_pair {m : Nat} (hhigh : isHigh n = true) (hlow : isLow m = true) :
    units (Char.ofNat (0x10000 + (n - 0xD800) * 1024 + (m - 0xDC00))) = [n, m] := by
  simp only [isHigh, isLow, Bool.and_eq_true, decide_eq_true_eq] at hhigh hlow
  have hvalue : (Char.ofNat (0x10000 + (n - 0xD800) * 1024 + (m - 0xDC00))).toNat =
      0x10000 + (n - 0xD800) * 1024 + (m - 0xDC00) :=
    toNat_ofNat_of_isValidChar (.inr ⟨by omega, by omega⟩)
  have hn : 0xD800 + (0x10000 + (n - 0xD800) * 1024 + (m - 0xDC00) - 0x10000) / 1024 = n := by
    omega
  have hm : 0xDC00 + (0x10000 + (n - 0xD800) * 1024 + (m - 0xDC00) - 0x10000) % 1024 = m := by
    omega
  rw [units, hvalue, if_neg (by omega), hn, hm]

theorem units_single (h : n < 0x10000) (hhigh : isHigh n = false) (hlow : isLow n = false) :
    units (Char.ofNat n) = [n] := by
  simp only [isHigh, isLow, Bool.and_eq_false_iff, decide_eq_false_iff_not] at hhigh hlow
  have hvalid : n.isValidChar := by
    rcases Nat.lt_or_ge n 0xD800 with hlt | hge
    · exact .inl hlt
    · exact .inr ⟨by omega, by omega⟩
  rw [units, toNat_ofNat_of_isValidChar hvalid, if_pos h]

/-- Only the units of characters can be joined. -/
theorem joinPairs_eq_some_iff {ns : List Nat} (h : ∀ n ∈ ns, n < 0x10000) {cs : List Char} :
    joinPairs ns = some cs ↔ ns = cs.flatMap units := by
  refine ⟨fun hjoin => ?_, ?_⟩
  · fun_induction joinPairs ns generalizing cs with
    | case1 =>
      cases hjoin
      rfl
    | case2 n hhigh m ns hlow ih =>
      obtain ⟨cs, htail, rfl⟩ := Option.map_eq_some_iff.mp hjoin
      obtain ⟨-, hrest⟩ := List.forall_mem_cons.mp h
      obtain ⟨-, hrest⟩ := List.forall_mem_cons.mp hrest
      rw [List.flatMap_cons, units_pair hhigh hlow, ← ih hrest htail]
      rfl
    | case3 | case4 | case5 => cases hjoin
    | case6 n ns hhigh hlow ih =>
      obtain ⟨cs, htail, rfl⟩ := Option.map_eq_some_iff.mp hjoin
      obtain ⟨hn, hrest⟩ := List.forall_mem_cons.mp h
      rw [List.flatMap_cons, units_single hn (eq_false_of_ne_true hhigh) (eq_false_of_ne_true hlow),
        ← ih hrest htail]
      rfl
  · rintro rfl
    exact joinPairs_flatMap_units cs

-- ---------------------------------------------------------------------------
-- Texts
-- ---------------------------------------------------------------------------

theorem encode_eq (cs : List Char) : encode cs = (cs.flatMap units).flatMap encodeUnit := by
  rw [encode, List.flatMap_assoc, funext encodeChar_eq]

/-- A text comes back from its encoding. -/
theorem decode_encode (cs : List Char) : decode (encode cs) = some cs := by
  have hunits : ∀ n ∈ cs.flatMap units, n < 0x10000 := by
    intro n hn
    obtain ⟨c, -, hn⟩ := List.mem_flatMap.mp hn
    exact units_lt c n hn
  rw [encode_eq, decode_encodeUnits hunits]
  exact joinPairs_flatMap_units cs

end GroovyRounds.ClassFile.ModifiedUtf8
