import GroovyRounds.Text.Utf8

/-!
# Encoded texts

A text is encoded character after character (`encodeText_append`), no two texts
are encoded alike (`encodeText_inj`), and a text comes back from its encoding
(`decodeText_encodeText`). The decoder is followed sequence by sequence, one
lemma for each length of a sequence.
-/

namespace GroovyRounds.Text.Utf8

-- ---------------------------------------------------------------------------
-- Bytes of a sequence
-- ---------------------------------------------------------------------------

theorem toNat_ofNat {n : Nat} (h : n < 256) : (UInt8.ofNat n).toNat = n := by
  rw [UInt8.toNat_ofNat']
  omega

theorem isContinuation_ofNat {k : Nat} (h : k < 64) :
    isContinuation (UInt8.ofNat (0x80 + k)) = true := by
  have hk : (UInt8.ofNat (0x80 + k)).toNat = 0x80 + k := toNat_ofNat (by omega)
  simp only [isContinuation, UInt8.le_iff_toNat_le, hk, UInt8.reduceToNat, Bool.and_eq_true,
    decide_eq_true_eq]
  omega

theorem low_ofNat {k : Nat} (h : k < 64) : low (UInt8.ofNat (0x80 + k)) = k := by
  rw [low, toNat_ofNat (by omega)]
  omega

section
variable (surrogates : Bool) (bs : List UInt8) {n : Nat}

theorem decode_oneByte (h : n < 0x80) :
    decode surrogates (UInt8.ofNat n :: bs) = (decode surrogates bs).map (n :: ·) := by
  have hn : (UInt8.ofNat n).toNat = n := toNat_ofNat (by omega)
  rw [decode.eq_def]
  simp only [UInt8.lt_iff_toNat_lt, hn, UInt8.reduceToNat, if_pos h]

theorem decode_twoBytes (hlow : 0x80 ≤ n) (hhigh : n < 0x800) :
    decode surrogates
        (UInt8.ofNat (0xC0 + n / 64) :: UInt8.ofNat (0x80 + n % 64) :: bs) =
      (decode surrogates bs).map (n :: ·) := by
  have hlead : (UInt8.ofNat (0xC0 + n / 64)).toNat = 0xC0 + n / 64 := toNat_ofNat (by omega)
  have hrest : n % 64 < 64 := by omega
  have hone : ¬ 0xC0 + n / 64 < 0x80 := by omega
  have htwo : 0xC2 ≤ 0xC0 + n / 64 ∧ 0xC0 + n / 64 ≤ 0xDF := by omega
  have hvalue : (0xC0 + n / 64) % 32 * 64 + n % 64 = n := by omega
  simp only [decode, UInt8.lt_iff_toNat_lt, UInt8.le_iff_toNat_le, hlead, UInt8.reduceToNat,
    if_neg hone, Bool.and_eq_true, decide_eq_true_eq, if_pos htwo, isContinuation_ofNat hrest,
    low_ofNat hrest, hvalue, if_true]

theorem decode_threeBytes (hlow : 0x800 ≤ n) (hhigh : n < 0x10000)
    (hallowed : surrogates = true ∨ isSurrogate n = false) :
    decode surrogates
        (UInt8.ofNat (0xE0 + n / 4096) :: UInt8.ofNat (0x80 + n / 64 % 64) ::
          UInt8.ofNat (0x80 + n % 64) :: bs) =
      (decode surrogates bs).map (n :: ·) := by
  have hlead : (UInt8.ofNat (0xE0 + n / 4096)).toNat = 0xE0 + n / 4096 := toNat_ofNat (by omega)
  have hmiddle : n / 64 % 64 < 64 := by omega
  have hrest : n % 64 < 64 := by omega
  have hone : ¬ 0xE0 + n / 4096 < 0x80 := by omega
  have htwo : ¬ (0xC2 ≤ 0xE0 + n / 4096 ∧ 0xE0 + n / 4096 ≤ 0xDF) := by omega
  have hthree : 0xE0 ≤ 0xE0 + n / 4096 ∧ 0xE0 + n / 4096 ≤ 0xEF := by omega
  have hvalue : (0xE0 + n / 4096) % 16 * 4096 + n / 64 % 64 * 64 + n % 64 = n := by omega
  have hsurrogate : (surrogates || !isSurrogate n) = true := by simpa using hallowed
  simp only [decode, UInt8.lt_iff_toNat_lt, UInt8.le_iff_toNat_le, hlead, UInt8.reduceToNat,
    if_neg hone, Bool.and_eq_true, decide_eq_true_eq, if_neg htwo, if_pos hthree,
    isContinuation_ofNat hmiddle, isContinuation_ofNat hrest, low_ofNat hmiddle, low_ofNat hrest,
    hvalue, hlow, hsurrogate, and_self, if_true]

theorem decode_fourBytes (hlow : 0x10000 ≤ n) (hhigh : n < 0x110000) :
    decode surrogates
        (UInt8.ofNat (0xF0 + n / 262144) :: UInt8.ofNat (0x80 + n / 4096 % 64) ::
          UInt8.ofNat (0x80 + n / 64 % 64) :: UInt8.ofNat (0x80 + n % 64) :: bs) =
      (decode surrogates bs).map (n :: ·) := by
  have hlead : (UInt8.ofNat (0xF0 + n / 262144)).toNat = 0xF0 + n / 262144 :=
    toNat_ofNat (by omega)
  have hsecond : n / 4096 % 64 < 64 := by omega
  have hthird : n / 64 % 64 < 64 := by omega
  have hrest : n % 64 < 64 := by omega
  have hone : ¬ 0xF0 + n / 262144 < 0x80 := by omega
  have htwo : ¬ (0xC2 ≤ 0xF0 + n / 262144 ∧ 0xF0 + n / 262144 ≤ 0xDF) := by omega
  have hthree : ¬ (0xE0 ≤ 0xF0 + n / 262144 ∧ 0xF0 + n / 262144 ≤ 0xEF) := by omega
  have hfour : 0xF0 ≤ 0xF0 + n / 262144 ∧ 0xF0 + n / 262144 ≤ 0xF4 := by omega
  have hvalue : (0xF0 + n / 262144) % 8 * 262144 + n / 4096 % 64 * 4096 + n / 64 % 64 * 64 +
      n % 64 = n := by omega
  have hlast : n ≤ 0x10FFFF := by omega
  simp only [decode, UInt8.lt_iff_toNat_lt, UInt8.le_iff_toNat_le, hlead, UInt8.reduceToNat,
    if_neg hone, Bool.and_eq_true, decide_eq_true_eq, if_neg htwo, if_neg hthree, if_pos hfour,
    isContinuation_ofNat hsecond, isContinuation_ofNat hthird, isContinuation_ofNat hrest,
    low_ofNat hsecond, low_ofNat hthird, low_ofNat hrest, hvalue, hlow, hlast, and_self, if_true]

/-- A character is read as its code point. -/
theorem decode_encodeChar (c : Char) :
    decode surrogates (String.utf8EncodeChar c ++ bs) =
      (decode surrogates bs).map (c.toNat :: ·) := by
  have hvalid : c.toNat < 0xD800 ∨ 0xDFFF < c.toNat ∧ c.toNat < 0x110000 := c.valid
  have hval : c.val.toNat = c.toNat := rfl
  simp only [String.utf8EncodeChar, hval]
  split
  · exact decode_oneByte surrogates bs (by omega)
  split
  · have hlead : c.toNat / 64 % 32 = c.toNat / 64 := by omega
    have h := decode_twoBytes surrogates bs (n := c.toNat) (by omega) (by omega)
    simpa only [hlead, Nat.add_comm, List.cons_append, List.nil_append] using h
  split
  · have hlead : c.toNat / 4096 % 16 = c.toNat / 4096 := by omega
    have hallowed : isSurrogate c.toNat = false := by
      simp only [isSurrogate, Bool.and_eq_false_iff, decide_eq_false_iff_not]
      omega
    have h := decode_threeBytes surrogates bs (n := c.toNat) (by omega) (by omega) (.inr hallowed)
    simpa only [hlead, Nat.add_comm, List.cons_append, List.nil_append] using h
  · have hlead : c.toNat / 262144 % 8 = c.toNat / 262144 := by omega
    have h := decode_fourBytes surrogates bs (n := c.toNat) (by omega) (by omega)
    simpa only [hlead, Nat.add_comm, List.cons_append, List.nil_append] using h

end

-- ---------------------------------------------------------------------------
-- Texts
-- ---------------------------------------------------------------------------

theorem encodeText_append (s t : String) : encodeText (s ++ t) = encodeText s ++ encodeText t := by
  simp only [encodeText, String.toUTF8_eq_toByteArray, String.toByteArray_append,
    ByteArray.data_append, Array.toList_append]

theorem encodeText_inj {s t : String} (h : encodeText s = encodeText t) : s = t := by
  rw [encodeText, encodeText, Array.toList_inj] at h
  exact String.toByteArray_inj.mp (ByteArray.ext h)

theorem encodeText_eq (s : String) : encodeText s = s.toList.flatMap String.utf8EncodeChar := by
  rw [encodeText, String.toUTF8_eq_toByteArray, ← String.utf8Encode_toList, List.utf8Encode]
  simp

/-- A text comes back from its encoding. -/
theorem decodeText_encodeText (s : String) : decodeText (encodeText s) = some s.toList := by
  have hdecode (cs : List Char) :
      decode false (cs.flatMap String.utf8EncodeChar) = some (cs.map Char.toNat) := by
    induction cs with
    | nil => rfl
    | cons c cs ih =>
      simp only [List.flatMap_cons, decode_encodeChar, ih, Option.map_some, List.map_cons]
  have hchars : s.toList.map (Char.ofNat ∘ Char.toNat) = s.toList := by
    simp [Function.comp_def]
  simp only [decodeText, encodeText_eq, hdecode, Option.map_some, List.map_map, hchars]

end GroovyRounds.Text.Utf8
