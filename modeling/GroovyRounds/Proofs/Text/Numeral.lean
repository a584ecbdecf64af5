import GroovyRounds.Proofs.Text.Cutting
import GroovyRounds.Text.Numeral
import Mathlib.Algebra.Group.Nat.Defs
import Mathlib.Data.List.Basic
import Mathlib.Data.List.TakeWhile

/-!
# Numerals that are read

Of the texts that look like numbers, those can be read that are of decimal digits
only, and not of too many (`exists_readInteger_iff`). A number comes back from
its decimal digits (`readInteger_toDigits`).
-/

namespace GroovyRounds.Text

variable {c : Char} {cs : List Char}

-- ---------------------------------------------------------------------------
-- Figures
-- ---------------------------------------------------------------------------

/-- A run of figures holds no blank, no sign and no underscore. -/
def Unmarked (run : Nat × Nat) : Prop :=
  45 < run.1 ∧ (run.2 < 95 ∨ 95 < run.1) ∧ (run.2 < 0x85 ∨ 0xA0 < run.1) ∧
    (run.2 < 0x1680 ∨ 0x1680 < run.1) ∧ (run.2 < 0x2000 ∨ 0x205F < run.1) ∧
    (run.2 < 0x3000 ∨ 0x3000 < run.1)

instance (run : Nat × Nat) : Decidable (Unmarked run) :=
  inferInstanceAs (Decidable (_ ∧ _))

theorem unmarked_figureRuns : ∀ run ∈ figureRuns, Unmarked run := by decide

theorem unmarked_decimalZeros : ∀ first ∈ decimalZeros, Unmarked (first, first + 9) := by decide

theorem exists_run_of_isFigure (h : isFigure c = true) :
    ∃ run, Unmarked run ∧ run.1 ≤ c.toNat ∧ c.toNat ≤ run.2 := by
  rw [isFigure, Bool.or_eq_true] at h
  rcases h with hdecimal | hother
  · unfold decimalValue? at hdecimal
    cases hfirst : decimalZeros.find? fun first => first ≤ c.toNat && c.toNat ≤ first + 9 with
    | none =>
      rw [hfirst] at hdecimal
      cases hdecimal
    | some first =>
      have hbounds := List.find?_some hfirst
      rw [Bool.and_eq_true, decide_eq_true_eq, decide_eq_true_eq] at hbounds
      exact ⟨_, unmarked_decimalZeros first (List.mem_of_find?_eq_some hfirst), hbounds⟩
  · obtain ⟨run, hrun, hbounds⟩ := List.any_eq_true.mp hother
    rw [Bool.and_eq_true, decide_eq_true_eq, decide_eq_true_eq] at hbounds
    exact ⟨run, unmarked_figureRuns run hrun, hbounds⟩

theorem isNumeralBlank_of_isFigure (h : isFigure c = true) : isNumeralBlank c = false := by
  obtain ⟨run, ⟨_, _, _, _, _, _⟩, _, _⟩ := exists_run_of_isFigure h
  have hblank : isBlank c = false := by
    simp only [isBlank, Bool.or_eq_false_iff, Bool.and_eq_false_iff, decide_eq_false_iff_not,
      beq_eq_false_iff_ne]
    omega
  rw [isNumeralBlank, hblank, Bool.false_and]

theorem ne_of_isFigure (h : isFigure c = true) : c ≠ '-' ∧ c ≠ '+' ∧ c ≠ '_' := by
  obtain ⟨run, ⟨_, _, _, _, _, _⟩, _, _⟩ := exists_run_of_isFigure h
  refine ⟨?_, ?_, ?_⟩ <;> rintro rfl <;> simp only [Char.reduceToNat] at * <;> omega

-- ---------------------------------------------------------------------------
-- Decimal digits
-- ---------------------------------------------------------------------------

/-- The character is a decimal digit. -/
def isDecimal (c : Char) : Bool :=
  (decimalValue? c).isSome

theorem isFigure_of_isDecimal (h : isDecimal c = true) : isFigure c = true :=
  Bool.or_eq_true_iff.mpr (.inl h)

theorem takeDigits_of_isFigure (h : ∀ c ∈ cs, isFigure c = true) :
    takeDigits cs = ((cs.takeWhile isDecimal).filterMap decimalValue?, cs.dropWhile isDecimal) := by
  induction cs with
  | nil => rfl
  | cons c cs ih =>
    obtain ⟨hc, hcs⟩ := List.forall_mem_cons.mp h
    rw [takeDigits]
    · cases hvalue : decimalValue? c with
      | none => simp [isDecimal, hvalue]
      | some d => simp [isDecimal, hvalue, ih hcs]
    · intro _ _ heq
      exact absurd heq (ne_of_isFigure hc).2.2

theorem length_filterMap_decimalValue? (h : ∀ c ∈ cs, isDecimal c = true) :
    (cs.filterMap decimalValue?).length = cs.length := by
  induction cs with
  | nil => rfl
  | cons c cs ih =>
    obtain ⟨hc, hcs⟩ := List.forall_mem_cons.mp h
    obtain ⟨d, hd⟩ := Option.isSome_iff_exists.mp hc
    rw [List.filterMap_cons_some hd, List.length_cons, List.length_cons, ih hcs]

theorem decimalValue?_of_isDigit (h : c.isDigit = true) :
    decimalValue? c = some (c.toNat - '0'.toNat) := by
  have hbounds : 0x30 ≤ c.toNat ∧ c.toNat ≤ 0x39 := by
    simpa [Char.isDigit, UInt32.le_iff_toNat_le] using h
  have hfind : decimalZeros.find? (fun first => first ≤ c.toNat && c.toNat ≤ first + 9) =
      some 0x30 := by
    refine List.find?_cons_of_pos ?_
    simpa using hbounds
  rw [decimalValue?, hfind]
  rfl

theorem isDecimal_of_isDigit (h : c.isDigit = true) : isDecimal c = true := by
  rw [isDecimal, decimalValue?_of_isDigit h, Option.isSome_some]

theorem ofDigits_of_isDigit (h : ∀ c ∈ cs, c.isDigit = true) :
    ofDigits (cs.filterMap decimalValue?) = Nat.ofDigitChars 10 cs 0 := by
  have hvalues : cs.filterMap decimalValue? = cs.map fun c => c.toNat - '0'.toNat :=
    List.filterMap_eq_map_iff_forall_eq_some.mpr fun c hc => decimalValue?_of_isDigit (h c hc)
  rw [hvalues, ofDigits, List.foldl_map]
  rfl

-- ---------------------------------------------------------------------------
-- Numbers
-- ---------------------------------------------------------------------------

/-- Of figures, the decimal digits at the front are read, and the number is theirs if nothing else
is left. -/
theorem readInteger_of_isFigures (h : isFigures cs = true) :
    readInteger (String.ofList cs) =
      if digitLimit < ((cs.takeWhile isDecimal).filterMap decimalValue?).length then
        .error (.tooLong ((cs.takeWhile isDecimal).filterMap decimalValue?).length)
      else if ((cs.takeWhile isDecimal).filterMap decimalValue?).isEmpty ||
          !(cs.dropWhile isDecimal).isEmpty then .error (.malformed (String.ofList cs))
      else .ok (ofDigits ((cs.takeWhile isDecimal).filterMap decimalValue?) : Int) := by
  rw [isFigures, Bool.and_eq_true, Bool.not_eq_true', List.isEmpty_eq_false_iff,
    List.all_eq_true] at h
  obtain ⟨hne, hfigures⟩ := h
  have htrim : trimBoth isNumeralBlank cs = cs :=
    trimBoth_of_none fun c hc => isNumeralBlank_of_isFigure (hfigures c hc)
  have hsign : takeSign cs = (false, cs) := by
    obtain ⟨c, rest, rfl⟩ := List.exists_cons_of_ne_nil hne
    obtain ⟨hminus, hplus, -⟩ := ne_of_isFigure (hfigures c List.mem_cons_self)
    rw [takeSign]
    · intro _ heq
      exact hminus (List.cons.inj heq).1
    · intro _ heq
      exact hplus (List.cons.inj heq).1
  have hhead {rest : List Char} (hrest : rest ⊆ cs) : ¬ rest.head? = some '_' := fun heq =>
    (ne_of_isFigure (hfigures '_' (hrest (List.mem_of_mem_head? heq)))).2.2 rfl
  rw [readInteger, String.toList_ofList, htrim, hsign]
  simp only [if_neg (hhead (List.Subset.refl cs)), takeDigits_of_isFigure hfigures,
    if_neg (hhead (List.dropWhile_sublist isDecimal).subset), Bool.false_eq_true, if_false]

/-- Decimal digits are read, if they are not too many. -/
theorem readInteger_of_isDecimal (hne : cs ≠ []) (h : ∀ c ∈ cs, isDecimal c = true) :
    readInteger (String.ofList cs) =
      if digitLimit < cs.length then .error (.tooLong cs.length)
      else .ok (ofDigits (cs.filterMap decimalValue?) : Int) := by
  have hfigures : isFigures cs = true := by
    rw [isFigures, Bool.and_eq_true, Bool.not_eq_true', List.isEmpty_eq_false_iff, List.all_eq_true]
    exact ⟨hne, fun c hc => isFigure_of_isDecimal (h c hc)⟩
  have hempty : (cs.filterMap decimalValue?).isEmpty = false := by
    rwa [List.isEmpty_eq_false_iff, ne_eq, ← List.length_eq_zero_iff,
      length_filterMap_decimalValue? h, List.length_eq_zero_iff]
  rw [readInteger_of_isFigures hfigures, List.takeWhile_eq_self_iff.mpr h,
    List.dropWhile_eq_nil_iff.mpr h, length_filterMap_decimalValue? h, hempty, List.isEmpty_nil,
    Bool.not_true, Bool.or_false, if_neg Bool.false_ne_true]

/-- Figures write a number if all of them are decimal digits, and they are not too many. -/
theorem exists_readInteger_iff (h : isFigures cs = true) :
    (∃ n, readInteger (String.ofList cs) = .ok n) ↔
      (∀ c ∈ cs, isDecimal c = true) ∧ cs.length ≤ digitLimit := by
  by_cases hall : ∀ c ∈ cs, isDecimal c = true
  · have hne : cs ≠ [] := by
      rintro rfl
      cases h
    rw [readInteger_of_isDecimal hne hall]
    by_cases hlong : digitLimit < cs.length
    · simp [hlong, Nat.not_le_of_lt hlong]
    · simpa [hlong, Nat.le_of_not_lt hlong] using hall
  · have hdrop : (cs.dropWhile isDecimal).isEmpty = false := by
      simpa [List.isEmpty_eq_false_iff, List.dropWhile_eq_nil_iff] using hall
    rw [readInteger_of_isFigures h, hdrop]
    constructor
    · rintro ⟨n, hn⟩
      split at hn <;> simp at hn
    · exact fun hdecimal => absurd hdecimal.1 hall

/-- A number comes back from its decimal digits, if they are not too many. -/
theorem readInteger_toDigits (n : Nat) :
    readInteger (String.ofList (Nat.toDigits 10 n)) =
      if n < 10 ^ digitLimit then .ok (n : Int)
      else .error (.tooLong (Nat.toDigits 10 n).length) := by
  have hdigits : ∀ c ∈ Nat.toDigits 10 n, c.isDigit = true := fun c hc =>
    Nat.isDigit_of_mem_toDigits (by decide) (by decide) hc
  have hlength : digitLimit < (Nat.toDigits 10 n).length ↔ ¬ n < 10 ^ digitLimit := by
    rw [← Nat.length_toDigits_le_iff (by decide) (by decide), Nat.not_le]
  rw [readInteger_of_isDecimal Nat.toDigits_ne_nil fun c hc => isDecimal_of_isDigit (hdigits c hc),
    ofDigits_of_isDigit hdigits, Nat.ofDigitChars_ten_toDigits]
  by_cases hshort : n < 10 ^ digitLimit
  · rw [if_neg fun hlong => hlength.mp hlong hshort, if_pos hshort]
  · rw [if_pos (hlength.mpr hshort), if_neg hshort]

end GroovyRounds.Text
