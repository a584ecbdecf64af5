import GroovyRounds.Settings.Basic
import Mathlib.Data.List.TakeWhile

/-!
# What patterns match

A pattern stands for the texts that `Matches` gives, rule by rule for its
characters, and the matcher accepts just these (`accepts_ofString_iff`). A set
between brackets lists single characters and ranges, read from the left
(`admits_setOf_iff`). No stubs are made of a file if some pattern matches its
path or what is left of the path after a slash (`excludesStub_iff`).
-/

namespace GroovyRounds

namespace Glob

-- ---------------------------------------------------------------------------
-- The extent of a set
-- ---------------------------------------------------------------------------

/-- What may stand between the brackets of a set. The first character, or the first after the mark
that negates the set, may be any; no closing bracket comes after it. -/
inductive IsSetContent : List Char → Prop where
  | plain {c : Char} {cs : List Char} (hmark : c ≠ '!') (hclosed : ']' ∉ cs) :
      IsSetContent (c :: cs)
  | negated {c : Char} {cs : List Char} (hclosed : ']' ∉ cs) : IsSetContent ('!' :: c :: cs)

/-- A set that goes on after its front up to the first closing bracket. -/
def takeBody (front cs : List Char) : Option (List Char × List Char) :=
  let body := cs.takeWhile (· ≠ ']')
  match cs.drop body.length with
  | ']' :: rest => some (front ++ body, rest)
  | _ => none

section
variable {front cs content rest : List Char} {c : Char}

theorem takeBody_bracket {body : List Char} (h : ']' ∉ body) (front rest : List Char) :
    takeBody front (body ++ ']' :: rest) = some (front ++ body, rest) := by
  have hall : ∀ c ∈ body, decide (c ≠ ']') = true := fun c hc => by
    simpa using fun heq : c = ']' => h (heq ▸ hc)
  have hbody : (body ++ ']' :: rest).takeWhile (· ≠ ']') = body := by
    rw [List.takeWhile_append_of_pos hall, List.takeWhile_cons_of_neg (by simp), List.append_nil]
  simp only [takeBody, hbody, List.drop_left]

theorem eq_of_takeBody (h : takeBody front cs = some (content, rest)) :
    ∃ body, ']' ∉ body ∧ content = front ++ body ∧ cs = body ++ ']' :: rest := by
  simp only [takeBody] at h
  split at h
  · rename_i rest' hdrop
    cases h
    refine ⟨cs.takeWhile (· ≠ ']'), fun hm => ?_, rfl, ?_⟩
    · simpa using List.mem_takeWhile_imp hm
    · rw [← hdrop]
      exact (List.prefix_iff_eq_append.mp (List.takeWhile_prefix _)).symm
  · cases h

theorem takeSet_cons (h : c ≠ '!') : takeSet (c :: cs) = takeBody [c] cs := by
  by_cases hbracket : c = ']'
  · subst hbracket
    rfl
  · simp only [takeSet, takeBody]
    split <;> simp_all

theorem takeSet_mark : takeSet ('!' :: c :: cs) = takeBody ['!', c] cs := by
  by_cases hbracket : c = ']'
  · subst hbracket
    rfl
  · simp only [takeSet, takeBody]
    split <;> simp_all

/-- A set reaches to the first closing bracket that may end it. -/
theorem takeSet_eq_some_iff :
    takeSet cs = some (content, rest) ↔ IsSetContent content ∧ cs = content ++ ']' :: rest := by
  constructor
  · intro h
    cases cs with
    | nil => cases h
    | cons c cs =>
      by_cases hmark : c = '!'
      · subst hmark
        cases cs with
        | nil => cases h
        | cons c cs =>
          rw [takeSet_mark] at h
          obtain ⟨body, hclosed, rfl, rfl⟩ := eq_of_takeBody h
          exact ⟨.negated hclosed, rfl⟩
      · rw [takeSet_cons hmark] at h
        obtain ⟨body, hclosed, rfl, rfl⟩ := eq_of_takeBody h
        exact ⟨.plain hmark hclosed, rfl⟩
  · rintro ⟨hcontent, rfl⟩
    cases hcontent with
    | plain hmark hclosed => exact (takeSet_cons hmark).trans (takeBody_bracket hclosed _ _)
    | negated hclosed => exact takeSet_mark.trans (takeBody_bracket hclosed _ _)

theorem takeSet_eq_none_iff :
    takeSet cs = none ↔ ∀ content rest, IsSetContent content → cs ≠ content ++ ']' :: rest := by
  rw [Option.eq_none_iff_forall_ne_some]
  constructor
  · exact fun h content rest hcontent heq =>
      h (content, rest) (takeSet_eq_some_iff.mpr ⟨hcontent, heq⟩)
  · rintro h ⟨content, rest⟩ hset
    obtain ⟨hcontent, heq⟩ := takeSet_eq_some_iff.mp hset
    exact h content rest hcontent heq

end

-- ---------------------------------------------------------------------------
-- What a set lists
-- ---------------------------------------------------------------------------

/-- The characters listed between brackets, from the left: a hyphen between two characters makes a
range of them. -/
def Lists : List Char → Char → Prop
  | low :: '-' :: high :: cs, c => low ≤ c ∧ c ≤ high ∨ Lists cs c
  | d :: cs, c => c = d ∨ Lists cs c
  | [], _ => False

/-- The first item is a range that runs backwards. -/
def StartsBackward : List Char → Prop
  | low :: '-' :: high :: _ => high < low
  | _ => False

/-- The first piece of a set and the others, its items read from the left. Ranges that run
backwards are left out. -/
def pieces : List Char → List Char × List (List Char)
  | low :: '-' :: high :: cs =>
    let (piece, rest) := pieces cs
    if high < low then (piece, rest) else ([low], (high :: piece) :: rest)
  | c :: cs =>
    let (piece, rest) := pieces cs
    (c :: piece, rest)
  | [] => ([], [])

/-- Cutting at the hyphens and dropping the ranges that run backwards goes item by item. -/
theorem dropEmptyRanges_cutAtHyphens (front cs : List Char) :
    dropEmptyRanges (cutAtHyphens 1 front cs) =
      (front.reverse ++ (pieces cs).1) :: (pieces cs).2 := by
  induction cs using pieces.induct generalizing front with
  | case1 low high cs piece rest hpieces hlt ih =>
    have hcut : cutAtHyphens 1 front (low :: '-' :: high :: cs) =
        (low :: front).reverse :: cutAtHyphens 1 [high] cs := rfl
    rw [hcut, dropEmptyRanges, ih, pieces, hpieces]
    simp [hlt]
  | case2 low high cs piece rest hpieces hlt ih =>
    have hcut : cutAtHyphens 1 front (low :: '-' :: high :: cs) =
        (low :: front).reverse :: cutAtHyphens 1 [high] cs := rfl
    rw [hcut, dropEmptyRanges, ih, pieces, hpieces]
    simp [hlt]
  | case3 c cs hrange piece rest hpieces ih =>
    have hcut : cutAtHyphens 1 front (c :: cs) = cutAtHyphens 1 (c :: front) cs := by
      cases cs with
      | nil => rfl
      | cons d cs =>
        by_cases hd : d = '-'
        · subst hd
          cases cs with
          | nil => rfl
          | cons high cs => exact absurd rfl (hrange high cs)
        · simp [cutAtHyphens, hd]
    rw [hcut, ih, pieces, hpieces]
    · simp
    · exact hrange
  | case4 => simp [cutAtHyphens, dropEmptyRanges, pieces]

theorem pieces_ne_nil {cs : List Char} (h : (pieces cs).2 ≠ []) : (pieces cs).1 ≠ [] := by
  induction cs using pieces.induct with
  | case1 low high cs piece rest hpieces hlt ih =>
    rw [hpieces] at ih
    simp only [pieces, hpieces, hlt, if_true] at h ⊢
    exact ih h
  | case2 low high cs piece rest hpieces hlt => simp [pieces, hpieces, hlt]
  | case3 c cs hrange piece rest hpieces =>
    rw [pieces]
    · simp
    · exact hrange
  | case4 => exact absurd rfl h

/-- Some of the ranges holds the character. -/
def Holds (ranges : Ranges) (c : Char) : Prop :=
  ∃ range ∈ ranges, range.1 ≤ c ∧ c ≤ range.2

theorem holds_cons_iff {range : Char × Char} {ranges : Ranges} {c : Char} :
    Holds (range :: ranges) c ↔ range.1 ≤ c ∧ c ≤ range.2 ∨ Holds ranges c := by
  simp [Holds]

theorem admits_oneOf {negated : Bool} {ranges : Ranges} {c : Char} :
    (Token.oneOf negated ranges).admits c = true ↔ (negated = true ↔ ¬ Holds ranges c) := by
  have hadmits : (Token.oneOf negated ranges).admits c =
      decide (negated ≠ ranges.any fun range => range.1 ≤ c && c ≤ range.2) := rfl
  have hany : (ranges.any fun range => range.1 ≤ c && c ≤ range.2) = true ↔ Holds ranges c := by
    simp [Holds]
  rw [hadmits, ← hany]
  cases negated <;> simp

section
variable {d c : Char} {piece : List Char} {rest : List (List Char)}

theorem same_iff : d ≤ c ∧ c ≤ d ↔ c = d :=
  ⟨fun ⟨h, h'⟩ => Char.le_antisymm h' h, fun h => h ▸ ⟨Char.le_refl c, Char.le_refl c⟩⟩

/-- A further character in front of a piece is one more character that is listed. -/
theorem holds_rangesOf_cons (h : rest ≠ [] → piece ≠ []) :
    Holds (rangesOf ((d :: piece) :: rest)) c ↔ c = d ∨ Holds (rangesOf (piece :: rest)) c := by
  cases rest with
  | nil => simp only [rangesOf, List.map_cons, holds_cons_iff, same_iff]
  | cons next rest =>
    have hlast : rangeBetween (d :: piece) next = rangeBetween piece next := by
      obtain ⟨e, piece, rfl⟩ := List.exists_cons_of_ne_nil (h (List.cons_ne_nil _ _))
      rfl
    simp only [rangesOf, List.map_cons, List.cons_append, holds_cons_iff, same_iff, hlast]

theorem holds_pieces_iff (cs : List Char) (c : Char) :
    Holds (rangesOf ((pieces cs).1 :: (pieces cs).2)) c ↔ Lists cs c := by
  induction cs using pieces.induct with
  | case1 low high cs piece rest hpieces hlt ih =>
    rw [hpieces] at ih
    have hnone : ¬ (low ≤ c ∧ c ≤ high) := fun ⟨h, h'⟩ =>
      absurd hlt (Char.not_lt.mpr (Char.le_trans h h'))
    simp only [pieces, hpieces, hlt, if_true, ih, Lists, hnone, false_or]
  | case2 low high cs piece rest hpieces hlt ih =>
    have hne : rest ≠ [] → piece ≠ [] := by
      have h := @pieces_ne_nil cs
      rwa [hpieces] at h
    have hends : low ≤ high := Char.not_lt.mp hlt
    -- The ends of a range are listed by it.
    have hlow : c = low → low ≤ c ∧ c ≤ high := fun h => h ▸ ⟨Char.le_refl _, h ▸ hends⟩
    have hhigh : c = high → low ≤ c ∧ c ≤ high := fun h => h ▸ ⟨h ▸ hends, Char.le_refl _⟩
    rw [hpieces] at ih
    have hranges : rangesOf ([low] :: (high :: piece) :: rest) =
      (low, low) :: (low, high) :: rangesOf ((high :: piece) :: rest) := rfl
    simp only [pieces, hpieces, hlt, if_false, hranges, holds_cons_iff, same_iff,
      holds_rangesOf_cons hne, ih, Lists]
    constructor
    · rintro (h | h | h | h)
      · exact .inl (hlow h)
      · exact .inl h
      · exact .inl (hhigh h)
      · exact .inr h
    · rintro (h | h)
      · exact .inr (.inl h)
      · exact .inr (.inr (.inr h))
  | case3 d cs hrange piece rest hpieces ih =>
    have hne : rest ≠ [] → piece ≠ [] := by
      have h := @pieces_ne_nil cs
      rwa [hpieces] at h
    rw [hpieces] at ih
    rw [pieces, hpieces, Lists]
    · exact (holds_rangesOf_cons hne).trans (or_congr_right ih)
    · exact hrange
    · exact hrange
  | case4 =>
    simp [pieces, rangesOf, Holds, Lists]

end

/-- The first item is kept unless it is a range that runs backwards. -/
theorem head_pieces {cs : List Char} (h : ¬ StartsBackward cs) :
    (pieces cs).1.head? = cs.head? := by
  fun_cases pieces cs with
  | case1 low high cs piece rest hpieces hlt => exact absurd hlt h
  | case2 low high cs piece rest hpieces hlt => rfl
  | case3 c cs hrange piece rest hpieces => rfl
  | case4 => rfl

/-- A set lists its characters, or all but those after its mark. Only a set that starts with a range
that runs backwards is read in another way: the range is dropped before the mark is looked for. -/
theorem admits_setOf_iff (cs : List Char) (c : Char) :
    ((setOf ('!' :: cs)).admits c = true ↔ ¬ Lists cs c) ∧
      (cs.head? ≠ some '!' → ¬ StartsBackward cs →
        ((setOf cs).admits c = true ↔ Lists cs c)) := by
  constructor
  · have hcut : dropEmptyRanges (cutAtHyphens 2 [] ('!' :: cs)) =
        ('!' :: (pieces cs).1) :: (pieces cs).2 := dropEmptyRanges_cutAtHyphens ['!'] cs
    have hset : setOf ('!' :: cs) = .oneOf true (rangesOf ((pieces cs).1 :: (pieces cs).2)) := by
      simp [setOf, hcut]
    rw [hset, admits_oneOf, holds_pieces_iff]
    simp
  · intro hmark hforward
    have hcut : dropEmptyRanges (cutAtHyphens 1 [] cs) = (pieces cs).1 :: (pieces cs).2 :=
      dropEmptyRanges_cutAtHyphens [] cs
    have hset : setOf cs = .oneOf false (rangesOf ((pieces cs).1 :: (pieces cs).2)) := by
      simp only [setOf, hmark, if_false, hcut]
      split
      · rename_i piece others heq
        obtain ⟨hpiece, -⟩ := List.cons.inj heq
        exact absurd ((head_pieces hforward).symm.trans (congrArg List.head? hpiece)) hmark
      · rfl
    rw [hset, admits_oneOf, holds_pieces_iff]
    simp

-- ---------------------------------------------------------------------------
-- What a pattern stands for
-- ---------------------------------------------------------------------------

/-- The text is one that the pattern stands for. -/
inductive Matches : List Char → List Char → Prop where
  | done : Matches [] []
  /-- A star stands for any text, slashes included. -/
  | run {cs text : List Char} (front : List Char) (h : Matches cs text) :
      Matches ('*' :: cs) (front ++ text)
  /-- A question mark stands for any character. -/
  | any {cs text : List Char} (c : Char) (h : Matches cs text) : Matches ('?' :: cs) (c :: text)
  /-- A set stands for one of its characters. -/
  | set {content cs text : List Char} {c : Char} (hcontent : IsSetContent content)
      (hc : (setOf content).admits c = true) (h : Matches cs text) :
      Matches ('[' :: (content ++ ']' :: cs)) (c :: text)
  /-- A bracket that is not closed stands for itself. -/
  | bracket {cs text : List Char}
      (hopen : ∀ content rest, IsSetContent content → cs ≠ content ++ ']' :: rest)
      (h : Matches cs text) : Matches ('[' :: cs) ('[' :: text)
  | literal {c : Char} {cs text : List Char} (hc : c ∉ ['*', '?', '[']) (h : Matches cs text) :
      Matches (c :: cs) (c :: text)

-- ---------------------------------------------------------------------------
-- The matcher
-- ---------------------------------------------------------------------------

/-- The values of a function at all tails of a text. -/
def tabulate (f : List Char → Bool) : List Char → List Bool
  | [] => [f []]
  | c :: cs => f (c :: cs) :: tabulate f cs

/-- The text is one for the token and then one that the function accepts. -/
def Token.andThen (t : Token) (f : List Char → Bool) : List Char → Bool
  | [] => t = .run && f []
  | c :: cs => if t = .run then f (c :: cs) || t.andThen f cs else t.admits c && f cs

section
variable {pattern : List Token} {t : Token} {f : List Char → Bool} {text : List Char}

theorem headD_tabulate (f : List Char → Bool) (text : List Char) :
    (tabulate f text).headD false = f text := by
  cases text <;> rfl

theorem onlyEmpty_eq (text : List Char) : onlyEmpty text = tabulate List.isEmpty text := by
  induction text with
  | nil => rfl
  | cons c cs ih => simp [onlyEmpty, tabulate, ih]

/-- A token is looked up in the table of what comes after it. -/
theorem before_tabulate (t : Token) (f : List Char → Bool) (text : List Char) :
    t.before text (tabulate f text) = tabulate (t.andThen f) text := by
  induction text with
  | nil => rfl
  | cons c cs ih =>
    simp only [Token.before, tabulate, List.tail_cons, ih, List.headD_cons, headD_tabulate]
    cases t <;> simp [Token.andThen]

theorem accepts_eq (pattern : List Token) (text : List Char) :
    accepts pattern text = pattern.foldr Token.andThen List.isEmpty text := by
  have htable : pattern.foldr (fun t tails => t.before text tails) (onlyEmpty text) =
      tabulate (pattern.foldr Token.andThen List.isEmpty) text := by
    induction pattern with
    | nil => exact onlyEmpty_eq text
    | cons t pattern ih => rw [List.foldr_cons, ih, before_tabulate, List.foldr_cons]
  rw [accepts, htable, headD_tabulate]

theorem accepts_nil_iff : accepts [] text = true ↔ text = [] := by
  rw [accepts_eq]
  exact List.isEmpty_iff

/-- A run takes any front of the text. -/
theorem accepts_run_iff : accepts (.run :: pattern) text = true ↔
    ∃ front rest, text = front ++ rest ∧ accepts pattern rest = true := by
  simp only [accepts_eq, List.foldr_cons]
  generalize pattern.foldr Token.andThen List.isEmpty = f
  induction text with
  | nil =>
    simp only [Token.andThen, decide_true, Bool.true_and, List.nil_eq, List.append_eq_nil_iff]
    exact ⟨fun h => ⟨[], [], ⟨rfl, rfl⟩, h⟩, fun ⟨_, _, ⟨_, hrest⟩, h⟩ => hrest ▸ h⟩
  | cons c cs ih =>
    simp only [Token.andThen, if_true, Bool.or_eq_true, ih]
    constructor
    · rintro (h | ⟨front, rest, rfl, h⟩)
      · exact ⟨[], c :: cs, rfl, h⟩
      · exact ⟨c :: front, rest, rfl, h⟩
    · rintro ⟨front, rest, heq, h⟩
      cases front with
      | nil => exact .inl (heq ▸ h)
      | cons d front =>
        cases heq
        exact .inr ⟨front, rest, rfl, h⟩

/-- Any other token takes one character. -/
theorem accepts_cons_iff (ht : t ≠ .run) : accepts (t :: pattern) text = true ↔
    ∃ c rest, text = c :: rest ∧ t.admits c = true ∧ accepts pattern rest = true := by
  simp only [accepts_eq, List.foldr_cons]
  cases text with
  | nil => simp [Token.andThen, ht]
  | cons c cs =>
    simp only [Token.andThen, ht, if_false, Bool.and_eq_true, List.cons.injEq]
    exact ⟨fun h => ⟨c, cs, ⟨rfl, rfl⟩, h⟩, by rintro ⟨_, _, ⟨rfl, rfl⟩, h⟩; exact h⟩

theorem accepts_any_iff : accepts (.any :: pattern) text = true ↔
    ∃ c rest, text = c :: rest ∧ accepts pattern rest = true := by
  rw [accepts_cons_iff (t := .any) nofun]
  simp [Token.admits]

theorem accepts_literal_iff {c : Char} : accepts (.literal c :: pattern) text = true ↔
    ∃ rest, text = c :: rest ∧ accepts pattern rest = true := by
  rw [accepts_cons_iff (t := .literal c) nofun]
  constructor
  · rintro ⟨d, rest, rfl, hd, h⟩
    obtain rfl : d = c := by simpa [Token.admits] using hd
    exact ⟨rest, rfl, h⟩
  · rintro ⟨rest, rfl, h⟩
    exact ⟨c, rest, rfl, by simp [Token.admits], h⟩

end

-- ---------------------------------------------------------------------------
-- Patterns and their texts
-- ---------------------------------------------------------------------------

theorem setOf_ne_run (content : List Char) : setOf content ≠ .run := by
  simp only [setOf]
  split <;> simp

section
variable {cs text : List Char} {fuel : Nat}

theorem matches_of_accepts (h : accepts (tokens fuel cs) text = true) (hfuel : cs.length ≤ fuel) :
    Matches cs text := by
  fun_induction tokens fuel cs generalizing text with
  | case1 cs =>
    obtain rfl := List.eq_nil_of_length_eq_zero (Nat.le_zero.mp hfuel)
    obtain rfl := accepts_nil_iff.mp h
    exact .done
  | case2 fuel =>
    obtain rfl := accepts_nil_iff.mp h
    exact .done
  | case3 fuel cs ih =>
    obtain ⟨front, rest, rfl, hrest⟩ := accepts_run_iff.mp h
    exact .run front (ih hrest (Nat.le_of_succ_le_succ hfuel))
  | case4 fuel cs ih =>
    obtain ⟨c, rest, rfl, hrest⟩ := accepts_any_iff.mp h
    exact .any c (ih hrest (Nat.le_of_succ_le_succ hfuel))
  | case5 fuel cs content after hset ih =>
    obtain ⟨hcontent, rfl⟩ := takeSet_eq_some_iff.mp hset
    obtain ⟨c, rest, rfl, hc, hrest⟩ := (accepts_cons_iff (setOf_ne_run content)).mp h
    have hlength : after.length ≤ fuel := by
      simp only [List.length_cons, List.length_append] at hfuel
      omega
    exact .set hcontent hc (ih hrest hlength)
  | case6 fuel cs hset ih =>
    obtain ⟨rest, rfl, hrest⟩ := accepts_literal_iff.mp h
    exact .bracket (takeSet_eq_none_iff.mp hset) (ih hrest (Nat.le_of_succ_le_succ hfuel))
  | case7 fuel c cs hstar hmark hbracket ih =>
    obtain ⟨rest, rfl, hrest⟩ := accepts_literal_iff.mp h
    exact .literal (by simpa using ⟨hstar, hmark, hbracket⟩)
      (ih hrest (Nat.le_of_succ_le_succ hfuel))

theorem tokens_literal {c : Char} (h : c ∉ ['*', '?', '[']) (fuel : Nat) (cs : List Char) :
    tokens (fuel + 1) (c :: cs) = .literal c :: tokens fuel cs := by
  simp only [List.mem_cons, List.not_mem_nil, or_false, not_or] at h
  rw [tokens]
  · exact h.1
  · exact h.2.1
  · exact h.2.2

theorem accepts_of_matches (h : Matches cs text) (hfuel : cs.length ≤ fuel) :
    accepts (tokens fuel cs) text = true := by
  induction h generalizing fuel with
  | done => cases fuel <;> rfl
  | @run cs text front h ih =>
    obtain ⟨fuel, rfl⟩ := Nat.exists_eq_add_one_of_ne_zero (Nat.ne_zero_of_lt hfuel)
    exact accepts_run_iff.mpr ⟨front, text, rfl, ih (Nat.le_of_succ_le_succ hfuel)⟩
  | @any cs text c h ih =>
    obtain ⟨fuel, rfl⟩ := Nat.exists_eq_add_one_of_ne_zero (Nat.ne_zero_of_lt hfuel)
    exact accepts_any_iff.mpr ⟨c, text, rfl, ih (Nat.le_of_succ_le_succ hfuel)⟩
  | @set content cs text c hcontent hc h ih =>
    obtain ⟨fuel, rfl⟩ := Nat.exists_eq_add_one_of_ne_zero (Nat.ne_zero_of_lt hfuel)
    have hlength : cs.length ≤ fuel := by
      simp only [List.length_cons, List.length_append] at hfuel
      omega
    rw [tokens, takeSet_eq_some_iff.mpr ⟨hcontent, rfl⟩]
    exact (accepts_cons_iff (setOf_ne_run content)).mpr ⟨c, text, rfl, hc, ih hlength⟩
  | @bracket cs text hopen h ih =>
    obtain ⟨fuel, rfl⟩ := Nat.exists_eq_add_one_of_ne_zero (Nat.ne_zero_of_lt hfuel)
    rw [tokens, takeSet_eq_none_iff.mpr hopen]
    exact accepts_literal_iff.mpr ⟨text, rfl, ih (Nat.le_of_succ_le_succ hfuel)⟩
  | @literal c cs text hc h ih =>
    obtain ⟨fuel, rfl⟩ := Nat.exists_eq_add_one_of_ne_zero (Nat.ne_zero_of_lt hfuel)
    rw [tokens_literal hc]
    exact accepts_literal_iff.mpr ⟨text, rfl, ih (Nat.le_of_succ_le_succ hfuel)⟩

end

/-- The matcher accepts the texts that the pattern stands for. -/
theorem accepts_ofString_iff (pattern : String) (text : List Char) :
    accepts (ofString pattern) text = true ↔ Matches pattern.toList text := by
  have hfuel : pattern.toList.length ≤ pattern.length := Nat.le_of_eq String.length_toList
  exact ⟨fun h => matches_of_accepts h hfuel, fun h => accepts_of_matches h hfuel⟩

/-- After a star and a slash, a pattern stands for the texts that end in a slash and one of its
own texts. -/
theorem accepts_afterSlash_iff (pattern : String) (text : List Char) :
    accepts (ofString ("*/" ++ pattern)) text = true ↔
      ∃ front rest, text = front ++ '/' :: rest ∧ Matches pattern.toList rest := by
  have hlength : ("*/" ++ pattern).length = pattern.length + 1 + 1 := by
    rw [String.length_append, Nat.add_comm]
    rfl
  have htokens : ofString ("*/" ++ pattern) = .run :: .literal '/' :: ofString pattern := by
    rw [ofString, hlength, String.toList_append]
    exact congrArg (.run :: ·) (tokens_literal (c := '/') (by decide) _ _)
  rw [htokens, accepts_run_iff]
  simp only [accepts_literal_iff, accepts_ofString_iff]
  constructor
  · rintro ⟨front, _, rfl, rest, rfl, h⟩
    exact ⟨front, rest, rfl, h⟩
  · rintro ⟨front, rest, rfl, h⟩
    exact ⟨front, _, rfl, rest, rfl, h⟩

/-- A pattern of other characters than the special ones stands for itself. -/
theorem matches_plain_iff {cs text : List Char} (h : ∀ c ∈ cs, c ∉ ['*', '?', '[']) :
    Matches cs text ↔ text = cs := by
  constructor
  · intro hm
    induction hm with
    | done => rfl
    | run => exact absurd List.mem_cons_self (h '*' List.mem_cons_self)
    | any => exact absurd (by simp) (h '?' List.mem_cons_self)
    | set => exact absurd (by simp) (h '[' List.mem_cons_self)
    | bracket => exact absurd (by simp) (h '[' List.mem_cons_self)
    | literal hc hm ih => rw [ih fun c hm => h c (List.mem_cons_of_mem _ hm)]
  · rintro rfl
    induction text with
    | nil => exact .done
    | cons c cs ih =>
      exact .literal (h c List.mem_cons_self) (ih fun d hd => h d (List.mem_cons_of_mem _ hd))

/-- The path itself, or what is left of it after a slash. -/
def IsTail (p : Path) (tail : List Char) : Prop :=
  p.toString.toList = tail ∨ ∃ front, p.toString.toList = front ++ '/' :: tail

theorem covers_iff (pattern : String) (p : Path) :
    covers pattern p = true ↔ ∃ tail, IsTail p tail ∧ Matches pattern.toList tail := by
  simp only [covers, Bool.or_eq_true, accepts_afterSlash_iff]
  rw [accepts_ofString_iff]
  constructor
  · rintro (h | ⟨front, tail, heq, h⟩)
    · exact ⟨_, .inl rfl, h⟩
    · exact ⟨tail, .inr ⟨front, heq⟩, h⟩
  · rintro ⟨tail, rfl | ⟨front, heq⟩, h⟩
    · exact .inl h
    · exact .inr ⟨front, tail, heq, h⟩

/-- A pattern without special characters covers the path that it spells and the paths that end in a
slash and the pattern. -/
theorem covers_plain_iff {pattern : String} (p : Path)
    (h : ∀ c ∈ pattern.toList, c ∉ ['*', '?', '[']) :
    covers pattern p = true ↔
      p.toString = pattern ∨ ∃ front, p.toString = front ++ "/" ++ pattern := by
  rw [covers_iff]
  simp only [matches_plain_iff h, IsTail, exists_eq_right, String.toList_inj]
  refine or_congr_right ⟨?_, ?_⟩
  · rintro ⟨front, heq⟩
    refine ⟨.ofList front, String.toList_inj.mp ?_⟩
    simp [heq]
  · rintro ⟨front, heq⟩
    exact ⟨front.toList, by simp [heq]⟩

end Glob

-- ---------------------------------------------------------------------------
-- Files without stubs
-- ---------------------------------------------------------------------------

open Glob

/-- No stubs are made of a file if some pattern matches its path, or what is left of the path after
a slash. A pattern without special characters matches nothing but itself. -/
theorem excludesStub_iff (settings : Settings) (p : Path) :
    (settings.excludesStub p = true ↔ ∃ pattern ∈ settings.stubExcludes,
        ∃ tail, IsTail p tail ∧ Matches pattern.toList tail) ∧
      ∀ pattern : String, (∀ c ∈ pattern.toList, c ∉ ['*', '?', '[']) →
        ({ settings with stubExcludes := [pattern] }.excludesStub p = true ↔
          p.toString = pattern ∨ ∃ front, p.toString = front ++ "/" ++ pattern) := by
  constructor
  · simp only [Settings.excludesStub, List.any_eq_true, covers_iff]
  · intro pattern hplain
    simp only [Settings.excludesStub, List.any_cons, List.any_nil, Bool.or_false,
      covers_plain_iff p hplain]

def legacySettings : Settings where
  runtimeSupport := { anchor := .root, names := ["rt.jar"] }
  stubExcludes := ["src/legacy/*.groovy"]

def legacySource : Path where
  anchor := .root
  names := ["work", "src", "legacy", "Old.groovy"]

theorem excludesStub_iff_legacy :
    (∀ c ∈ "legacy/Old.groovy".toList, c ∉ ['*', '?', '[']) ∧
      { legacySettings with stubExcludes := ["legacy/Old.groovy"] }.excludesStub legacySource =
        true := by
  have hall : ("legacy/Old.groovy".toList.all fun c => c ∉ ['*', '?', '[']) = true := by
    decide +kernel
  have hplain : ∀ c ∈ "legacy/Old.groovy".toList, c ∉ ['*', '?', '['] :=
    fun c hc => of_decide_eq_true (List.all_eq_true.mp hall c hc)
  have hspelled : legacySource.toString = "/work/src" ++ "/" ++ "legacy/Old.groovy" := by
    decide +kernel
  exact ⟨hplain, ((excludesStub_iff legacySettings legacySource).2 _ hplain).mpr
    (.inr ⟨"/work/src", hspelled⟩)⟩

example : legacySettings.excludesStub legacySource = true := by decide +kernel

end GroovyRounds
