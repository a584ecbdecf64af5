import GroovyRounds.Text.Lines

/-!
# Cutting texts

Pieces without the separator come back from where they are cut, and a text
without the characters to be trimmed is left as it is.
-/

namespace GroovyRounds.Text

variable {sep : Char} {cs : List Char}

-- ---------------------------------------------------------------------------
-- Separators
-- ---------------------------------------------------------------------------

theorem splitOn_append_cons (h : sep ∉ cs) (more : List Char) :
    splitOn sep (cs ++ sep :: more) = cs :: splitOn sep more := by
  induction cs with
  | nil => rw [List.nil_append, splitOn, if_pos rfl]
  | cons c cs ih =>
    rw [List.mem_cons, not_or] at h
    rw [List.cons_append, splitOn, if_neg (Ne.symm h.1), ih h.2]

theorem splitOn_of_not_mem (h : sep ∉ cs) : splitOn sep cs = [cs] := by
  induction cs with
  | nil => rfl
  | cons c cs ih =>
    rw [List.mem_cons, not_or] at h
    rw [splitOn, if_neg (Ne.symm h.1), ih h.2]

/-- Whole lines are cut into the lines, and an empty rest. -/
theorem splitOn_flatMap {α : Type} {line : α → List Char} {items : List α}
    (h : ∀ item ∈ items, sep ∉ line item) :
    splitOn sep (items.flatMap fun item => line item ++ [sep]) = items.map line ++ [[]] := by
  induction items with
  | nil => rfl
  | cons item items ih =>
    obtain ⟨hitem, hrest⟩ := List.forall_mem_cons.mp h
    rw [List.flatMap_cons, List.append_assoc, List.singleton_append, splitOn_append_cons hitem,
      ih hrest]
    rfl

/-- Whole lines are the lines of their text. -/
theorem lines_flatMap {α : Type} {line : α → List Char} {items : List α}
    (h : ∀ item ∈ items, '\n' ∉ line item) :
    lines (items.flatMap fun item => line item ++ ['\n']) = items.map line := by
  rw [lines, splitOn_flatMap h, List.getLast?_concat, if_pos rfl, List.dropLast_concat]

/-- The first piece is cut off as long as a cut is left. -/
theorem splitOnAtMost_append_cons (h : sep ∉ cs) (limit : Nat) (more : List Char) :
    splitOnAtMost sep (limit + 1) (cs ++ sep :: more) = cs :: splitOnAtMost sep limit more := by
  induction cs with
  | nil => rw [List.nil_append, splitOnAtMost, if_pos rfl]
  | cons c cs ih =>
    rw [List.mem_cons, not_or] at h
    rw [List.cons_append, splitOnAtMost, if_neg (Ne.symm h.1), ih h.2]

-- ---------------------------------------------------------------------------
-- Ends
-- ---------------------------------------------------------------------------

theorem trimRight_of_none {p : Char → Bool} (h : ∀ c ∈ cs, p c = false) : trimRight p cs = cs := by
  have hdrop : cs.reverse.dropWhile p = cs.reverse := by
    cases hrev : cs.reverse with
    | nil => rfl
    | cons c rest =>
      have hc : p c = false := h c (List.mem_reverse.mp (hrev ▸ List.mem_cons_self))
      rw [List.dropWhile_cons, hc]
      rfl
  rw [trimRight, hdrop, List.reverse_reverse]

theorem trimBoth_of_none {p : Char → Bool} (h : ∀ c ∈ cs, p c = false) : trimBoth p cs = cs := by
  have hleft : trimLeft p cs = cs := by
    cases cs with
    | nil => rfl
    | cons c cs => rw [trimLeft, List.dropWhile_cons, h c List.mem_cons_self]; rfl
  rw [trimBoth, hleft, trimRight_of_none h]

theorem unifyLineEnds_of_not_mem (h : '\r' ∉ cs) : unifyLineEnds cs = cs := by
  induction cs with
  | nil => rfl
  | cons c cs ih =>
    rw [List.mem_cons, not_or] at h
    rw [unifyLineEnds, ih h.2]
    · intro _ heq
      exact absurd heq.symm h.1
    · intro heq
      exact absurd heq.symm h.1

end GroovyRounds.Text
