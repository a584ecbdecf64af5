import GroovyRounds.Proofs.Compiler.Pieces
import Mathlib.Data.List.DropRight

/-!
# Line ends

An output whose carriage returns only end lines is read alike before and after
its line ends have been made one (`map_bare_lines`): each line loses at most the
carriage return that is dropped from it anyway.
-/

namespace GroovyRounds

namespace Text

-- ---------------------------------------------------------------------------
-- Lines, character by character
-- ---------------------------------------------------------------------------

theorem lines_feed_cons (cs : List Char) : lines ('\n' :: cs) = [] :: lines cs := by
  obtain ⟨piece, pieces, hcut⟩ := List.exists_cons_of_ne_nil (splitOn_ne_nil '\n' cs)
  simp only [lines, splitOn, hcut, if_true, List.getLast?_cons_cons]
  split
  · simp
  · rfl

theorem lines_cons {c : Char} (hc : c ≠ '\n') (cs : List Char) :
    lines (c :: cs) = match lines cs with
      | [] => [[c]]
      | line :: rest => (c :: line) :: rest := by
  obtain ⟨piece, pieces, hcut⟩ := List.exists_cons_of_ne_nil (splitOn_ne_nil '\n' cs)
  simp only [lines, splitOn, hcut, if_neg hc]
  cases pieces with
  | nil => cases piece <;> simp
  | cons next pieces =>
    simp only [List.getLast?_cons_cons, List.dropLast_cons_cons]
    split <;> rfl

-- ---------------------------------------------------------------------------
-- Carriage returns
-- ---------------------------------------------------------------------------

/-- Carriage returns stand only directly before line feeds. -/
def ReturnsEndLines (cs : List Char) : Prop :=
  ∀ i, cs[i]? = some '\r' → cs[i + 1]? = some '\n'

instance (cs : List Char) : Decidable (ReturnsEndLines cs) :=
  decidable_of_iff (∀ i < cs.length, cs[i]? = some '\r' → cs[i + 1]? = some '\n') <| by
    constructor
    · intro h i hi
      exact h i (List.getElem?_eq_some_iff.mp hi).1 hi
    · intro h i _
      exact h i

namespace ReturnsEndLines

variable {c : Char} {cs : List Char}

theorem tail (h : ReturnsEndLines (c :: cs)) : ReturnsEndLines cs := by
  intro i hi
  simpa using h (i + 1) (by simpa using hi)

theorem head_eq (h : ReturnsEndLines ('\r' :: cs)) : cs.head? = some '\n' := by
  simpa [List.head?_eq_getElem?] using h 0 rfl

end ReturnsEndLines

theorem unifyLineEnds_cons {c : Char} (hc : c ≠ '\r') (cs : List Char) :
    unifyLineEnds (c :: cs) = c :: unifyLineEnds cs := by
  rw [unifyLineEnds]
  · intro _ heq
    exact absurd heq hc
  · exact hc

theorem trimRight_cons {p : Char → Bool} {c : Char} (h : p c = false) (cs : List Char) :
    trimRight p (c :: cs) = c :: trimRight p cs := by
  simp only [trimRight, List.reverse_cons, List.dropWhile_append]
  split
  · next hempty => simp [List.isEmpty_iff.mp hempty, h]
  · simp

end Text

namespace CompilerOutput

open Text

theorem bare_bare (line : List Char) : bare (bare line) = bare line :=
  List.rdropWhile_idempotent _ line

@[simp] theorem bare_nil : bare [] = [] := rfl

theorem bare_cons {c : Char} (hc : c ≠ '\r') (cs : List Char) : bare (c :: cs) = c :: bare cs :=
  trimRight_cons (decide_eq_false hc) cs

theorem lineReport_bare (line : List Char) : lineReport (bare line) = lineReport line := by
  rw [lineReport, bare_bare]
  rfl

/-- The lines of a text, up to the carriage returns at their ends. -/
theorem map_bare_lines {text : List Char} (h : ReturnsEndLines text) :
    (lines text).map bare = lines (unifyLineEnds text) := by
  induction text using unifyLineEnds.induct with
  | case1 => rfl
  | case2 cs ih =>
    have hline : lines ('\r' :: '\n' :: cs) = ['\r'] :: lines cs := by
      rw [lines_cons (by decide), lines_feed_cons]
    have hbare : bare ['\r'] = [] := by decide
    rw [hline, unifyLineEnds, lines_feed_cons, List.map_cons, hbare, ih h.tail.tail]
  | case3 cs hpair ih =>
    obtain ⟨rest, hrest⟩ := List.head?_eq_some_iff.mp h.head_eq
    exact absurd hrest (hpair rest)
  | case4 c cs hpair hreturn ih =>
    have htail := ih h.tail
    rw [unifyLineEnds_cons hreturn]
    by_cases hfeed : c = '\n'
    · subst hfeed
      simp [lines_feed_cons, htail]
    · simp only [lines_cons hfeed, ← htail]
      cases lines cs with
      | nil => simp [bare_cons hreturn]
      | cons line rest => simp [bare_cons hreturn]

section Unified

variable {text : List Char} (h : ReturnsEndLines text)
include h

theorem keptLines_unifyLineEnds :
    keptLines (lines (unifyLineEnds text)) = keptLines (lines text) := by
  simp [keptLines, ← map_bare_lines h, List.filter_map, Function.comp_def, lineReport_bare,
    bare_bare]

theorem itemsIn_unifyLineEnds : itemsIn (unifyLineEnds text) = itemsIn text := by
  simp [itemsIn, ← map_bare_lines h, List.flatMap_map, lineReport_bare]

theorem diagnosticsIn_unifyLineEnds :
    diagnosticsIn (unifyLineEnds text) = diagnosticsIn text := by
  simp [diagnosticsIn, ← map_bare_lines h, List.flatMap_map, lineReport_bare]

theorem statusesIn_unifyLineEnds : statusesIn (unifyLineEnds text) = statusesIn text := by
  simp [statusesIn, ← map_bare_lines h, List.flatMap_map, lineReport_bare]

theorem exists_noGroovy_unifyLineEnds :
    (∃ line ∈ lines (unifyLineEnds text), (lineReport line).isNoGroovy = true) ↔
      ∃ line ∈ lines text, (lineReport line).isNoGroovy = true := by
  simp [← map_bare_lines h, lineReport_bare]

end Unified

-- ---------------------------------------------------------------------------
-- Two readings of one output
-- ---------------------------------------------------------------------------

/-- Two runs with these texts on their streams are told apart by nothing but the order in which
their streams took turns. -/
structure Agree (text : String → List Char) (p q : CompilerOutput) : Prop where
  errorLines : p.errorLines = q.errorLines
  errorText : p.errorText = q.errorText
  shouldRetry : p.shouldRetry = q.shouldRetry
  noGroovy : p.noGroovy = q.noGroovy
  exitCode : p.exitCode = q.exitCode
  compiled : ∀ result ∈ [p, q], Interleaves (fun stream => itemsIn (text stream)) result.compiled
  diagnostics : ∀ result ∈ [p, q],
    Interleaves (fun stream => diagnosticsIn (text stream)) result.diagnostics
  statuses : ∀ result ∈ [p, q],
    Interleaves (fun stream => statusesIn (text stream)) result.statuses

/-- Reading a text with unified line ends comes to the same as reading the text itself. -/
theorem agree_of_unified {ε : Type} {refuses : String → Option ε}
    (hrefuses : ∀ text, refuses text = none) {pieces unified : List (String × String)} (code : Int)
    (hends : ∀ stream, ReturnsEndLines (textOf stream pieces))
    (hunified : ∀ stream, textOf stream unified = unifyLineEnds (textOf stream pieces)) :
    ∃ p q, readAll refuses pieces code = (p, none) ∧ readAll refuses unified code = (q, none) ∧
      Agree (fun stream => textOf stream pieces) p q := by
  obtain ⟨_, p, hp, htaken⟩ := taken_readAll hrefuses pieces code
  obtain ⟨_, q, hq, htaken'⟩ := taken_readAll hrefuses unified code
  have hkept := keptLines_unifyLineEnds (hends errorStream)
  have herrors : p.errorLines = q.errorLines := by
    rw [htaken.errorLines_eq, htaken'.errorLines_eq, hunified, hkept]
  refine ⟨p, q, hp, hq, ?_⟩
  constructor
  case errorLines => exact herrors
  case errorText => rw [CompilerOutput.errorText, CompilerOutput.errorText, herrors]
  case shouldRetry => rw [htaken.shouldRetry_eq, htaken'.shouldRetry_eq, hunified, hkept]
  case noGroovy =>
    rw [Bool.eq_iff_iff, htaken.noGroovy_iff, htaken'.noGroovy_iff]
    simp only [hunified, exists_noGroovy_unifyLineEnds (hends _)]
  case exitCode => rw [htaken.exitCode_eq, htaken'.exitCode_eq]
  case compiled =>
    have hcompiled := htaken'.interleaves_compiled
    simp only [hunified, itemsIn_unifyLineEnds (hends _)] at hcompiled
    simpa using ⟨htaken.interleaves_compiled, hcompiled⟩
  case diagnostics =>
    have hdiagnostics := htaken'.interleaves_diagnostics
    simp only [hunified, diagnosticsIn_unifyLineEnds (hends _)] at hdiagnostics
    simpa using ⟨htaken.interleaves_diagnostics, hdiagnostics⟩
  case statuses =>
    have hstatuses := htaken'.interleaves_statuses
    simp only [hunified, statusesIn_unifyLineEnds (hends _)] at hstatuses
    simpa using ⟨htaken.interleaves_statuses, hstatuses⟩

end CompilerOutput

end GroovyRounds
