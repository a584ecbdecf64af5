import GroovyRounds.Compiler.Output
import GroovyRounds.Proofs.OrderedMap
import GroovyRounds.Proofs.Text.Cutting

/-!
# Reported files

A compiler that reports the files it made, a line for each, is heard as it was
meant (`feed_reports`), whether its lines arrive one by one or all at once: what
they add is the files, in their order.
-/

namespace GroovyRounds

-- ---------------------------------------------------------------------------
-- Reports of files
-- ---------------------------------------------------------------------------

/-- A text without tabs and line breaks. -/
@[mk_iff] structure IsInline (text : String) : Prop where
  ne_empty : text ≠ ""
  no_tab : '\t' ∉ text.toList
  no_feed : '\n' ∉ text.toList
  no_return : '\r' ∉ text.toList

instance (text : String) : Decidable (IsInline text) :=
  decidable_of_iff _ (isInline_iff text).symm

namespace OutputItem

/-- The line that reports a file, without its end. -/
def line (item : OutputItem) : List Char :=
  CompilerOutput.compiledMarker ++ (item.output.toList ++ '\t' :: item.source.toList)

/-- Both paths of a reported file stand on one line. -/
structure Reportable (item : OutputItem) : Prop where
  output : IsInline item.output
  source : IsInline item.source

variable {item : OutputItem}

theorem not_mem_line {c : Char} (hmarker : c ∉ CompilerOutput.compiledMarker) (htab : c ≠ '\t')
    (houtput : c ∉ item.output.toList) (hsource : c ∉ item.source.toList) : c ∉ item.line := by
  simp [line, hmarker, htab, houtput, hsource]

/-- The line of a file is read as the file. -/
theorem Reportable.readLine (h : item.Reportable) :
    CompilerOutput.readLine item.line = .compiled (some item) := by
  have hmarker : CompilerOutput.dropMarker? CompilerOutput.statusMarker item.line = none := rfl
  have hpayload : CompilerOutput.dropMarker? CompilerOutput.compiledMarker item.line =
      some (item.output.toList ++ '\t' :: item.source.toList) := rfl
  have hne {text : String} (htext : IsInline text) : text.toList.isEmpty = false := by
    simpa using htext.ne_empty
  have hitem : CompilerOutput.readItem? (item.output.toList ++ '\t' :: item.source.toList) =
      some item := by
    simp only [CompilerOutput.readItem?, Text.splitOn_append_cons h.output.no_tab,
      Text.splitOn_of_not_mem h.source.no_tab, hne h.output, hne h.source, Bool.or_self,
      Bool.false_eq_true, if_false, String.ofList_toList]
  simp only [CompilerOutput.readLine, hmarker, hpayload, hitem]

end OutputItem

namespace CompilerOutput

variable {ε : Type} {refuses : String → Option ε} {p : CompilerOutput} {item : OutputItem}
variable {items : List OutputItem} {text : String}

theorem takeLine_report (hitem : item.Reportable) (stream : String) :
    p.takeLine refuses stream item.line =
      ({ p with compiled := p.compiled ++ [item] }, none) := by
  have hbare : Text.trimRight (· = '\r') item.line = item.line := by
    refine Text.trimRight_of_none fun c hc => ?_
    rw [decide_eq_false_iff_not]
    rintro rfl
    exact OutputItem.not_mem_line (by decide) (by decide) hitem.output.no_return
      hitem.source.no_return hc
  simp only [takeLine, hbare, hitem.readLine]
  rfl

theorem takeLines_reports (hitems : ∀ item ∈ items, item.Reportable) (stream : String) :
    p.takeLines refuses stream (items.map OutputItem.line) =
      ({ p with compiled := p.compiled ++ items }, none) := by
  induction items generalizing p with
  | nil => simp [takeLines]
  | cons item items ih =>
    obtain ⟨hitem, hrest⟩ := List.forall_mem_cons.mp hitems
    rw [List.map_cons, takeLines, takeLine_report hitem]
    simp only [ih hrest, List.append_assoc, List.singleton_append]

/-- Whole lines that report files add these files. -/
theorem feed_reports (refuses : String → Option ε) (items : List OutputItem)
    (hpending : p.pending = initial.pending)
    (hitems : ∀ item ∈ items, item.Reportable)
    (htext : text.toList = items.flatMap fun item => item.line ++ ['\n']) :
    p.feed refuses outputStream text = ({ p with compiled := p.compiled ++ items }, none) := by
  have hcut : Text.splitOn '\n' ((p.pending.find? outputStream).getD [] ++ text.toList) =
      items.map OutputItem.line ++ [[]] := by
    rw [hpending, htext]
    refine Text.splitOn_flatMap fun item hm => ?_
    exact OutputItem.not_mem_line (by decide) (by decide) (hitems item hm).output.no_feed
      (hitems item hm).source.no_feed
  have hsame : p.setPending outputStream [] = p := by
    obtain ⟨pending, _⟩ := p
    subst hpending
    rfl
  simp only [feed, hcut, List.getLastD_concat, List.dropLast_concat, hsame]
  exact takeLines_reports hitems _

end CompilerOutput

end GroovyRounds
