import GroovyRounds.Compiler.ArgumentFile
import GroovyRounds.Proofs.Text.Utf8

/-!
# The text of an argument file

Every line of an argument file is written with a line feed after it
(`toList_content`), so its first lines are the front of its bytes.
-/

namespace GroovyRounds.ArgumentFile

/-- Lines as they are written. -/
def written (lines : List String) : List Char :=
  lines.flatMap fun line => line.toList ++ ['\n']

theorem written_append (front back : List String) :
    written (front ++ back) = written front ++ written back :=
  List.flatMap_append

theorem intercalate_written {lines : List String} (h : lines ≠ []) :
    List.intercalate ['\n'] (lines.map String.toList) ++ ['\n'] = written lines := by
  induction lines with
  | nil => exact absurd rfl h
  | cons line rest ih =>
    cases rest with
    | nil => simp [written, List.intercalate]
    | cons next rest =>
      rw [List.map_cons, List.map_cons, List.intercalate_cons_cons, List.append_assoc,
        ← List.map_cons, ih (List.cons_ne_nil _ _)]
      simp [written]

theorem toList_content (file : ArgumentFile) : file.content.toList = written file.lines := by
  have hlines : file.lines ≠ [] := by simp [lines]
  rw [content, String.toList_append, String.toList_intercalate]
  exact intercalate_written hlines

end GroovyRounds.ArgumentFile
