import GroovyRounds.Proofs.Build.Grouped
import GroovyRounds.Proofs.FileSystem.Vacancy

/-!
# Moves that succeed

Where there is room for every file at the output of its owner, no move is
refused: reconciling brings all files of a run where they belong, and tells
nothing (`run_reconcileAll`).
-/

namespace GroovyRounds

open FileSystem Path

/-- Where the files of these sources come from and belong. -/
def Making.places (making : Making) (chunk : Chunk) (place : TargetId → Location)
    (sources : List String) : Set Location :=
  {goal | ∃ source ∈ sources,
    goal = place chunk.representative.toTargetId ++ making.file source ∨
      goal = making.place place source}

namespace Build

open Program

variable {ctx : Context} {builder : String} {chunk : Chunk} {outputs : OrderedMap TargetId String}
variable {place : TargetId → Location} {compilerOutput : String} {making : Making}
variable {sources todo : List String} {compiled : CompiledItems} {w : World} {source : String}

section
variable (hplaces : Apart chunk place) (hapart : FilesApart making.file sources)
variable (houtputs : Spells chunk place outputs)
variable (hcompiler : Path.ofString compilerOutput =
  below (place chunk.representative.toTargetId))
include hplaces hapart houtputs hcompiler

variable (builder) in
/-- A file is moved to its owner's output if there is room for it. -/
theorem run_reconcileItem (hsource : source ∈ sources) (howner : making.owner source ∈ chunk.ids)
    (hmade : w.files.HoldsFile (place chunk.representative.toTargetId ++ making.file source)
      (making.content source))
    (hroom : making.owner source ≠ chunk.representative.toTargetId →
      w.files.Room (making.place place source)) :
    ∃ files, reconcileItem ctx builder chunk (making.owner source) outputs compilerOutput
        (making.item (place chunk.representative.toTargetId) source) w =
          (.ok (making.item (place (making.owner source)) source), { w with files }) ∧
      Carried (place chunk.representative.toTargetId ++ making.file source)
        (making.place place source) (making.content source) w.files files := by
  obtain ⟨files, hrun, hcarried⟩ : ∃ files,
      reconcile chunk (making.owner source) outputs compilerOutput
          (making.item (place chunk.representative.toTargetId) source) w =
        (.ok (spellBelow (place (making.owner source)) (making.file source)),
          { w with files }) ∧
      Carried (place chunk.representative.toTargetId ++ making.file source)
        (making.place place source) (making.content source) w.files files := by
    rw [run_reconcile hplaces howner (hapart.plain source hsource) (hapart.ne_nil source hsource)
      houtputs hcompiler rfl]
    by_cases heq : making.owner source = chunk.representative.toTargetId
    · refine ⟨w.files, ?_, ?_⟩
      · rw [if_pos heq, heq]
        rfl
      · rw [Making.place, heq]
        exact .stay hmade
    · obtain ⟨files, hmove, hcarried⟩ := FileAction.moveDeep_of_room hmade (hroom heq)
      refine ⟨files, ?_, hcarried⟩
      rw [if_neg heq]
      rw [Making.place] at hmove
      simp only [hmove]
  refine ⟨files, ?_, hcarried⟩
  simp only [reconcileItem, run_bind, run_attempt, hrun]
  rfl

variable (builder making compiled) in
/-- All files are moved where they belong if there is room for them. -/
theorem run_reconcileAll (hsources : todo ⊆ sources) (hnodup : todo.Nodup)
    (howner : ∀ source ∈ todo,
      ctx.project.owner? w.tempRoots (.ofString source) = some (making.owner source) ∧
        making.owner source ∈ chunk.ids)
    (hmade : ∀ source ∈ todo, w.files.HoldsFile
      (place chunk.representative.toTargetId ++ making.file source) (making.content source))
    (hroom : ∀ source ∈ todo, making.owner source ≠ chunk.representative.toTargetId →
      w.files.Room (making.place place source)) :
    ∃ files, reconcileAll ctx builder chunk outputs compilerOutput
        (todo.map (making.item (place chunk.representative.toTargetId))) compiled w =
          (.ok (making.group place todo compiled), { w with files }) ∧
      Reconciled making chunk place sources todo w.files files ∧
      Contained (making.places chunk place todo) (making.places chunk place todo)
        w.files files := by
  have hrep : chunk.representative.toTargetId ∈ chunk.ids := List.mem_cons_self
  induction todo generalizing compiled w with
  | nil => exact ⟨w.files, rfl, ⟨nofun, nofun, fun _ _ _ _ _ => .refl _ _⟩, .refl _ _ _⟩
  | cons source todo ih =>
    obtain ⟨hown, hids⟩ := howner source List.mem_cons_self
    have hsource : source ∈ sources := hsources List.mem_cons_self
    obtain ⟨hfirst, hnodup⟩ := List.nodup_cons.mp hnodup
    obtain ⟨moved, hitem, hcarried⟩ := run_reconcileItem builder hplaces
      hapart houtputs hcompiler hsource hids (hmade source List.mem_cons_self)
      (hroom source List.mem_cons_self)
    have hne {other : String} (hother : other ∈ todo) : source ≠ other := by
      rintro rfl
      exact hfirst hother
    obtain ⟨files, hrest, hreconciled, hchanged⟩ := ih (w := { w with files := moved })
      (compiled.alter (making.owner source) []
        (· ++ [making.item (place (making.owner source)) source]))
      (fun other hother => hsources (List.mem_cons_of_mem _ hother)) hnodup
      (fun other hother => howner other (List.mem_cons_of_mem _ hother))
      (fun other hother => by
        obtain ⟨hstart, hgoal, hon⟩ := hplaces.off_ways hapart hsource
          (hsources (List.mem_cons_of_mem _ hother)) (hne hother) hids hrep
        exact (hcarried.untouched hstart hgoal hon).holdsFile
          (hmade other (List.mem_cons_of_mem _ hother)))
      (fun other hother hmoves => by
        have hother' := List.mem_cons_of_mem source hother
        obtain ⟨hstart, hgoal, hon⟩ := hplaces.off_ways hapart hsource (hsources hother')
          (hne hother) hids (howner other hother').2
        exact (hroom other hother' hmoves).carried hcarried hstart hgoal hon)
    refine ⟨files, ?_, .cons hplaces hapart hsources hfirst hids hcarried hreconciled, ?_⟩
    · have hown' : ctx.project.owner? w.tempRoots (.ofString
          (making.item (place chunk.representative.toTargetId) source).source) =
            some (making.owner source) := hown
      rw [List.map_cons, reconcileAll, run_bind_of_ok (run_get w)]
      simp only [hown']
      rw [run_bind_of_ok hitem]
      exact hrest
    · have hstart : place chunk.representative.toTargetId ++ making.file source ∈
          making.places chunk place (source :: todo) := ⟨source, List.mem_cons_self, .inl rfl⟩
      have hgoal : making.place place source ∈ making.places chunk place (source :: todo) :=
        ⟨source, List.mem_cons_self, .inr rfl⟩
      have hrest : making.places chunk place todo ⊆ making.places chunk place (source :: todo) := by
        rintro goal ⟨other, hother, hat⟩
        exact ⟨other, List.mem_cons_of_mem _ hother, hat⟩
      exact (Contained.of_carried hcarried hstart hgoal hgoal (List.prefix_refl _)
        (List.prefix_refl _)).trans (hchanged.mono hrest hrest)

end

end Build

end GroovyRounds
