import GroovyRounds.Proofs.Build.Reconcile
import GroovyRounds.Proofs.Build.Registration

/-!
# Files that came to their targets

The files of a run, grouped by the targets they were brought to, can all be
registered if they are class files (`run_registerRound_group`).
-/

namespace GroovyRounds

open Path FileSystem

/-- What a run makes of these sources, where every source has an owner in the chunk. -/
structure Making.Fits (making : Making) (chunk : Chunk) (sources : List String) : Prop where
  owner : ∀ source ∈ sources, making.owner source ∈ chunk.ids
  apart : FilesApart making.file sources
  no_backslash : ∀ source ∈ sources, ∀ name ∈ making.file source, '\\' ∉ name.toList
  source_no_backslash : ∀ source ∈ sources, '\\' ∉ source.toList
  source_spelled : ∀ source ∈ sources, (Path.ofString source).toString = source
  class_name : ∀ source ∈ sources, ∃ name,
    ClassFile.className (making.content source) = .ok name

namespace Build

variable {ctx : Context} {builder : String} {chunk : Chunk} {making : Making}
variable {place : TargetId → Location}
variable {sources todo : List String} {w : World} {files : FileSystem} {source : String}

/-- The class that an item stands for. -/
def madeClass (making : Making) (item : OutputItem) : CompiledClass where
  output := .ofString item.output
  source := .ofString item.source
  name := ((ClassFile.className (making.content item.source)).toOption).getD ""
  content := making.content item.source

theorem mem_elements_group {element : TargetId × OutputItem} :
    element ∈ (making.group place todo .empty).elements ↔
      ∃ source ∈ todo,
        (making.owner source, making.item (place (making.owner source)) source) = element := by
  rw [(making.elements_group place todo).mem_iff, List.mem_map]

section
variable (hplaces : Apart chunk place) (hfits : making.Fits chunk sources)
include hplaces hfits

/-- A class file that lies where it belongs can be read. -/
theorem readable_item (hsource : source ∈ sources)
    (hfile : files.HoldsFile (making.place place source) (making.content source)) :
    Readable files (making.item (place (making.owner source)) source)
      (madeClass making (making.item (place (making.owner source)) source)) := by
  have howner := hfits.owner source hsource
  have hplain := hfits.apart.plain source hsource
  have houtput := hplaces.ofString_spellBelow howner hplain (hfits.apart.ne_nil source hsource)
  obtain ⟨name, hname⟩ := hfits.class_name source hsource
  refine ⟨?_, hfits.source_no_backslash source hsource, rfl, rfl, ?_, ?_⟩
  · exact hplaces.no_backslash_spellBelow howner (hfits.no_backslash source hsource)
  · change FileAction.readBytes (.ofString (spellBelow (place (making.owner source))
      (making.file source))) files = (.ok (making.content source), files)
    rw [houtput]
    exact (FileAction.readBytes_below_iff (hplaces.plain_append howner hplain)).mpr ⟨rfl, hfile⟩
  · simp [madeClass, Making.item, hname, Except.toOption]

/-- Class files that lie where they belong are all registered. -/
theorem run_registerRound_group {compiled : List Path} (htodo : todo ⊆ sources)
    (hfiles : ∀ source ∈ todo,
      w.files.HoldsFile (making.place place source) (making.content source)) :
    registerRound ctx builder compiled (making.group place todo .empty) w =
      (.ok (), registeredRound compiled (making.group place todo .empty) (madeClass making) w) := by
  refine run_registerRound fun element hm => ?_
  obtain ⟨source, hsource, rfl⟩ := mem_elements_group.mp hm
  exact readable_item hplaces hfits (htodo hsource) (hfiles source hsource)

/-- The index gets every file under its owner and its source. -/
theorem index_registeredRound_group {compiled : List Path} (htodo : todo ⊆ sources) :
    (registeredRound compiled (making.group place todo .empty) (madeClass making) w).index =
      (making.group place todo .empty).elements.foldl
        (fun index item => index.addOutput item.1 item.2.source item.2.output) w.index := by
  refine index_registeredAll _ fun element hm => ?_
  obtain ⟨source, hsource, rfl⟩ := mem_elements_group.mp hm
  have hin := htodo hsource
  exact ⟨hfits.source_spelled source hin, hplaces.toString_spellBelow (hfits.owner source hin)
    (hfits.apart.plain source hin) (hfits.apart.ne_nil source hin)⟩

end

end Build

end GroovyRounds
