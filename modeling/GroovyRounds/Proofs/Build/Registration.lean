import GroovyRounds.Proofs.Build.Frame
import GroovyRounds.Proofs.FileSystem.Files
import GroovyRounds.Proofs.OrderedMap
import GroovyRounds.Proofs.Path

/-!
# What is registered

If every class of a round can be read, registering the round enters them all,
target by target, and nothing is warned about (`run_registerRound`). The index
then knows each output under its target and its source, and what it knew of
other sources stays (`outputs?_addOutput`).
-/

namespace GroovyRounds

open Program

-- ---------------------------------------------------------------------------
-- The index
-- ---------------------------------------------------------------------------

namespace SourceIndex

variable {index : SourceIndex} {target other : TargetId} {source source' output : String}

theorem ofTarget_setOutputs_of_ne {outputs : List String} (h : other ≠ target) :
    (index.setOutputs target source outputs).ofTarget other = index.ofTarget other := by
  simp [setOutputs, ofTarget, OrderedMap.find?_insert, h]

theorem outputs?_setOutputs {outputs : List String} :
    (index.setOutputs target source outputs).outputs? other source' =
      if other = target ∧ source' = source then some outputs else index.outputs? other source' := by
  unfold outputs?
  by_cases htarget : other = target
  · subst htarget
    rw [ofTarget_setOutputs, OrderedMap.find?_insert]
    by_cases hsource : source' = source <;> simp [hsource]
  · rw [ofTarget_setOutputs_of_ne htarget]
    simp [htarget]

theorem outputs?_addOutput :
    (index.addOutput target source output).outputs? other source' =
      if other = target ∧ source' = source then
        some (if ((index.outputs? target source).getD []).contains output
          then (index.outputs? target source).getD []
          else (index.outputs? target source).getD [] ++ [output])
      else index.outputs? other source' :=
  outputs?_setOutputs

theorem mem_sources_iff : source ∈ index.sources target ↔ index.outputs? target source ≠ none :=
  OrderedMap.mem_keys_iff

end SourceIndex

namespace Build

variable {ctx : Context} {builder : String} {w : World} {item : OutputItem}
variable {compiled : CompiledClass}

-- ---------------------------------------------------------------------------
-- Reading a class
-- ---------------------------------------------------------------------------

/-- The class of an item can be read, and this is what is read. -/
structure Readable (files : FileSystem) (item : OutputItem) (compiled : CompiledClass) :
    Prop where
  output_slashes : '\\' ∉ item.output.toList
  source_slashes : '\\' ∉ item.source.toList
  output : compiled.output = .ofString item.output
  source : compiled.source = .ofString item.source
  read : FileAction.readBytes compiled.output files = (.ok compiled.content, files)
  name : ClassFile.className compiled.content = .ok compiled.name

theorem run_readClass (h : Readable w.files item compiled) :
    readClass item.output item.source w = (.ok compiled, w) := by
  obtain ⟨output, source, name, content⟩ := compiled
  obtain ⟨-, -, rfl, rfl, hread, hname⟩ := h
  have hbytes : withFiles (FileAction.readBytes (.ofString item.output)) w = (.ok content, w) := by
    simp only [withFiles, run_bind, run_onFiles]
    rw [hread]
    rfl
  unfold readClass
  rw [run_bind_of_ok hbytes, hname]
  rfl

-- ---------------------------------------------------------------------------
-- Registering
-- ---------------------------------------------------------------------------

/-- The world in which the class of an item is registered. -/
def registered (target : TargetId) (item : OutputItem) (compiled : CompiledClass) (w : World) :
    World :=
  { w.registerClass target compiled with
    graph := w.graph ++
      [{ output := item.output, source := item.source, content := compiled.content }]
    tracker := w.tracker.registerSucceeded (.ofString item.source) }

theorem run_registerItem (target : TargetId) (h : Readable w.files item compiled) :
    registerItem ctx builder target item w = (.ok (), registered target item compiled w) := by
  unfold registerItem
  simp only [Path.withSlashes_eq h.output_slashes, Path.withSlashes_eq h.source_slashes]
  have hclass : registerClass target item.output item.source w =
      (.ok (), { registered target item compiled w with tracker := w.tracker }) := by
    unfold registerClass
    rw [run_bind_of_ok (run_readClass h)]
    rfl
  rw [run_bind, run_attempt, hclass]
  rfl

/-- The world in which the classes of all these items are registered. -/
def registeredAll (made : OutputItem → CompiledClass) (items : List (TargetId × OutputItem))
    (w : World) : World :=
  items.foldl (fun w item => registered item.1 item.2 (made item.2) w) w

theorem run_registerItems {made : OutputItem → CompiledClass}
    {items : List (TargetId × OutputItem)}
    (h : ∀ item ∈ items, Readable w.files item.2 (made item.2)) :
    (items.forM fun item => registerItem ctx builder item.1 item.2) w =
      (.ok (), registeredAll made items w) := by
  induction items generalizing w with
  | nil => rfl
  | cons item items ih =>
    refine (run_bind_of_ok (run_registerItem item.1 (h item List.mem_cons_self))).trans ?_
    exact ih fun other hother => h other (List.mem_cons_of_mem _ hother)

/-- Going through the entries of a map to lists is going through its elements. -/
theorem forM_elements {κ ν : Type} (m : OrderedMap κ (List ν)) (act : κ → ν → Build PUnit) :
    (m.entries.forM fun (k, vs) => vs.forM (act k)) =
      m.elements.forM fun element => act element.1 element.2 := by
  obtain ⟨es⟩ := m
  simp only [OrderedMap.elements, List.forM_eq_forM]
  induction es with
  | nil => rfl
  | cons e es ih =>
    rw [List.forM_cons, ih, List.flatMap_cons, List.forM_append, List.forM_map]

/-- The world in which the files of a round and its items are registered. -/
def registeredRound (files : List Path) (compiled : CompiledItems)
    (made : OutputItem → CompiledClass) (w : World) : World :=
  registeredAll made compiled.elements { w with tracker := w.tracker.registerToCompile files }

/-- All classes that can be read are registered. -/
theorem run_registerRound {files : List Path} {compiled : CompiledItems}
    {made : OutputItem → CompiledClass}
    (h : ∀ item ∈ compiled.elements, Readable w.files item.2 (made item.2)) :
    registerRound ctx builder files compiled w =
      (.ok (), registeredRound files compiled made w) := by
  unfold registerRound
  rw [run_bind]
  exact (congrFun (forM_elements compiled (registerItem ctx builder)) _).trans
    (run_registerItems h)

/-- The index gets the items as they are spelled, if they are spelled as paths are. -/
theorem index_registeredAll {made : OutputItem → CompiledClass}
    {items : List (TargetId × OutputItem)} (w : World)
    (h : ∀ item ∈ items, (made item.2).source.toString = item.2.source ∧
      (made item.2).output.toString = item.2.output) :
    (registeredAll made items w).index = items.foldl
      (fun index item => index.addOutput item.1 item.2.source item.2.output) w.index := by
  induction items generalizing w with
  | nil => rfl
  | cons item items ih =>
    obtain ⟨hsource, houtput⟩ := h item List.mem_cons_self
    have hfirst : (registered item.1 item.2 (made item.2) w).index =
        w.index.addOutput item.1 item.2.source item.2.output := by
      rw [← hsource, ← houtput]
      rfl
    rw [List.foldl_cons, ← hfirst]
    exact ih _ fun other hother => h other (List.mem_cons_of_mem _ hother)

end Build

end GroovyRounds
