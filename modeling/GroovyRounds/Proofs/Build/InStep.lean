import GroovyRounds.ClassFile.Least
import GroovyRounds.Proofs.Build.Keeping
import GroovyRounds.Proofs.Build.Registration
import GroovyRounds.Proofs.Build.Scheduling

/-!
# Registries in step

A class that can be read goes to the classes, the graph and the index, one that
cannot goes to none of them and is warned about, and neither costs another
(`entered_registerRound`). So after any rounds, graph and classes hold the same
and the index knows all of it (`registries_in_step`).
-/

namespace GroovyRounds

open Program

-- ---------------------------------------------------------------------------
-- Classes in files
-- ---------------------------------------------------------------------------

/-- The class of an item as it lies in the files, or why it cannot be read. -/
def OutputItem.classIn (item : OutputItem) (files : FileSystem) : Except Failure CompiledClass :=
  match (FileAction.readBytes (.ofString (Path.withSlashes item.output)) files).1 with
  | .error fault => .error (.files fault)
  | .ok content =>
    match ClassFile.className content with
    | .error fault => .error (.classFile fault)
    | .ok name =>
      .ok
        { output := .ofString (Path.withSlashes item.output)
          source := .ofString (Path.withSlashes item.source)
          name, content }

/-- The items whose classes can be read, with their classes, in order. -/
def readableItems (files : FileSystem) (items : List (TargetId × OutputItem)) :
    List (TargetId × OutputItem × CompiledClass) :=
  items.filterMap fun (target, item) =>
    (item.classIn files).toOption.map fun compiled => (target, item, compiled)

/-- A warning for every other item, in order. -/
def unreadableWarnings (builder : String) (files : FileSystem)
    (items : List (TargetId × OutputItem)) : List Message :=
  items.filterMap fun (_, item) =>
    match item.classIn files with
    | .ok _ => none
    | .error failure =>
      some (Build.unreadableWarning item (Path.withSlashes item.source) failure builder)

/-- What the graph is given of a class. -/
def OutputItem.association (item : OutputItem) (compiled : CompiledClass) : Association where
  output := Path.withSlashes item.output
  source := Path.withSlashes item.source
  content := compiled.content

-- ---------------------------------------------------------------------------
-- Items entered
-- ---------------------------------------------------------------------------

/-- Between the two worlds just these items were registered: those that can be read went to the
three registries, each other one was warned about, and all count as compiled. -/
structure Entered (builder : String) (items : List (TargetId × OutputItem))
    (before after : World) : Prop where
  files : after.files = before.files
  classes : after.classes = (readableItems before.files items).foldl
    (fun classes (target, _, compiled) => classes.alter target [] (· ++ [compiled])) before.classes
  graph : after.graph = before.graph ++ (readableItems before.files items).map
    fun (_, item, compiled) => item.association compiled
  index : after.index = (readableItems before.files items).foldl
    (fun index (target, _, compiled) =>
      index.addOutput target compiled.source.toString compiled.output.toString) before.index
  messages : after.messages = before.messages ++ unreadableWarnings builder before.files items
  succeeded : after.tracker.succeeded = before.tracker.succeeded ++
    items.map fun (_, item) => Path.ofString (Path.withSlashes item.source)
  toCompile : after.tracker.toCompile = before.tracker.toCompile

namespace Entered

variable {builder : String} {items more : List (TargetId × OutputItem)} {u v w : World}

theorem nil (builder : String) (w : World) : Entered builder [] w w where
  files := rfl
  classes := rfl
  graph := (List.append_nil _).symm
  index := rfl
  messages := (List.append_nil _).symm
  succeeded := (List.append_nil _).symm
  toCompile := rfl

theorem append (h : Entered builder items u v) (h' : Entered builder more v w) :
    Entered builder (items ++ more) u w := by
  have hreadable : readableItems u.files (items ++ more) =
      readableItems u.files items ++ readableItems u.files more := List.filterMap_append
  have hwarnings : unreadableWarnings builder u.files (items ++ more) =
      unreadableWarnings builder u.files items ++ unreadableWarnings builder u.files more :=
    List.filterMap_append
  exact
    { files := h'.files.trans h.files
      classes := by rw [h'.classes, h.classes, h.files, hreadable, List.foldl_append]
      graph := by
        rw [h'.graph, h.graph, h.files, hreadable, List.map_append, List.append_assoc]
      index := by rw [h'.index, h.index, h.files, hreadable, List.foldl_append]
      messages := by rw [h'.messages, h.messages, h.files, hwarnings, List.append_assoc]
      succeeded := by rw [h'.succeeded, h.succeeded, List.map_append, List.append_assoc]
      toCompile := h'.toCompile.trans h.toCompile }

end Entered

namespace Build

variable {ctx : Context} {builder : String} {target : TargetId} {item : OutputItem} {v w : World}

-- ---------------------------------------------------------------------------
-- Entering them
-- ---------------------------------------------------------------------------

theorem run_readClass_eq (item : OutputItem) (w : World) :
    readClass (Path.withSlashes item.output) (Path.withSlashes item.source) w =
      (item.classIn w.files, w) := by
  have hfiles : (FileAction.readBytes (.ofString (Path.withSlashes item.output)) w.files).2 =
      w.files := by
    rw [FileAction.run_readBytes]
    split <;> rfl
  unfold readClass OutputItem.classIn
  rw [run_bind, run_withFiles, hfiles]
  generalize (FileAction.readBytes (.ofString (Path.withSlashes item.output)) w.files).1 = read
  cases read with
  | error fault => rfl
  | ok content =>
    simp only [Except.mapError]
    generalize ClassFile.className content = named
    cases named <;> rfl

/-- A receiver that takes a message gets it; it may be printed besides. -/
theorem run_tell {message : Message} (h : ctx.refuses message = none) (w : World) :
    ∃ console, tell ctx message w =
      (.ok ⟨⟩, { w with messages := w.messages ++ [message], console }) := by
  unfold tell
  rw [h]
  cases ctx.echo with
  | none => exact ⟨w.console, rfl⟩
  | some verbose => exact ⟨_, rfl⟩

theorem entered_registerItem (h : ∀ message, ctx.refuses message = none) (builder : String)
    (target : TargetId) (item : OutputItem) (w : World) :
    ∃ v, registerItem ctx builder target item w = (.ok ⟨⟩, v) ∧
      Entered builder [(target, item)] w v := by
  have hread := run_readClass_eq item w
  unfold registerItem
  cases hclass : item.classIn w.files with
  | ok compiled =>
    rw [hclass] at hread
    have hregister : registerClass target (Path.withSlashes item.output)
        (Path.withSlashes item.source) w = (.ok ⟨⟩, { w.registerClass target compiled with
          graph := w.graph ++ [item.association compiled] }) := by
      rw [registerClass, run_bind_of_ok hread]
      rfl
    simp only [run_bind, run_attempt, hregister]
    refine ⟨_, rfl, rfl, ?_, ?_, ?_, ?_, rfl, rfl⟩ <;>
      simp [readableItems, unreadableWarnings, hclass, World.registerClass, Except.toOption]
  | error failure =>
    rw [hclass] at hread
    have hregister : registerClass target (Path.withSlashes item.output)
        (Path.withSlashes item.source) w = (.error failure, w) := by
      rw [registerClass, run_bind_of_error hread]
    obtain ⟨console, htell⟩ := run_tell
      (h (unreadableWarning item (Path.withSlashes item.source) failure builder)) w
    simp only [run_bind, run_attempt, hregister, htell]
    refine ⟨_, rfl, rfl, ?_, ?_, ?_, ?_, rfl, rfl⟩ <;>
      simp [readableItems, unreadableWarnings, hclass, Except.toOption]

theorem entered_registerItems (h : ∀ message, ctx.refuses message = none) (builder : String)
    (items : List (TargetId × OutputItem)) (w : World) :
    ∃ v, (items.forM fun item => registerItem ctx builder item.1 item.2) w = (.ok ⟨⟩, v) ∧
      Entered builder items w v := by
  induction items generalizing w with
  | nil => exact ⟨w, rfl, .nil builder w⟩
  | cons item items ih =>
    obtain ⟨u, hfirst, hitem⟩ := entered_registerItem h builder item.1 item.2 w
    obtain ⟨v, hrest, hitems⟩ := ih u
    exact ⟨v, (run_bind_of_ok hfirst).trans hrest, hitem.append hitems⟩

/-- Registering the items of a round comes to its end whatever lies in the files. -/
theorem entered_registerRound (h : ∀ message, ctx.refuses message = none) (builder : String)
    (files : List Path) (compiled : CompiledItems) (w : World) :
    ∃ v, registerRound ctx builder files compiled w = (.ok ⟨⟩, v) ∧
      Entered builder compiled.elements
        { w with tracker := w.tracker.registerToCompile files } v := by
  obtain ⟨v, hitems, hentered⟩ := entered_registerItems h builder compiled.elements
    { w with tracker := w.tracker.registerToCompile files }
  refine ⟨v, ?_, hentered⟩
  unfold registerRound
  rw [run_bind]
  exact (congrFun (forM_elements compiled (registerItem ctx builder)) _).trans hitems

end Build

-- ---------------------------------------------------------------------------
-- What the index lists
-- ---------------------------------------------------------------------------

/-- The output is listed under the target and the source. -/
def SourceIndex.Lists (index : SourceIndex) (target : TargetId) (source output : String) : Prop :=
  ∃ outputs, index.outputs? target source = some outputs ∧ output ∈ outputs

namespace SourceIndex

variable {index : SourceIndex} {target other : TargetId} {source source' output output' : String}

theorem lists_addOutput : (index.addOutput target source output).Lists target source output := by
  refine ⟨_, by rw [outputs?_addOutput, if_pos ⟨rfl, rfl⟩], ?_⟩
  split
  · rename_i h
    simpa using h
  · simp

/-- What is listed stays listed. -/
theorem Lists.addOutput (h : index.Lists other source' output') :
    (index.addOutput target source output).Lists other source' output' := by
  obtain ⟨outputs, hfound, hlisted⟩ := h
  by_cases hsame : other = target ∧ source' = source
  · obtain ⟨rfl, rfl⟩ := hsame
    refine ⟨_, by rw [outputs?_addOutput, if_pos ⟨rfl, rfl⟩], ?_⟩
    rw [hfound, Option.getD_some]
    split
    · exact hlisted
    · exact List.mem_append_left _ hlisted
  · exact ⟨outputs, by rw [outputs?_addOutput, if_neg hsame, hfound], hlisted⟩

end SourceIndex

-- ---------------------------------------------------------------------------
-- In step
-- ---------------------------------------------------------------------------

/-- An association with its paths as paths. -/
def Association.facts (association : Association) : Path × Path × List UInt8 :=
  (.ofString association.output, .ofString association.source, association.content)

def CompiledClass.facts (compiled : CompiledClass) : Path × Path × List UInt8 :=
  (compiled.output, compiled.source, compiled.content)

/-- The graph and the classes hold the same, and the index lists each class under its target and
its source. -/
structure InStep (w : World) : Prop where
  same : (w.graph.map (·.facts)).Perm (w.classes.elements.map (·.2.facts))
  indexed : ∀ element ∈ w.classes.elements,
    w.index.Lists element.1 element.2.source.toString element.2.output.toString

/-- If the registries were in step before, they are after. -/
def StaysInStep (before after : World) : Prop :=
  InStep before → InStep after

instance : Std.Refl StaysInStep := ⟨fun _ h => h⟩

instance : IsTrans World StaysInStep := ⟨fun _ _ _ h h' hu => h' (h hu)⟩

variable {v w : World}

theorem InStep.of_empty (hgraph : w.graph = []) (hclasses : w.classes = .empty) : InStep w where
  same := by
    rw [hgraph, hclasses]
    exact .nil
  indexed element hm := by
    rw [hclasses] at hm
    cases hm

/-- Nothing was registered in between. -/
structure SameRegistries (before after : World) : Prop where
  classes : after.classes = before.classes
  graph : after.graph = before.graph
  index : after.index = before.index

theorem SameRegistries.staysInStep (h : SameRegistries v w) : StaysInStep v w := by
  intro hv
  refine ⟨?_, ?_⟩
  · rw [h.graph, h.classes]
    exact hv.same
  · rw [h.classes, h.index]
    exact hv.indexed

theorem Quiet.sameRegistries (h : Quiet v w) : SameRegistries v w :=
  ⟨h.classes, h.graph, h.index⟩

/-- A class goes to all registries at once. -/
theorem InStep.registerClass (h : InStep w) (target : TargetId) (item : OutputItem)
    {compiled : CompiledClass} (hfacts : (item.association compiled).facts = compiled.facts) :
    InStep { w.registerClass target compiled with
      graph := w.graph ++ [item.association compiled] } := by
  have hpush := OrderedMap.elements_push w.classes target compiled
  constructor
  · have hsame := hpush.map fun element => element.2.facts
    refine List.Perm.trans ?_ hsame.symm
    rw [List.map_append, List.map_append, List.map_singleton, List.map_singleton, hfacts]
    exact h.same.append_right _
  · intro element hm
    rcases List.mem_append.mp (hpush.mem_iff.mp hm) with hold | hnew
    · exact (h.indexed element hold).addOutput
    · obtain rfl := List.mem_singleton.mp hnew
      exact SourceIndex.lists_addOutput

/-- A class is found under the paths of its item. -/
theorem OutputItem.facts_association {item : OutputItem} {files : FileSystem}
    {compiled : CompiledClass} (h : item.classIn files = .ok compiled) :
    (item.association compiled).facts = compiled.facts := by
  unfold classIn at h
  split at h
  · cases h
  · split at h
    · cases h
    · cases h
      rfl

namespace Build

variable {ctx : Context} {builder : Builder} {chunk : Chunk}

theorem staysInStep_registerItem (ctx : Context) (builder : String) (target : TargetId)
    (item : OutputItem) : Keeps StaysInStep (registerItem ctx builder target item) := by
  have hnote (p : Path) : Keeps StaysInStep (modifyTracker (·.registerSucceeded p)) :=
    Keeps.modify fun w => SameRegistries.staysInStep ⟨rfl, rfl, rfl⟩
  have hclass : Keeps StaysInStep (registerClass target (Path.withSlashes item.output)
      (Path.withSlashes item.source)) := by
    intro w
    have hread := run_readClass_eq item w
    unfold registerClass
    cases hfound : item.classIn w.files with
    | error failure =>
      rw [hfound] at hread
      rw [run_bind_of_error hread]
      exact Std.Refl.refl w
    | ok compiled =>
      rw [hfound] at hread
      rw [run_bind_of_ok hread]
      exact fun h => h.registerClass target item (OutputItem.facts_association hfound)
  unfold registerItem
  refine Keeps.bind (keeps_attempt hclass) fun result => ?_
  cases result with
  | ok _ => exact hnote _
  | error failure =>
    refine Keeps.bind ((quiet_tell ctx _).mono fun v w h => ?_) fun _ => hnote _
    exact h.sameRegistries.staysInStep

theorem staysInStep_registerRound (ctx : Context) (builder : String) (files : List Path)
    (compiled : CompiledItems) :
    Keeps StaysInStep (registerRound ctx builder files compiled) := by
  refine Keeps.bind (Keeps.modify fun w => SameRegistries.staysInStep ⟨rfl, rfl, rfl⟩) fun _ => ?_
  exact Keeps.forM fun entry _ => Keeps.forM fun item _ => staysInStep_registerItem _ _ _ _

theorem staysInStep_announce (job : Job) (messages : List Message) (compiled : CompiledItems) :
    Keeps StaysInStep (announce ctx builder chunk job messages compiled) := by
  have htold : Keeps StaysInStep (messages.forM (tell ctx)) :=
    (quiet_tellAll ctx messages).mono fun _ _ h => h.sameRegistries.staysInStep
  unfold announce
  cases builder.role with
  | stubs =>
    refine Keeps.bind (fun w => ?_) fun _ => htold
    exact SameRegistries.staysInStep ⟨rfl, rfl, rfl⟩
  | classes => exact Keeps.bind htold fun _ => staysInStep_registerRound _ _ _ _

theorem runKeeps_staysInStep (ctx : Context) : RunKeeps ctx (fun _ => True) StaysInStep where
  files _ _ h := h.quiet.sameRegistries.staysInStep
  tell message _ := (quiet_tell ctx message).mono fun _ _ h => h.sameRegistries.staysInStep
  state _ _ _ _ := SameRegistries.staysInStep ⟨rfl, rfl, rfl⟩
  calls _ _ := SameRegistries.staysInStep ⟨rfl, rfl, rfl⟩
  outputs _ _ := SameRegistries.staysInStep ⟨rfl, rfl, rfl⟩
  actions _ _ _ _ _ _ _ h :=
    have hkept := unrecorded_effect h
    SameRegistries.staysInStep ⟨hkept.classes, hkept.graph, hkept.index⟩

theorem staysInStep_round (ctx : Context) (builder : Builder) (chunk : Chunk)
    (dirty : DirtyFiles) : Keeps StaysInStep (round ctx builder chunk dirty) :=
  keeps_round_of_announce (runKeeps_staysInStep ctx) staysInStep_announce dirty

-- ---------------------------------------------------------------------------
-- Any rounds
-- ---------------------------------------------------------------------------

/-- Rounds one after another: of any builders and chunks, whatever their compilers do and however
they end. In between anything may happen that registers nothing. -/
inductive Rounded : World → World → Prop where
  | refl (w : World) : Rounded w w
  | round {v w : World} (h : Rounded v w) (ctx : Context) (builder : Builder) (chunk : Chunk)
      (dirty : DirtyFiles) : Rounded v (Build.round ctx builder chunk dirty w).2
  | between {u v w : World} (h : Rounded u v) (hsame : SameRegistries v w) : Rounded u w

theorem Rounded.staysInStep (h : Rounded v w) : StaysInStep v w := by
  induction h with
  | refl => exact Std.Refl.refl _
  | round h ctx builder chunk dirty ih =>
    exact IsTrans.trans _ _ _ ih (staysInStep_round ctx builder chunk dirty _)
  | between h hsame ih => exact IsTrans.trans _ _ _ ih hsame.staysInStep

/-- Told to a receiver that takes all messages, the items of a round are entered to the last one,
whatever lies in the files. And after any rounds that began with no class and no association, the
graph and the classes hold the same, and the index lists all of it. -/
theorem registries_in_step :
    (∀ (ctx : Context) (builder : String) (files : List Path) (compiled : CompiledItems)
        (w : World), (∀ message, ctx.refuses message = none) →
      ∃ v, registerRound ctx builder files compiled w = (.ok ⟨⟩, v) ∧
        Entered builder compiled.elements
          { w with tracker := w.tracker.registerToCompile files } v) ∧
    ∀ v w : World, v.graph = [] → v.classes = .empty → Rounded v w → InStep w := by
  constructor
  · intro ctx builder files compiled w haccepts
    exact entered_registerRound haccepts builder files compiled w
  · intro v w hgraph hclasses hrounded
    exact hrounded.staysInStep (.of_empty hgraph hclasses)

/-- A world with a class and with a source that stands for another. -/
def mixedWorld : World :=
  { soleWorld with
    files := soleWorld.files.plant ["out", "B.class"] (.file (ClassFile.least "B") false) }

def mixedItems : CompiledItems :=
  .ofList [(soleTarget.toTargetId,
    [{ output := "/src/A.groovy", source := "/src/A.groovy" },
      { output := "/out/B.class", source := "/src/B.groovy" }])]

theorem registries_in_step_mixed :
    (∃ v, registerRound schedulingContext "compiler" [] mixedItems mixedWorld = (.ok ⟨⟩, v) ∧
      v.graph = [⟨"/out/B.class", "/src/B.groovy", ClassFile.least "B"⟩] ∧
      v.messages.map (·.source) = [some "/src/A.groovy"]) ∧
    InStep (round schedulingContext (inProcessBuilder .classes) soleChunk
      [(soleTarget.toTargetId, soleSource)] soleWorld).2 := by
  constructor
  · obtain ⟨v, hrun, hentered⟩ := registries_in_step.1 schedulingContext "compiler" [] mixedItems
      mixedWorld fun _ => rfl
    refine ⟨v, hrun, ?_, ?_⟩
    · rw [hentered.graph]
      decide +kernel
    · rw [hentered.messages]
      decide +kernel
  · exact registries_in_step.2 soleWorld _ rfl rfl (.round (.refl _) _ _ _ _)

end Build

end GroovyRounds
