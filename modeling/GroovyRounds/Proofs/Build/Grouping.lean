import GroovyRounds.Proofs.Build.InStep
import GroovyRounds.Proofs.Build.Relocation
import GroovyRounds.Proofs.FileSystem.Refusals
import GroovyRounds.Proofs.Groups

/-!
# Items grouped by their owners

Reconciling the items of a run comes to its end whatever lies in the files, if
no text of a path holds the zero character: an item whose move is refused keeps
its path, with a warning, and what that path leads to stays where it is
(`sound_handle`). So the items are grouped by the owners of their sources, none
is lost, and each is handled on the files that those before it left
(`reconcileRun_groups`).
-/

namespace GroovyRounds

open FileSystem Path Program

-- ---------------------------------------------------------------------------
-- One item
-- ---------------------------------------------------------------------------

/-- An item of an owner that was reconciled: the files before and after, and its path now or what
its move was refused for. -/
structure Handled where
  item : OutputItem
  owner : TargetId
  before : FileSystem
  result : Except FileFault String
  after : FileSystem

namespace Handled

/-- The item as it is grouped. If its move was refused, its path is the one it was reported at. -/
def recorded (handled : Handled) : OutputItem :=
  match handled.result with
  | .ok output => { handled.item with output }
  | .error _ => handled.item

/-- The warning about a move that was refused. -/
def warning? (builder : String) (handled : Handled) : Option Message :=
  match handled.result with
  | .ok _ => none
  | .error fault => some (Build.moveWarning handled.item handled.owner fault builder)

/-- The item was handled as reconciling it on these files is. If its move was refused, a file that
its path leads to stays, and so does a directory, unless one of the two paths ends in no name. -/
structure Sound (chunk : Chunk) (outputs : OrderedMap TargetId String) (compilerOutput : String)
    (handled : Handled) : Prop where
  run : ∀ w, w.files = handled.before →
    Build.reconcile chunk handled.owner outputs compilerOutput handled.item w =
      (handled.result.mapError .files, { w with files := handled.after })
  stays : ∀ fault place content executable, handled.result = .error fault →
    handled.before.stat (.ofString handled.item.output) =
      .ok (place, .file content executable) →
    handled.after.stat (.ofString handled.item.output) = .ok (place, .file content executable)
  kept : ∀ fault root, handled.result = .error fault →
    moveTarget? chunk handled.owner outputs = some root →
    let destination := correctOutput { anchor := .root, names := handled.before.cwd } root
      compilerOutput handled.item.output
    FileAction.Stays handled.before (.ofString handled.item.output) destination →
    Extends destination.parent handled.before handled.after

end Handled

/-- Each item was handled on the files that the one before it left. -/
def Chained : FileSystem → List Handled → FileSystem → Prop
  | files, [], final => final = files
  | files, handled :: rest, final => handled.before = files ∧ Chained handled.after rest final

namespace Build

variable {ctx : Context} {builder : String} {chunk : Chunk} {outputs : OrderedMap TargetId String}
variable {compilerOutput : String} {item : OutputItem} {owner : TargetId} {w : World}
variable {compiled : CompiledItems} {items : List OutputItem}

/-- Reconciles an item on files. -/
def handle (chunk : Chunk) (outputs : OrderedMap TargetId String) (compilerOutput : String)
    (owner : TargetId) (item : OutputItem) (files : FileSystem) : Handled :=
  match moveTarget? chunk owner outputs with
  | none => { item, owner, before := files, result := .ok item.output, after := files }
  | some root =>
    let destination :=
      correctOutput { anchor := .root, names := files.cwd } root compilerOutput item.output
    let moved := FileAction.moveDeep (.ofString item.output) destination files
    { item, owner, before := files, result := moved.1.map fun _ => destination.toString
      after := moved.2 }

@[simp] theorem item_handle (files : FileSystem) :
    (handle chunk outputs compilerOutput owner item files).item = item := by
  unfold handle
  split <;> rfl

@[simp] theorem owner_handle (files : FileSystem) :
    (handle chunk outputs compilerOutput owner item files).owner = owner := by
  unfold handle
  split <;> rfl

@[simp] theorem before_handle (files : FileSystem) :
    (handle chunk outputs compilerOutput owner item files).before = files := by
  unfold handle
  split <;> rfl

theorem cwd_handle (files : FileSystem) :
    (handle chunk outputs compilerOutput owner item files).after.cwd = files.cwd := by
  unfold handle
  split
  · rfl
  · exact FileAction.sameCwd_moveDeep _ _ files

/-- A place that a class belongs at holds the zero character only if the texts do. -/
theorem hasZero_correctOutput {cwd : Path} {root output : String} (hcwd : hasZero cwd = false)
    (hroot : Char.ofNat 0 ∉ root.toList) (houtput : Char.ofNat 0 ∉ output.toList)
    (compilerOutput : String) :
    hasZero (correctOutput cwd root compilerOutput output) = false := by
  have hread := hasZero_canonical (hasZero_ofString houtput) hcwd
  rw [correctOutput_eq, hasZero_eq_false_iff]
  rw [hasZero_eq_false_iff] at hread
  intro name hname
  rcases List.mem_append.mp hname with hname | hname
  · exact hasZero_eq_false_iff.mp (hasZero_ofString hroot) name hname
  · rcases List.mem_append.mp hname with hname | hname
    · rw [(List.mem_replicate.mp hname).2]
      decide
    · exact hread name (List.mem_of_mem_drop hname)

theorem mem_values_of_moveTarget? {root : String}
    (h : moveTarget? chunk owner outputs = some root) : root ∈ outputs.values := by
  unfold moveTarget? at h
  split at h
  · cases h
  · exact List.mem_map_of_mem (mem_of_lookup h)

theorem run_reconcile_handle (chunk : Chunk) (outputs : OrderedMap TargetId String)
    (compilerOutput : String) (owner : TargetId) (item : OutputItem) (w : World) :
    reconcile chunk owner outputs compilerOutput item w =
      ((handle chunk outputs compilerOutput owner item w.files).result.mapError .files,
        { w with files := (handle chunk outputs compilerOutput owner item w.files).after }) := by
  rw [run_reconcile_eq]
  unfold handle
  cases moveTarget? chunk owner outputs <;> rfl

section
variable {files : FileSystem}
variable (hcwd : hasZero { anchor := .root, names := files.cwd } = false)
variable (houtputs : ∀ root ∈ outputs.values, Char.ofNat 0 ∉ root.toList)
variable (hitem : Char.ofNat 0 ∉ item.output.toList)
include hcwd houtputs hitem

/-- A move that fails was refused, and all that is to stay stays. -/
theorem refused_of_handle {fault : FileFault}
    (h : (handle chunk outputs compilerOutput owner item files).result = .error fault) :
    fault.isRefusal = true ∧ ∀ root, moveTarget? chunk owner outputs = some root →
      let destination :=
        correctOutput { anchor := .root, names := files.cwd } root compilerOutput item.output
      FileAction.Stays files (.ofString item.output) destination →
      Extends destination.parent files
        (handle chunk outputs compilerOutput owner item files).after := by
  unfold handle at h ⊢
  cases htarget : moveTarget? chunk owner outputs with
  | none =>
    rw [htarget] at h
    cases h
  | some root =>
    simp only [htarget] at h ⊢
    have hroot : root ∈ outputs.values := mem_values_of_moveTarget? htarget
    have hdestination := hasZero_correctOutput hcwd (houtputs root hroot) hitem compilerOutput
    cases hmoved : FileAction.moveDeep (.ofString item.output)
        (correctOutput { anchor := .root, names := files.cwd } root compilerOutput item.output)
        files with
    | mk result after =>
      rw [hmoved] at h
      cases result with
      | ok _ => cases h
      | error found =>
        cases h
        obtain ⟨hrefusal, hextends⟩ := FileAction.moveDeep_refused (valid_ofString item.output)
          (hasZero_ofString hitem) hdestination hmoved
        refine ⟨hrefusal, fun other hother => ?_⟩
        cases hother
        exact hextends

theorem sound_handle :
    (handle chunk outputs compilerOutput owner item files).Sound chunk outputs compilerOutput := by
  have hextends {fault : FileFault} {root : String}
      (hfault : (handle chunk outputs compilerOutput owner item files).result = .error fault)
      (hroot : moveTarget? chunk owner outputs = some root) :=
    (refused_of_handle hcwd houtputs hitem hfault).2 root hroot
  constructor
  · intro w hw
    rw [before_handle] at hw
    subst hw
    rw [item_handle, owner_handle]
    exact run_reconcile_handle chunk outputs compilerOutput owner item w
  · intro fault place content executable hfault hstat
    rw [item_handle, before_handle] at hstat
    rw [item_handle]
    cases htarget : moveTarget? chunk owner outputs with
    | none =>
      unfold handle at hfault
      rw [htarget] at hfault
      cases hfault
    | some root =>
      exact (hextends hfault htarget (.inl ⟨place, content, executable, hstat⟩)).grown.stat hstat
  · intro fault root hfault hroot
    rw [owner_handle] at hroot
    rw [item_handle, before_handle]
    exact hextends hfault hroot

end

/-- An item comes to be recorded, with a warning if its move was refused. -/
theorem run_reconcileItem_handle (builder : String) (chunk : Chunk) (owner : TargetId)
    (outputs : OrderedMap TargetId String) (compilerOutput : String) (item : OutputItem)
    (haccepts : ∀ message, ctx.refuses message = none)
    (hrefused : ∀ fault, (handle chunk outputs compilerOutput owner item w.files).result =
      .error fault → fault.isRefusal = true) :
    let handled := handle chunk outputs compilerOutput owner item w.files
    ∃ console, reconcileItem ctx builder chunk owner outputs compilerOutput item w =
      (.ok handled.recorded, { w with
        files := handled.after
        messages := w.messages ++ (handled.warning? builder).toList
        console }) := by
  intro handled
  have hrun : reconcile chunk owner outputs compilerOutput item w =
      (handled.result.mapError .files, { w with files := handled.after }) :=
    run_reconcile_handle chunk outputs compilerOutput owner item w
  have hitem : handled.item = item := item_handle w.files
  have howner : handled.owner = owner := owner_handle w.files
  unfold reconcileItem Handled.recorded Handled.warning?
  rw [run_bind, run_attempt, hrun]
  cases hresult : handled.result with
  | ok output => exact ⟨w.console, by simp [Except.mapError, hitem]⟩
  | error fault =>
    have hfault := hrefused fault hresult
    obtain ⟨console, htell⟩ := run_tell (haccepts (moveWarning item owner fault builder))
      { w with files := handled.after }
    refine ⟨console, ?_⟩
    simp only [Except.mapError, hfault, if_true]
    rw [run_bind_of_ok htell]
    simp [hitem, howner]

-- ---------------------------------------------------------------------------
-- All items of a run
-- ---------------------------------------------------------------------------

/-- The items that have an owner, with it. -/
def owned (ctx : Context) (temp : TempRoots) (items : List OutputItem) :
    List (OutputItem × TargetId) :=
  items.filterMap fun item =>
    (ctx.project.owner? temp (.ofString item.source)).map fun owner => (item, owner)

/-- Adds items to the groups of their owners. -/
def recordAll (handled : List Handled) (compiled : CompiledItems) : CompiledItems :=
  handled.foldl (fun compiled one => compiled.alter one.owner [] (· ++ [one.recorded])) compiled

theorem run_reconcileAll_handled (builder : String) (chunk : Chunk) (compilerOutput : String)
    (compiled : CompiledItems) (haccepts : ∀ message, ctx.refuses message = none)
    (hcwd : hasZero w.cwd = false)
    (houtputs : ∀ root ∈ outputs.values, Char.ofNat 0 ∉ root.toList)
    (hitems : ∀ item ∈ items, Char.ofNat 0 ∉ item.output.toList) :
    ∃ handled files console,
      reconcileAll ctx builder chunk outputs compilerOutput items compiled w =
        (.ok (recordAll handled compiled), { w with
          files
          messages := w.messages ++ handled.filterMap (·.warning? builder)
          console }) ∧
      handled.map (fun one => (one.item, one.owner)) = owned ctx w.tempRoots items ∧
      Chained w.files handled files ∧
      ∀ one ∈ handled, one.Sound chunk outputs compilerOutput := by
  induction items generalizing compiled w with
  | nil =>
    refine ⟨[], w.files, w.console, ?_, rfl, rfl, List.forall_mem_nil _⟩
    rw [List.filterMap_nil, List.append_nil]
    rfl
  | cons item items ih =>
    obtain ⟨hitem, hrest⟩ := List.forall_mem_cons.mp hitems
    simp only [reconcileAll, run_bind, run_get]
    cases howner : ctx.project.owner? w.tempRoots (.ofString item.source) with
    | none =>
      have hdropped : owned ctx w.tempRoots (item :: items) = owned ctx w.tempRoots items := by
        simp [owned, howner]
      rw [hdropped]
      exact ih compiled hcwd hrest
    | some owner =>
      let one := handle chunk outputs compilerOutput owner item w.files
      have hafter : hasZero { anchor := .root, names := one.after.cwd } = false := by
        rw [cwd_handle]
        exact hcwd
      obtain ⟨console, hone⟩ := run_reconcileItem_handle builder chunk owner outputs compilerOutput
        item haccepts fun fault hfault => (refused_of_handle hcwd houtputs hitem hfault).1
      dsimp only
      rw [run_bind_of_ok hone]
      obtain ⟨handled, files, console, hrun, howned, hchained, hsound⟩ :=
        ih (compiled.alter owner [] (· ++ [one.recorded])) (w := { w with
          files := one.after
          messages := w.messages ++ (one.warning? builder).toList
          console }) hafter hrest
      refine ⟨one :: handled, files, console, ?_, ?_, ⟨before_handle w.files, hchained⟩,
        List.forall_mem_cons.mpr ⟨sound_handle hcwd houtputs hitem, hsound⟩⟩
      · have hrecorded : recordAll (one :: handled) compiled =
            recordAll handled (compiled.alter owner [] (· ++ [one.recorded])) := by
          rw [recordAll, List.foldl_cons, owner_handle]
          rfl
        have htold : w.messages ++ (one :: handled).filterMap (·.warning? builder) =
            w.messages ++ (one.warning? builder).toList ++
              handled.filterMap (·.warning? builder) := by
          cases hwarning : one.warning? builder <;> simp [hwarning]
        rw [hrecorded, htold]
        exact hrun
      · have hown : owned ctx w.tempRoots (item :: items) =
            (item, owner) :: owned ctx w.tempRoots items := by simp [owned, howner]
        rw [List.map_cons, item_handle, owner_handle, howned, hown]

/-- An item of this module, by the name of its class file. -/
def moduleItem (name file : String) : OutputItem where
  output := "/out/core/" ++ file
  source := "/src/" ++ name ++ "/" ++ file

/-- Reconciles items of the two modules. -/
def reconcilePair (chunk : Chunk) (outputs : OrderedMap TargetId String) (items : List OutputItem) :
    Build CompiledItems :=
  reconcileRun (pairContext []) classBuilder.name chunk outputs "/out/core/" items

/-- A chunk one of whose modules has a number for a name. -/
def numberedChunk : Chunk where
  representative := moduleTarget "core"
  others := [{ moduleTarget "app" with name := .integer 5 }]

/-- A class two directories below the shared output. -/
def deepWorld : World where
  files := {
    nodes := [(["out"], .directory), (["out", "core"], .directory),
      (["out", "core", "x"], .directory), (["out", "core", "x", "y"], .directory),
      (["out", "core", "x", "y", "B.class"], .file [] false)]
    cwd := [] }

end Build

end GroovyRounds
