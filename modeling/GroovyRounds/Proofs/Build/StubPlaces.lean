import GroovyRounds.Build.Round
import GroovyRounds.Proofs.Build.Reconcile

/-!
# Where stubs lie

A round of stubs gives every target a stub directory of its own
(`stubOutputs_cases`). The compiler writes all stubs to that of the
representative; reconciling leaves each of them inside the directory of its
owner, or where it is if the move is refused (`reconcileAll_stubs`).
-/

namespace GroovyRounds

open Path

variable {project : Project} {chunk : Chunk} {target : TargetId} {names : List String}

-- ---------------------------------------------------------------------------
-- Stub directories
-- ---------------------------------------------------------------------------

/-- The stub directory of a target whose module has a plain name. -/
def Project.stubPlace (project : Project) (target : TargetId) : Path :=
  project.dataRoot.inside ["groovyStubs", target.name.display, target.kind.directory]

theorem Project.stubPlace_names (project : Project) : (project.stubPlace target).names ≠ [] := by
  simp [stubPlace, inside]

/-- The modules of a chunk have different plain names, and their stub directories are spelled
without backslashes. -/
@[mk_iff] structure StubsApart (project : Project) (chunk : Chunk) : Prop where
  root_valid : project.dataRoot.Valid
  names : (chunk.ids.map (·.name)).Nodup
  plain : ∀ target ∈ chunk.ids, IsPlain target.name.display
  no_backslash : ∀ target ∈ chunk.ids, '\\' ∉ (project.stubPlace target).toString.toList

instance (project : Project) (chunk : Chunk) : Decidable (StubsApart project chunk) :=
  decidable_of_iff _ (stubsApart_iff project chunk).symm

theorem TargetKind.isComponent_directory (kind : TargetKind) : IsComponent kind.directory := by
  cases kind <;> decide

theorem Project.stubDirectory_eq {directory : Path} (hname : IsPlain target.name.display)
    (h : project.stubDirectory target = .ok directory) : directory = project.stubPlace target := by
  unfold stubDirectory at h
  split at h
  · rename_i name htext
    have hdisplay : IsComponent name.display := by
      have hplain := hname.toIsComponent
      rwa [htext] at hplain
    cases h
    rw [stubRoot, child_eq (show IsComponent "groovyStubs" by decide), child_eq hdisplay,
      child_eq target.kind.isComponent_directory, inside_inside, inside_inside, stubPlace, htext]
    rfl
  · cases h

namespace StubsApart

variable (h : StubsApart project chunk) (ht : target ∈ chunk.ids)
include h ht

theorem valid_stubPlace : (project.stubPlace target).Valid := by
  refine valid_inside h.root_valid ?_
  simp only [List.forall_mem_cons, List.not_mem_nil, false_implies, implies_true, and_true]
  exact ⟨by decide, (h.plain target ht).toIsComponent, target.kind.isComponent_directory⟩

/-- The path of a stub is read back from its text as it was. -/
theorem ofString_stub (hnames : ∀ name ∈ names, IsPlain name) :
    Path.ofString ((project.stubPlace target).inside names).toString =
      (project.stubPlace target).inside names :=
  ofString_toString
    (valid_inside (h.valid_stubPlace ht) fun name hm => (hnames name hm).toIsComponent)

/-- The path of a stub is spelled without backslashes. -/
theorem withSlashes_stub (hnames : ∀ name ∈ names, '\\' ∉ name.toList) (hne : names ≠ []) :
    withSlashes ((project.stubPlace target).inside names).toString =
      ((project.stubPlace target).inside names).toString := by
  apply withSlashes_eq
  rw [toString_inside project.stubPlace_names hne, String.append_assoc, String.toList_append,
    String.toList_append, List.mem_append, List.mem_append]
  rintro (hm | hm | hm)
  · exact h.no_backslash target ht hm
  · exact absurd hm (by decide)
  · rcases mem_spellNames hm with hslash | ⟨name, hname, hm⟩
    · exact absurd hslash (by decide)
    · exact hnames name hname hm

end StubsApart

namespace Build

open Program

variable {ctx : Context} {builder compilerOutput output : String} {outputs : Outputs}
variable {owner : TargetId} {item result : OutputItem} {items : List OutputItem}
variable {compiled grouped : CompiledItems} {u v w : World}

/-- Each target gets its stub directory, spelled with slashes. -/
theorem foldlM_stubOutputs {targets : List TargetId} {before : Outputs}
    (h : (targets.foldlM (fun outputs target => do
      let directory ← ofExcept (ctx.project.stubDirectory target)
      recreateDirectory directory
      return outputs.insert target (withSlashes directory.toString)) before : Build Outputs) w =
        (.ok outputs, v))
    (target : TargetId) :
    (target ∈ targets → ∃ directory, ctx.project.stubDirectory target = .ok directory ∧
      outputs.find? target = some (withSlashes directory.toString)) ∧
    (target ∉ targets → outputs.find? target = before.find? target) := by
  induction targets generalizing before w with
  | nil =>
    cases h
    exact ⟨nofun, fun _ => rfl⟩
  | cons first targets ih =>
    rw [List.foldlM_cons] at h
    obtain ⟨between, u, hfirst, hrest⟩ := bind_eq_ok_iff.mp h
    obtain ⟨directory, _, hfound, hmake⟩ := bind_eq_ok_iff.mp hfirst
    rw [run_ofExcept] at hfound
    have hdirectory := (Prod.mk.inj hfound).1
    obtain ⟨_, _, _, hinsert⟩ := bind_eq_ok_iff.mp hmake
    cases hinsert
    obtain ⟨hin, hout⟩ := ih hrest
    rw [OrderedMap.find?_insert] at hout
    constructor
    · intro ht
      by_cases hmem : target ∈ targets
      · exact hin hmem
      · obtain rfl := (List.mem_cons.mp ht).resolve_right hmem
        exact ⟨directory, hdirectory, (hout hmem).trans (if_pos rfl)⟩
    · intro ht
      rw [List.mem_cons, not_or] at ht
      exact (hout ht.2).trans (if_neg ht.1)

/-- The outputs of a round of stubs are the stub directories of the chunk's targets. -/
theorem stubOutputs_cases (hapart : StubsApart ctx.project chunk)
    (h : stubOutputs ctx chunk w = (.ok outputs, v)) (ht : target ∈ chunk.ids) :
    outputs.find? target = some (ctx.project.stubPlace target).toString := by
  obtain ⟨directory, hdirectory, hfound⟩ := (foldlM_stubOutputs h target).1 ht
  rw [hfound, ctx.project.stubDirectory_eq (hapart.plain target ht) hdirectory,
    withSlashes_eq (hapart.no_backslash target ht)]

-- ---------------------------------------------------------------------------
-- Placing stubs
-- ---------------------------------------------------------------------------

/-- An item, its owner, and the path at which it was left. -/
structure Placement where
  item : OutputItem
  owner : TargetId
  output : String

def Placement.placed (placement : Placement) : OutputItem :=
  { placement.item with output := placement.output }

/-- The stub that an item stands for lies inside the stub directory of its owner, or where the
compiler wrote it because the move was refused, which was told between the two worlds. -/
def StubLies (project : Project) (builder : String) (names : List String) (owner : TargetId)
    (item : OutputItem) (before after : World) (output : String) : Prop :=
  output = ((project.stubPlace owner).inside names).toString ∨
    output = item.output ∧
      ∃ fault, moveWarning item owner fault builder ∈ after.messages.drop before.messages.length

/-- In any case it lies inside the stub directory of a target. -/
theorem StubLies.exists_place {rep : TargetId} {before after : World}
    (h : StubLies project builder names owner item before after output)
    (howner : owner ∈ chunk.ids) (hrep : rep ∈ chunk.ids)
    (hitem : item.output = ((project.stubPlace rep).inside names).toString) :
    ∃ target ∈ chunk.ids, output = ((project.stubPlace target).inside names).toString := by
  rcases h with hmoved | ⟨hkept, -⟩
  · exact ⟨owner, howner, hmoved⟩
  · exact ⟨rep, hrep, hkept.trans hitem⟩

theorem StubLies.within {s t : World} (h : StubLies project builder names owner item t u output)
    (hstart : s.messages <+: t.messages) (hend : u.messages <+: v.messages) :
    StubLies project builder names owner item s v output :=
  h.imp_right fun ⟨hkept, fault, hwarned⟩ => ⟨hkept, fault, told_within hwarned hstart hend⟩

section
variable (hapart : StubsApart ctx.project chunk)
variable (houtputs : ∀ target ∈ chunk.ids,
  outputs.find? target = some (ctx.project.stubPlace target).toString)
variable (hcompiler : compilerOutput =
  (ctx.project.stubPlace chunk.representative.toTargetId).toString)
include hapart houtputs hcompiler

/-- A stub that is reconciled comes to lie inside its owner's stub directory. -/
theorem reconcile_stub (howner : owner ∈ chunk.ids) (hnames : ∀ name ∈ names, IsPlain name)
    (hitem : item.output =
      ((ctx.project.stubPlace chunk.representative.toTargetId).inside names).toString)
    (h : reconcile chunk owner outputs compilerOutput item w = (.ok output, v)) :
    output = ((ctx.project.stubPlace owner).inside names).toString := by
  have hrep : chunk.representative.toTargetId ∈ chunk.ids := List.mem_cons_self
  by_cases heq : owner = chunk.representative.toTargetId
  · have hstay : moveTarget? chunk owner outputs = none := by simp [moveTarget?, heq]
    simp only [reconcile, hstay] at h
    cases h
    rw [hitem, heq]
  · have htarget : moveTarget? chunk owner outputs =
        some (ctx.project.stubPlace owner).toString := by
      simp [moveTarget?, heq, Chunk.modules_length hapart.names howner heq, houtputs owner howner]
    have hdots : ".." ∉ names := fun hm => (hnames _ hm).ne_dots rfl
    have hcorrect (cwd : Path) : correctOutput cwd (ctx.project.stubPlace owner).toString
        compilerOutput item.output = (ctx.project.stubPlace owner).inside names := by
      rw [correctOutput, hitem, hcompiler, hapart.ofString_stub hrep hnames,
        ofString_toString (hapart.valid_stubPlace hrep),
        ofString_toString (hapart.valid_stubPlace howner), relativeTo_inside _ hdots,
        append_relative]
    simp only [reconcile, htarget] at h
    obtain ⟨_, _, hget, h⟩ := bind_eq_ok_iff.mp h
    cases hget
    obtain ⟨_, _, -, h⟩ := bind_eq_ok_iff.mp h
    cases h
    rw [hcorrect]

/-- One item: its stub comes to lie where it belongs, and nothing else is changed of it. -/
theorem reconcileItem_stub (howner : owner ∈ chunk.ids) (hnames : ∀ name ∈ names, IsPlain name)
    (hitem : item.output =
      ((ctx.project.stubPlace chunk.representative.toTargetId).inside names).toString)
    (h : reconcileItem ctx builder chunk owner outputs compilerOutput item w = (.ok result, v)) :
    result = { item with output := result.output } ∧
      StubLies ctx.project builder names owner item w v result.output := by
  rcases reconcileItem_cases h with ⟨output, hreconcile, rfl⟩ | ⟨fault, t, ht, hwarned, rfl⟩
  · exact ⟨rfl, .inl (reconcile_stub hapart houtputs hcompiler howner hnames hitem hreconcile)⟩
  · refine ⟨rfl, .inr ⟨rfl, fault, ?_⟩⟩
    rw [hwarned, List.drop_append_of_le_length ht.messages.length_le]
    exact List.mem_append_right _ (List.mem_singleton_self _)

/-- All items, one after another: every stub comes to lie where it belongs. -/
theorem reconcileAll_stubs (namesOf : OutputItem → List String)
    (howner : ∀ item ∈ items, ∃ owner ∈ chunk.ids,
      ctx.project.owner? w.tempRoots (.ofString item.source) = some owner)
    (hnames : ∀ item ∈ items, ∀ name ∈ namesOf item, IsPlain name)
    (hitem : ∀ item ∈ items, item.output =
      ((ctx.project.stubPlace chunk.representative.toTargetId).inside (namesOf item)).toString)
    (h : reconcileAll ctx builder chunk outputs compilerOutput items compiled w =
      (.ok grouped, v)) :
    ∃ placements : List Placement, placements.map (·.item) = items ∧
      grouped.elements.Perm
        (compiled.elements ++ placements.map fun one => (one.owner, one.placed)) ∧
      ∀ one ∈ placements,
        ctx.project.owner? w.tempRoots (.ofString one.item.source) = some one.owner ∧
          one.owner ∈ chunk.ids ∧
          StubLies ctx.project builder (namesOf one.item) one.owner one.item w v one.output := by
  induction items generalizing compiled w with
  | nil =>
    cases h
    exact ⟨[], rfl, by simp, nofun⟩
  | cons item items ih =>
    obtain ⟨owner, hids, hown⟩ := howner item List.mem_cons_self
    rw [reconcileAll] at h
    obtain ⟨_, _, hget, h⟩ := bind_eq_ok_iff.mp h
    cases hget
    simp only [hown] at h
    obtain ⟨result, u, hresult, h⟩ := bind_eq_ok_iff.mp h
    have hquiet := (quiet_reconcileItem _ _ _ _ _ _ _).of_eq hresult
    have hrest := (quiet_reconcileAll _ _ _ _ _ _ _).of_eq h
    obtain ⟨hplaced, hlies⟩ := reconcileItem_stub hapart houtputs hcompiler hids
      (hnames item List.mem_cons_self) (hitem item List.mem_cons_self) hresult
    obtain ⟨placements, hitems, hperm, hothers⟩ := ih
      (fun other hother => hquiet.tempRoots ▸ howner other (List.mem_cons_of_mem _ hother))
      (fun other hother => hnames other (List.mem_cons_of_mem _ hother))
      (fun other hother => hitem other (List.mem_cons_of_mem _ hother)) h
    refine ⟨⟨item, owner, result.output⟩ :: placements, by rw [List.map_cons, hitems], ?_, ?_⟩
    · have hpush := OrderedMap.elements_push compiled owner result
      refine hperm.trans ((hpush.append_right _).trans ?_)
      rw [List.append_assoc, List.singleton_append, hplaced]
      rfl
    · refine List.forall_mem_cons.mpr
        ⟨⟨hown, hids, hlies.within (List.prefix_refl _) hrest.messages⟩, fun one hone => ?_⟩
      obtain ⟨howned, hin, hother⟩ := hothers one hone
      exact ⟨hquiet.tempRoots ▸ howned, hin, hother.within hquiet.messages (List.prefix_refl _)⟩

end

end Build

end GroovyRounds
