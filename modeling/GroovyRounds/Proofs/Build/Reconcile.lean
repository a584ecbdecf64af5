import GroovyRounds.Proofs.Build.OutputPlaces
import GroovyRounds.Proofs.FileSystem.Carrying
import GroovyRounds.Proofs.Text.Utf8

/-!
# Classes come to their targets

The compiler writes the files of a run below the output of the representative.
Reconciling brings each of them to the same place below its owner's output and
leaves those of the other items alone, so after the last item every file lies
below the output of its owner (`reconcileAll_cases`).
-/

namespace GroovyRounds

open FileSystem Path

-- ---------------------------------------------------------------------------
-- Files of a run
-- ---------------------------------------------------------------------------

/-- Every source is compiled to one file below an output directory, and no file is on the way
to another. -/
structure FilesApart (file : String → List String) (sources : List String) : Prop where
  ne_nil : ∀ source ∈ sources, file source ≠ []
  plain : ∀ source ∈ sources, ∀ name ∈ file source, IsPlain name
  apart : ∀ source ∈ sources, ∀ other ∈ sources, file source <+: file other → source = other

/-- How a file below a directory is spelled. -/
def spellBelow (directory : Location) (file : List String) : String :=
  spellFolder directory ++ spellNames file

namespace Apart

variable {chunk : Chunk} {place : TargetId → Location} {target : TargetId} {file : List String}
variable (h : Apart chunk place) (ht : target ∈ chunk.ids)
include h ht

theorem no_backslash_spellBelow (hfile : ∀ name ∈ file, '\\' ∉ name.toList) :
    '\\' ∉ (spellBelow (place target) file).toList := by
  intro hm
  rw [spellBelow, String.toList_append, List.mem_append] at hm
  rcases hm with hm | hm
  · rcases mem_spellFolder hm with hslash | hm
    · exact absurd hslash (by decide)
    · exact h.no_backslash target ht hm
  · rcases mem_spellNames hm with hslash | ⟨name, hname, hm⟩
    · exact absurd hslash (by decide)
    · exact hfile name hname hm

variable (hplain : ∀ name ∈ file, IsPlain name) (hfile : file ≠ [])
include hplain

theorem plain_append : ∀ name ∈ place target ++ file, IsPlain name := by
  intro name hm
  rcases List.mem_append.mp hm with hm | hm
  · exact h.plain target ht name hm
  · exact hplain name hm

include hfile

theorem ofString_spellBelow :
    Path.ofString (spellBelow (place target) file) = below (place target ++ file) :=
  ofString_below (fun name hm => (h.plain target ht name hm).toIsComponent)
    (fun name hm => (hplain name hm).toIsComponent) hfile

theorem toString_spellBelow :
    (Path.ofString (spellBelow (place target) file)).toString = spellBelow (place target) file := by
  rw [h.ofString_spellBelow ht hplain hfile, toString_below_append _ hfile, spellBelow]

end Apart

/-- What a run makes of each source. -/
structure Making where
  /-- The names that lead from an output directory to the file. -/
  file : String → List String
  owner : String → TargetId
  content : String → List UInt8

namespace Making

/-- Where the file of a source belongs, when its owner has this place. -/
def place (making : Making) (places : TargetId → Location) (source : String) : Location :=
  places (making.owner source) ++ making.file source

/-- The file of a source below a directory. -/
def item (making : Making) (directory : Location) (source : String) : OutputItem where
  output := spellBelow directory (making.file source)
  source

/-- Adds the files of sources below the places of their owners. -/
def group (making : Making) (places : TargetId → Location) (sources : List String)
    (compiled : Build.CompiledItems) : Build.CompiledItems :=
  sources.foldl (fun compiled source =>
    compiled.alter (making.owner source) []
      (· ++ [making.item (places (making.owner source)) source])) compiled

theorem elements_group (making : Making) (places : TargetId → Location) (sources : List String) :
    (making.group places sources .empty).elements.Perm
      (sources.map fun source =>
        (making.owner source, making.item (places (making.owner source)) source)) :=
  OrderedMap.elements_pushAll _ _ sources .empty

end Making

/-- No file of a run is on the way to a file of another source, whatever the targets. -/
theorem Apart.not_on_way {chunk : Chunk} {place : TargetId → Location}
    {file : String → List String} {sources : List String} {source other : String}
    {target owner : TargetId} (h : Apart chunk place) (hapart : FilesApart file sources)
    (hsource : source ∈ sources) (hother : other ∈ sources) (hne : source ≠ other)
    (ht : target ∈ chunk.ids) (ho : owner ∈ chunk.ids) :
    ¬ place target ++ file source <+: place owner ++ file other := by
  intro hbelow
  obtain ⟨-, hfile⟩ := h.eq_of_prefix ht ho hbelow
  exact hne (hapart.apart source hsource other hother hfile)

/-- The files of other sources are neither where a file is made nor where it belongs, nor on the
way there. -/
theorem Apart.off_ways {chunk : Chunk} {place : TargetId → Location} {making : Making}
    {sources : List String} {source other : String} {target : TargetId} (h : Apart chunk place)
    (hapart : FilesApart making.file sources) (hsource : source ∈ sources)
    (hother : other ∈ sources) (hne : source ≠ other) (howner : making.owner source ∈ chunk.ids)
    (ht : target ∈ chunk.ids) :
    (¬ place chunk.representative.toTargetId ++ making.file source <+:
      place target ++ making.file other) ∧
    (¬ making.place place source <+: place target ++ making.file other) ∧
    ¬ place target ++ making.file other <+: (making.place place source).dropLast := by
  refine ⟨h.not_on_way hapart hsource hother hne List.mem_cons_self ht,
    h.not_on_way hapart hsource hother hne howner ht, fun hbelow => ?_⟩
  exact h.not_on_way hapart hother hsource (Ne.symm hne) ht howner
    (hbelow.trans (List.dropLast_prefix _))

namespace Build

open Program

variable {ctx : Context} {builder : String} {chunk : Chunk} {outputs : OrderedMap TargetId String}
variable {place : TargetId → Location} {owner : TargetId} {names : List String}
variable {compilerOutput : String} {item result : OutputItem} {v w : World}

/-- These outputs are the directories at the places of the chunk's targets. -/
def Spells (chunk : Chunk) (place : TargetId → Location) (outputs : OrderedMap TargetId String) :
    Prop :=
  ∀ target ∈ chunk.ids, ∃ output, outputs.find? target = some output ∧
    Path.ofString output = below (place target)

/-- Folders are one way to spell directories. -/
theorem spells_of_folders (hapart : Apart chunk place)
    (h : ∀ target ∈ chunk.ids, outputs.find? target = some (spellFolder (place target))) :
    Spells chunk place outputs := fun target ht =>
  ⟨_, h target ht,
    ofString_spellFolder fun name hm => (hapart.plain target ht name hm).toIsComponent⟩

-- ---------------------------------------------------------------------------
-- One item
-- ---------------------------------------------------------------------------

section
variable (hapart : Apart chunk place) (howner : owner ∈ chunk.ids)
variable (hplain : ∀ name ∈ names, IsPlain name) (hnames : names ≠ [])
variable (houtputs : Spells chunk place outputs)
variable (hcompiler : Path.ofString compilerOutput =
  below (place chunk.representative.toTargetId))
variable (hitem : item.output = spellBelow (place chunk.representative.toTargetId) names)
include hapart howner hplain hnames houtputs hcompiler hitem

/-- Reconciling an item moves its file to the same place below the owner's output. -/
theorem run_reconcile :
    reconcile chunk owner outputs compilerOutput item w =
      if owner = chunk.representative.toTargetId then (.ok item.output, w)
      else match FileAction.moveDeep
          (below (place chunk.representative.toTargetId ++ names))
          (below (place owner ++ names)) w.files with
        | (.ok _, files) => (.ok (spellBelow (place owner) names), { w with files })
        | (.error fault, files) => (.error (.files fault), { w with files }) := by
  have hrep : chunk.representative.toTargetId ∈ chunk.ids := List.mem_cons_self
  have hmade : Path.ofString item.output =
      below (place chunk.representative.toTargetId ++ names) := by
    rw [hitem]
    exact hapart.ofString_spellBelow hrep hplain hnames
  by_cases heq : owner = chunk.representative.toTargetId
  · simp [reconcile, moveTarget?, heq]
  · obtain ⟨output, hfound, houtput⟩ := houtputs owner howner
    have htarget : moveTarget? chunk owner outputs = some output := by
      simp [moveTarget?, heq, Chunk.modules_length hapart.names howner heq, hfound]
    have hdots : ".." ∉ names := fun hm => (hplain _ hm).ne_dots rfl
    have hcorrect : correctOutput w.cwd output compilerOutput item.output =
        below (place owner ++ names) := by
      rw [correctOutput, hmade, hcompiler, houtput]
      exact congrArg (below (place owner) ++ ·) (relativeTo_inside _ hdots w.cwd)
    rw [if_neg heq]
    simp only [reconcile, htarget, run_bind, run_get, hcorrect, hmade, withFiles, run_onFiles]
    cases hmove : FileAction.moveDeep
        (below (place chunk.representative.toTargetId ++ names))
        (below (place owner ++ names)) w.files with
    | mk moved files =>
      cases moved with
      | ok _ => simp [toString_below_append _ hnames, spellBelow]
      | error fault => rfl

/-- The file of an item that was reconciled was carried to its owner's output. -/
theorem reconcile_cases {content : List UInt8} {output : String}
    (hfile : w.files.HoldsFile
      (place chunk.representative.toTargetId ++ names) content)
    (hnode : w.files.node? (place owner ++ names) ≠ some .directory)
    (h : reconcile chunk owner outputs compilerOutput item w = (.ok output, v)) :
    output = spellBelow (place owner) names ∧
      Carried (place chunk.representative.toTargetId ++ names)
        (place owner ++ names) content w.files v.files := by
  rw [run_reconcile hapart howner hplain hnames houtputs hcompiler hitem] at h
  by_cases heq : owner = chunk.representative.toTargetId
  · rw [if_pos heq] at h
    cases h
    subst heq
    exact ⟨hitem, .stay hfile⟩
  · rw [if_neg heq] at h
    have hall := hapart.plain_append howner hplain
    cases hmove : FileAction.moveDeep
        (below (place chunk.representative.toTargetId ++ names))
        (below (place owner ++ names)) w.files with
    | mk moved files =>
      rw [hmove] at h
      cases moved with
      | error fault => cases h
      | ok _ =>
        cases h
        exact ⟨rfl, carried_of_moveDeep hfile hall (by simp [hnames]) hnode hmove⟩

end

/-- An item is reconciled, or it is left where it is and a warning is told. -/
theorem reconcileItem_cases
    (h : reconcileItem ctx builder chunk owner outputs compilerOutput item w = (.ok result, v)) :
    (∃ output, reconcile chunk owner outputs compilerOutput item w = (.ok output, v) ∧
        result = { item with output }) ∨
      ∃ fault u, Quiet w u ∧ v.messages = u.messages ++ [moveWarning item owner fault builder] ∧
        result = item := by
  unfold reconcileItem at h
  obtain ⟨found, u, hattempt, h⟩ := bind_eq_ok_iff.mp h
  have hrun := attempt_eq_ok_iff.mp hattempt
  cases found with
  | ok output =>
    cases h
    exact .inl ⟨output, hrun, rfl⟩
  | error failure =>
    right
    cases failure with
    | files fault =>
      dsimp only at h
      cases hrefusal : fault.isRefusal with
      | false =>
        rw [hrefusal] at h
        cases h
      | true =>
        rw [hrefusal, if_pos rfl] at h
        obtain ⟨_, t, htell, h⟩ := bind_eq_ok_iff.mp h
        cases h
        exact ⟨fault, u, (quiet_reconcile _ _ _ _ _).of_eq hrun, messages_tell htell, rfl⟩
    | _ => cases h

-- ---------------------------------------------------------------------------
-- All items
-- ---------------------------------------------------------------------------

/-- No move of the builder failed between the two worlds: it warned of none. -/
def AllMoved (builder : String) (before after : World) : Prop :=
  ∀ item owner fault,
    moveWarning item owner fault builder ∉ after.messages.drop before.messages.length

/-- The warning of a move begins like no other message. -/
theorem allMoved_of_texts {before after : World}
    (h : ∀ message ∈ after.messages,
      ¬ Text.Utf8.encodeText "Cannot move" <+: Text.Utf8.encodeText message.text) :
    AllMoved builder before after := by
  intro item owner fault hm
  refine h _ (List.mem_of_mem_drop hm) ?_
  have hfront : "Cannot move compiled class " = "Cannot move" ++ " compiled class " := by decide
  simp only [moveWarning, hfront, Text.Utf8.encodeText_append, List.append_assoc]
  exact List.prefix_append _ _

/-- What is told between two worlds is told between earlier and later ones. -/
theorem told_within {message : Message} {s t u : World}
    (h : message ∈ u.messages.drop t.messages.length) (hstart : s.messages <+: t.messages)
    (hend : u.messages <+: v.messages) : message ∈ v.messages.drop s.messages.length := by
  refine List.drop_subset_drop_left _ hstart.length_le ?_
  obtain ⟨rest, hrest⟩ := hend
  rw [← hrest, List.drop_append]
  exact List.mem_append_left _ h

theorem AllMoved.within {s t u : World} (h : AllMoved builder s v)
    (hstart : s.messages <+: t.messages) (hend : u.messages <+: v.messages) :
    AllMoved builder t u :=
  fun item owner fault hm => h item owner fault (told_within hm hstart hend)

/-- The files of these sources lie where they belong and nowhere else, and the files of other
sources were left alone. -/
structure Reconciled (making : Making) (chunk : Chunk) (place : TargetId → Location)
    (sources todo : List String)
    (before after : FileSystem) : Prop where
  there : ∀ source ∈ todo, after.HoldsFile (making.place place source) (making.content source)
  gone : ∀ source ∈ todo, making.owner source ≠ chunk.representative.toTargetId →
    after.node? (place chunk.representative.toTargetId ++ making.file source) = none
  others : ∀ source ∈ sources, source ∉ todo → ∀ target ∈ chunk.ids,
    Untouched (place target ++ making.file source) before after

/-- The first source is carried, then the rest is reconciled. -/
theorem Reconciled.cons {making : Making} {sources todo : List String}
    {source : String} {before mid after : FileSystem} (hplaces : Apart chunk place)
    (hapart : FilesApart making.file sources) (hsources : source :: todo ⊆ sources)
    (hfirst : source ∉ todo) (howner : making.owner source ∈ chunk.ids)
    (hcarried : Carried (place chunk.representative.toTargetId ++ making.file source)
      (making.place place source) (making.content source) before mid)
    (h : Reconciled making chunk place sources todo mid after) :
    Reconciled making chunk place sources (source :: todo) before after := by
  have hrep : chunk.representative.toTargetId ∈ chunk.ids := List.mem_cons_self
  have hsource : source ∈ sources := hsources List.mem_cons_self
  have huntouched := h.others source hsource hfirst
  refine ⟨?_, ?_, ?_⟩
  · refine List.forall_mem_cons.mpr ⟨?_, h.there⟩
    exact (huntouched _ howner).holdsFile hcarried.there
  · refine List.forall_mem_cons.mpr ⟨fun hne => ?_, h.gone⟩
    rw [(huntouched _ hrep).node]
    refine hcarried.gone fun heq => hne ?_
    have hbelow : making.place place source <+:
        place chunk.representative.toTargetId ++ making.file source :=
      heq ▸ List.prefix_refl _
    exact (hplaces.eq_of_prefix howner hrep hbelow).1
  · intro other hother hnot target ht
    rw [List.mem_cons, not_or] at hnot
    obtain ⟨hstart, hgoal, hon⟩ :=
      hplaces.off_ways hapart hsource hother (Ne.symm hnot.1) howner ht
    exact (hcarried.untouched hstart hgoal hon).trans (h.others other hother hnot.2 target ht)

/-- The file of an item that is reconciled without a warning is carried to its owner's output. -/
theorem carried_of_reconcileItem {making : Making} {sources : List String} {source : String}
    (hplaces : Apart chunk place) (hapart : FilesApart making.file sources)
    (houtputs : Spells chunk place outputs)
    (hcompiler : Path.ofString compilerOutput = below (place chunk.representative.toTargetId))
    (hsource : source ∈ sources) (howner : making.owner source ∈ chunk.ids)
    (hmade : w.files.HoldsFile (place chunk.representative.toTargetId ++ making.file source)
      (making.content source))
    (hfree : w.files.node? (making.place place source) ≠ some .directory)
    (h : reconcileItem ctx builder chunk (making.owner source) outputs compilerOutput
      (making.item (place chunk.representative.toTargetId) source) w = (.ok item, v))
    (hmoved : AllMoved builder w v) :
    item = making.item (place (making.owner source)) source ∧
      Carried (place chunk.representative.toTargetId ++ making.file source)
        (making.place place source) (making.content source) w.files v.files := by
  rcases reconcileItem_cases h with ⟨output, hreconcile, rfl⟩ | ⟨fault, u, hu, hwarned, -⟩
  · obtain ⟨rfl, hcarried⟩ := reconcile_cases hplaces howner (hapart.plain source hsource)
      (hapart.ne_nil source hsource) houtputs hcompiler rfl hmade hfree hreconcile
    exact ⟨rfl, hcarried⟩
  · have hwarning : moveWarning (making.item (place chunk.representative.toTargetId) source)
        (making.owner source) fault builder ∈ v.messages.drop w.messages.length := by
      rw [hwarned, List.drop_append_of_le_length hu.messages.length_le]
      exact List.mem_append_right _ List.mem_cons_self
    exact absurd hwarning (hmoved _ _ fault)

/-- All files of a run come to the outputs of their owners. -/
theorem reconcileAll_cases {making : Making} {sources todo : List String}
    {compiled grouped : CompiledItems} (hplaces : Apart chunk place)
    (hapart : FilesApart making.file sources) (houtputs : Spells chunk place outputs)
    (hcompiler : Path.ofString compilerOutput = below (place chunk.representative.toTargetId))
    (hsources : todo ⊆ sources) (hnodup : todo.Nodup)
    (howner : ∀ source ∈ todo,
      ctx.project.owner? w.tempRoots (.ofString source) = some (making.owner source) ∧
        making.owner source ∈ chunk.ids)
    (hmade : ∀ source ∈ todo, w.files.HoldsFile
      (place chunk.representative.toTargetId ++ making.file source)
      (making.content source))
    (hfree : ∀ source ∈ todo, w.files.node? (making.place place source) ≠ some .directory)
    (h : reconcileAll ctx builder chunk outputs compilerOutput
      (todo.map (making.item (place chunk.representative.toTargetId))) compiled w =
        (.ok grouped, v))
    (hmoved : AllMoved builder w v) :
    grouped = making.group place todo compiled ∧
      Reconciled making chunk place sources todo w.files v.files := by
  induction todo generalizing compiled w with
  | nil =>
    cases h
    exact ⟨rfl, nofun, nofun, fun _ _ _ _ _ => .refl _ _⟩
  | cons source todo ih =>
    obtain ⟨hown, hids⟩ := howner source List.mem_cons_self
    have hsource : source ∈ sources := hsources List.mem_cons_self
    obtain ⟨hfirst, hnodup⟩ := List.nodup_cons.mp hnodup
    rw [List.map_cons, reconcileAll] at h
    obtain ⟨_, _, hget, h⟩ := bind_eq_ok_iff.mp h
    cases hget
    have hown' : ctx.project.owner? w.tempRoots (.ofString
        (making.item (place chunk.representative.toTargetId) source).source) =
          some (making.owner source) := hown
    simp only [hown'] at h
    obtain ⟨item, u, hitem, h⟩ := bind_eq_ok_iff.mp h
    have hquiet := (quiet_reconcileItem _ _ _ _ _ _ _).of_eq hitem
    have hrest := (quiet_reconcileAll _ _ _ _ _ _ _).of_eq h
    obtain ⟨rfl, hcarried⟩ := carried_of_reconcileItem hplaces hapart houtputs hcompiler hsource
      hids (hmade source List.mem_cons_self) (hfree source List.mem_cons_self) hitem
      (hmoved.within (List.prefix_refl _) hrest.messages)
    have huntouched {other : String} (hother : other ∈ todo) {target : TargetId}
        (ht : target ∈ chunk.ids) :
        Untouched (place target ++ making.file other) w.files u.files := by
      have hne : source ≠ other := by
        rintro rfl
        exact hfirst hother
      obtain ⟨hstart, hgoal, hon⟩ := hplaces.off_ways hapart hsource
        (hsources (List.mem_cons_of_mem _ hother)) hne hids ht
      exact hcarried.untouched hstart hgoal hon
    have hstep := ih
      (fun other hother => hsources (List.mem_cons_of_mem _ hother)) hnodup
      (fun other hother => hquiet.tempRoots ▸ howner other (List.mem_cons_of_mem _ hother))
      (fun other hother => (huntouched hother List.mem_cons_self).holdsFile
        (hmade other (List.mem_cons_of_mem _ hother)))
      (fun other hother => by
        have howned := (howner other (List.mem_cons_of_mem _ hother)).2
        rw [Making.place, (huntouched hother howned).node]
        exact hfree other (List.mem_cons_of_mem _ hother))
      h (hmoved.within hquiet.messages (List.prefix_refl _))
    obtain ⟨rfl, hreconciled⟩ := hstep
    exact ⟨rfl, .cons hplaces hapart hsources hfirst hids hcarried hreconciled⟩

end Build

end GroovyRounds
