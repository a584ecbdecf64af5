import GroovyRounds.Proofs.Build.Incremental
import GroovyRounds.Proofs.Build.StubPlaces

/-!
# Known stubs

A round of stubs remembers of every stub which source it was made of, by the
path at which reconciling left it (`knowsStubs_of_round`). The stubs are named
after the stems of their sources, so different sources never share a path.
-/

namespace GroovyRounds

open Path

-- ---------------------------------------------------------------------------
-- Names of stubs
-- ---------------------------------------------------------------------------

/-- The last name without its suffix. -/
def Path.stem (p : Path) : String :=
  String.ofList (p.name.toList.take (p.name.toList.length - p.suffix.length))

/-- The names that lead from a stub directory to the stub of a source. -/
def stubNames (package : Path → List String) (p : Path) : List String :=
  package p ++ [p.stem ++ ".java"]

/-- The stub of a source below a directory, as the compiler reports it. -/
def stubItem (package : Path → List String) (directory : String) (p : Path) : OutputItem where
  output := directory ++ "/" ++ spellNames (stubNames package p)
  source := p.toString

section
variable {package : Path → List String} {p q : Path}

theorem stubNames_ne_nil : stubNames package p ≠ [] := by simp [stubNames]

/-- Stubs of different stems lie in different places, whatever their directories. -/
theorem stem_eq_of_stubs {directory other : Path}
    (h : directory.inside (stubNames package p) = other.inside (stubNames package q)) :
    p.stem = q.stem := by
  have hnames : directory.names ++ package p ++ [p.stem ++ ".java"] =
      other.names ++ package q ++ [q.stem ++ ".java"] := by
    simpa [inside, stubNames, List.append_assoc] using congrArg Path.names h
  have hlast := List.append_inj_right' hnames (by simp)
  simpa using hlast

theorem Path.name_mem (h : p.names ≠ []) : p.name ∈ p.names := by
  rw [name, List.getLastD_eq_getLast?, List.getLast?_eq_some_getLast h]
  exact List.getLast_mem h

/-- A stem is a part of a name. -/
theorem mem_stem {c : Char} (h : c ∈ p.stem.toList) : p.names ≠ [] ∧ c ∈ p.name.toList := by
  have hname : c ∈ p.name.toList := by
    rw [stem, String.toList_ofList] at h
    exact List.mem_of_mem_take h
  refine ⟨fun hnil => ?_, hname⟩
  rw [name, hnil] at hname
  cases hname

theorem isPlain_stubNames (hp : p.Valid) (hpackage : ∀ name ∈ package p, IsPlain name) :
    ∀ name ∈ stubNames package p, IsPlain name := by
  have hends {name : String} (hshort : name.length < ".java".length) :
      p.stem ++ ".java" ≠ name := by
    rintro rfl
    rw [String.length_append] at hshort
    omega
  intro name hm
  rcases List.mem_append.mp hm with hm | hm
  · exact hpackage name hm
  · obtain rfl := List.mem_singleton.mp hm
    refine ⟨⟨hends (by decide), hends (by decide), fun hslash => ?_⟩, hends (by decide)⟩
    rw [String.toList_append, List.mem_append] at hslash
    rcases hslash with hslash | hslash
    · obtain ⟨hnames, hslash⟩ := mem_stem hslash
      exact (hp _ (name_mem hnames)).no_slash hslash
    · exact absurd hslash (by decide)

theorem no_backslash_stubNames (hp : '\\' ∉ p.toString.toList)
    (hpackage : ∀ name ∈ package p, '\\' ∉ name.toList) :
    ∀ name ∈ stubNames package p, '\\' ∉ name.toList := by
  intro name hm
  rcases List.mem_append.mp hm with hm | hm
  · exact hpackage name hm
  · obtain rfl := List.mem_singleton.mp hm
    intro hslash
    rw [String.toList_append, List.mem_append] at hslash
    rcases hslash with hslash | hslash
    · obtain ⟨hnames, hslash⟩ := mem_stem hslash
      exact hp ((name_suffix hnames).subset hslash)
    · exact absurd hslash (by decide)

end

-- ---------------------------------------------------------------------------
-- A compiler by itself
-- ---------------------------------------------------------------------------

/-- Something the compiler does itself: no post-processor and no one else acts meanwhile. -/
def CompilerAction.IsOwn : CompilerAction → Prop
  | .emit .. | .write .. | .remove .. => True
  | .postProcess .. | .schedule .. => False

instance : DecidablePred CompilerAction.IsOwn := fun action => by
  cases action <;> unfold CompilerAction.IsOwn <;> infer_instance

/-- What is dirty, what is known of the chunks and of the source roots was left alone. -/
structure Undisturbed (before after : World) : Prop where
  tracker : after.tracker = before.tracker
  session : after.session = before.session
  tempRoots : after.tempRoots = before.tempRoots
  messages : before.messages <+: after.messages

namespace Undisturbed

variable {u v w : World}

theorem refl (w : World) : Undisturbed w w :=
  ⟨rfl, rfl, rfl, List.prefix_refl _⟩

theorem trans (h : Undisturbed u v) (h' : Undisturbed v w) : Undisturbed u w where
  tracker := h'.tracker.trans h.tracker
  session := h'.session.trans h.session
  tempRoots := h'.tempRoots.trans h.tempRoots
  messages := h.messages.trans h'.messages

instance : Std.Refl Undisturbed := ⟨refl⟩

instance : IsTrans World Undisturbed := ⟨fun _ _ _ => trans⟩

end Undisturbed

theorem Quiet.undisturbed {v w : World} (h : Quiet v w) : Undisturbed v w :=
  ⟨h.tracker, h.session, h.tempRoots, h.messages⟩

theorem undisturbed_effect {ctx : Context} {action : CompilerAction} {v w : World}
    (hown : action.IsOwn) (h : ActionEffect ctx action v w) : Undisturbed v w := by
  cases h with
  | emit => exact .refl v
  | write => exact { Undisturbed.refl v with }
  | remove => exact { Undisturbed.refl v with }
  | postProcess => exact hown.elim
  | schedule => exact hown.elim
  | unscheduled => exact hown.elim

namespace Build

open Program

variable {ctx : Context} {builder : Builder} {chunk : Chunk} {package : Path → List String}
variable {dirty : DirtyFiles} {verdict : Verdict} {u v w : World}

/-- A compiler by itself leaves the bookkeeping of the rounds alone. -/
theorem undisturbed_compileJob {job : Job} {reported : CompilerOutput}
    (hown : ∀ call files, ∀ action ∈ (ctx.compiler w.calls call files).actions, action.IsOwn)
    (h : compileJob ctx builder chunk job w = (.ok reported, v)) : Undisturbed w v := by
  obtain ⟨invocation, t, hlaunch, hrun⟩ := bind_eq_ok_iff.mp h
  have ht : w = t := by rw [← run_launch job w, hlaunch]
  subst ht
  obtain ⟨u, hran, hquiet, -⟩ := runCompiler_cases
    (fun action hm v w => undisturbed_effect (hown _ _ action hm)) hrun
  have hstarted : Undisturbed w u := ⟨hran.tracker, hran.session, hran.tempRoots, hran.messages⟩
  have hended : Undisturbed u v :=
    ⟨hquiet.tracker, hquiet.session, hquiet.tempRoots, hquiet.messages⟩
  exact hstarted.trans hended

-- ---------------------------------------------------------------------------
-- What a round of stubs knows
-- ---------------------------------------------------------------------------

/-- The compiler reported a stub of each of these sources, below the directory it was told, and
nothing that asks for a rebuild. -/
@[mk_iff] structure MakesStubs (package : Path → List String) (files : List Path)
    (compilation : Compilation) : Prop where
  reported : compilation.reported.compiled.Perm
    (files.map (stubItem package compilation.job.compilerOutput))
  no_retry : compilation.reported.shouldRetry = false

instance (package : Path → List String) (files : List Path) (compilation : Compilation) :
    Decidable (MakesStubs package files compilation) :=
  decidable_of_iff _ (makesStubs_iff package files compilation).symm

/-- Settling a job of stubs remembers where each stub came to lie. -/
theorem settleJob_stubs {job : Job} {reported : CompilerOutput} (hrole : builder.role = .stubs)
    (hretry : reported.shouldRetry = false)
    (h : settleJob ctx builder chunk job reported w = (.ok verdict, v)) :
    ∃ grouped t, reconcileAll ctx builder.name chunk job.generationOutputs job.compilerOutput
        reported.compiled .empty w = (.ok grouped, t) ∧
      t.messages <+: v.messages ∧ v.tracker = w.tracker ∧
      v.session.processors = w.session.processors ∧
      v.session.state chunk =
        (w.session.state chunk).rememberStubs grouped.values.flatten ∧ verdict = .ok := by
  obtain ⟨grouped, t, hreconcile, h⟩ := bind_eq_ok_iff.mp h
  have hquiet := (quiet_reconcileRun _ _ _ _ _ _).of_eq hreconcile
  obtain ⟨_, t', hall, hend⟩ := bind_eq_ok_iff.mp hreconcile
  obtain ⟨_, _, hname, hreturn⟩ := bind_eq_ok_iff.mp hend
  cases hreturn
  obtain ⟨-, rfl⟩ := chunkName_eq_ok_iff.mp hname
  have hescalate : (t.session.state chunk).escalate reported.shouldRetry t.tracker.forced =
      (false, t.session.state chunk) := by
    simp [ChunkState.escalate, hretry]
  rw [run_bind_of_ok (run_orderRebuild _ t), hescalate] at h
  obtain ⟨_, u, hannounce, h⟩ := bind_eq_ok_iff.mp h
  rw [run_verdictOr] at h
  have hwaits : (u.session.state chunk).needsRound builder.role = false := by
    simp [ChunkState.needsRound, hrole]
  rw [hwaits] at h
  cases h
  rcases announce_cases hannounce with ⟨-, htell⟩ | ⟨hclasses, -⟩
  · have htold := (quiet_tellAll ctx _).of_eq htell
    refine ⟨grouped, t, hall, htold.messages, ?_, ?_, ?_, rfl⟩
    · rw [htold.tracker, ← hquiet.tracker]
      rfl
    · rw [htold.session, ← hquiet.session]
      rfl
    · rw [htold.session, ← hquiet.session, withStubs, Session.state_setState, escalated,
        Session.state_setState, hescalate]
  · rw [hrole] at hclasses
    cases hclasses

/-- The sources of a round of stubs belong to targets of the chunk, and their stubs are named
apart, inside packages. -/
@[mk_iff] structure StubSources (ctx : Context) (chunk : Chunk) (package : Path → List String)
    (temp : TempRoots) (files : List Path) : Prop where
  valid : ∀ p ∈ files, p.Valid
  no_backslash : ∀ p ∈ files, '\\' ∉ p.toString.toList
  owned : ∀ p ∈ files, ∃ owner ∈ chunk.ids, ctx.project.owner? temp p = some owner
  stems : (files.map Path.stem).Nodup
  package_plain : ∀ p ∈ files, ∀ name ∈ package p, IsPlain name ∧ '\\' ∉ name.toList

instance (ctx : Context) (chunk : Chunk) (package : Path → List String) (temp : TempRoots)
    (files : List Path) : Decidable (StubSources ctx chunk package temp files) :=
  decidable_of_iff _ (stubSources_iff ctx chunk package temp files).symm

namespace StubSources

variable {temp : TempRoots} {files : List Path} {p q : Path} {target other : TargetId}
variable (h : StubSources ctx chunk package temp files) (hp : p ∈ files)
include h hp

theorem plain_names : ∀ name ∈ stubNames package p, IsPlain name :=
  isPlain_stubNames (h.valid p hp) fun name hm => (h.package_plain p hp name hm).1

theorem no_backslash_names : ∀ name ∈ stubNames package p, '\\' ∉ name.toList :=
  no_backslash_stubNames (h.no_backslash p hp) fun name hm => (h.package_plain p hp name hm).2

/-- The source of a stub is known by where the stub lies, whatever targets own them. -/
theorem eq_of_stub (hq : q ∈ files) (hapart : StubsApart ctx.project chunk)
    (ht : target ∈ chunk.ids) (ho : other ∈ chunk.ids)
    (hplace : ((ctx.project.stubPlace target).inside (stubNames package p)).toString =
      ((ctx.project.stubPlace other).inside (stubNames package q)).toString) : p = q := by
  have hread := congrArg Path.ofString hplace
  rw [hapart.ofString_stub ht (h.plain_names hp), hapart.ofString_stub ho (h.plain_names hq)]
    at hread
  exact List.inj_on_of_nodup_map h.stems hp hq (stem_eq_of_stubs hread)

end StubSources

/-- The stub of every source is known by its path, and nothing else is. -/
structure KnowsStubs (files : List Path) (stub : Path → String) (state : ChunkState) : Prop where
  unmarked : state.marked = false
  sourceOf? : ∀ compiled source, state.sourceOf? compiled = some source ↔
    source ∈ files ∧ compiled.map withSlashes = some (stub source)

/-- Where the stub of a source lies after a round. -/
def StubOf (ctx : Context) (builder : Builder) (chunk : Chunk) (package : Path → List String)
    (before after : World) (p : Path) (stub : String) : Prop :=
  ∃ owner ∈ chunk.ids, ctx.project.owner? before.tempRoots p = some owner ∧
    StubLies ctx.project builder.name (stubNames package p) owner
      (stubItem package (ctx.project.stubPlace chunk.representative.toTargetId).toString p)
      before after stub

theorem StubOf.within {s t : World} {p : Path} {stub : String}
    (h : StubOf ctx builder chunk package t u p stub) (htemp : t.tempRoots = s.tempRoots)
    (hstart : s.messages <+: t.messages) (hend : u.messages <+: v.messages) :
    StubOf ctx builder chunk package s v p stub := by
  obtain ⟨owner, hids, howner, hlies⟩ := h
  exact ⟨owner, hids, htemp ▸ howner, hlies.within hstart hend⟩

section
variable {files : List Path} {stub : Path → String} {state : ChunkState}

theorem stubSources_rememberStubs (items : List OutputItem) :
    (state.rememberStubs items).stubSources = state.stubSources.insertAll
      (items.map fun item => (withSlashes item.output, item.source)) := by
  rw [OrderedMap.insertAll, List.foldl_map]
  rfl

/-- Stubs at different paths are remembered each with its source. -/
theorem knowsStubs_rememberStubs {items : List OutputItem}
    (hitems : ∀ item, item ∈ items ↔ ∃ p ∈ files, item = ⟨stub p, p.toString⟩)
    (hvalid : ∀ p ∈ files, p.Valid) (hslashes : ∀ p ∈ files, withSlashes (stub p) = stub p)
    (hinj : ∀ p ∈ files, ∀ q ∈ files, stub p = stub q → p = q) :
    KnowsStubs files stub (({} : ChunkState).rememberStubs items) where
  unmarked := rfl
  sourceOf? compiled source := by
    have hmem (pair : String × String) :
        pair ∈ items.map (fun item => (withSlashes item.output, item.source)) ↔
          ∃ p ∈ files, pair = (stub p, p.toString) := by
      simp only [List.mem_map, hitems]
      constructor
      · rintro ⟨_, ⟨p, hp, rfl⟩, rfl⟩
        exact ⟨p, hp, by rw [hslashes p hp]⟩
      · rintro ⟨p, hp, rfl⟩
        exact ⟨_, ⟨p, hp, rfl⟩, by rw [hslashes p hp]⟩
    have hfound (key text : String) :
        (({} : ChunkState).rememberStubs items).stubSources.find? key = some text ↔
          ∃ p ∈ files, (key, text) = (stub p, p.toString) := by
      rw [stubSources_rememberStubs, OrderedMap.find?_insertAll ?_ (by simp), hmem]
      · simp
      · intro pair hpair other hother hkeys
        obtain ⟨p, hp, rfl⟩ := (hmem pair).mp hpair
        obtain ⟨q, hq, rfl⟩ := (hmem other).mp hother
        rw [hinj p hp q hq hkeys]
    cases compiled with
    | none => simp [ChunkState.sourceOf?]
    | some file =>
      simp only [ChunkState.sourceOf?, Option.bind_eq_bind, Option.bind_some, Option.map_some,
        Option.bind_eq_some_iff, hfound, Option.pure_def, Option.some.injEq, Prod.mk.injEq]
      constructor
      · rintro ⟨_, ⟨p, hp, hkey, rfl⟩, rfl⟩
        rw [ofString_toString (hvalid p hp)]
        exact ⟨hp, hkey⟩
      · rintro ⟨hp, hkey⟩
        exact ⟨_, ⟨source, hp, hkey, rfl⟩, ofString_toString (hvalid source hp)⟩

/-- Every source has one placement, and there are no others. -/
theorem exists_placement {placements : List Placement} {directory : String}
    (hvalid : ∀ p ∈ files, p.Valid) (hnodup : files.Nodup)
    (hitems : (placements.map (·.item)).Perm (files.map (stubItem package directory))) :
    ∃ placement : Path → Placement,
      (∀ p ∈ files, placement p ∈ placements ∧ (placement p).item = stubItem package directory p) ∧
      ∀ one ∈ placements, ∃ p ∈ files, one = placement p := by
  have hinj : ∀ p ∈ files, ∀ q ∈ files,
      stubItem package directory p = stubItem package directory q → p = q := by
    intro p hp q hq heq
    rw [← ofString_toString (hvalid p hp), ← ofString_toString (hvalid q hq)]
    exact congrArg (Path.ofString ∘ OutputItem.source) heq
  have hones : (placements.map (·.item)).Nodup :=
    hitems.nodup_iff.mpr (hnodup.map_on hinj)
  have hexists : ∀ p ∈ files, ∃ one ∈ placements, one.item = stubItem package directory p := by
    intro p hp
    obtain ⟨one, hone, hitem⟩ := List.mem_map.mp (hitems.mem_iff.mpr (List.mem_map_of_mem hp))
    exact ⟨one, hone, hitem⟩
  have : Nonempty Placement := ⟨⟨⟨"", ""⟩, ⟨.null, none, .production⟩, ""⟩⟩
  choose! placement hplacement using hexists
  refine ⟨placement, hplacement, fun one hone => ?_⟩
  obtain ⟨p, hp, hitem⟩ := List.mem_map.mp (hitems.subset (List.mem_map_of_mem hone))
  obtain ⟨hmem, hplaced⟩ := hplacement p hp
  exact ⟨p, hp, List.inj_on_of_nodup_map hones hone hmem (hitem.symm.trans hplaced.symm)⟩

/-- A job of stubs that is settled knows the stub of every source. -/
theorem knowsStubs_of_settleJob {job : Job} {reported : CompilerOutput}
    (hrole : builder.role = .stubs) (hapart : StubsApart ctx.project chunk)
    (houtputs : ∀ target ∈ chunk.ids,
      job.generationOutputs.find? target = some (ctx.project.stubPlace target).toString)
    (hcompiler : job.compilerOutput =
      (ctx.project.stubPlace chunk.representative.toTargetId).toString)
    (hsources : StubSources ctx chunk package w.tempRoots files) (hnodup : files.Nodup)
    (hmakes : MakesStubs package files ⟨job, reported, w⟩) (hfresh : w.session.state chunk = {})
    (h : settleJob ctx builder chunk job reported w = (.ok verdict, v)) :
    ∃ stub : Path → String,
      (∀ p ∈ files, StubOf ctx builder chunk package w v p (stub p)) ∧
      KnowsStubs files stub (v.session.state chunk) ∧
      v.tracker = w.tracker ∧ v.session.processors = w.session.processors ∧ verdict = .ok := by
  have hrep : chunk.representative.toTargetId ∈ chunk.ids := List.mem_cons_self
  obtain ⟨grouped, t, hall, hmessages, htracker, hprocessors, hstate, hverdict⟩ :=
    settleJob_stubs hrole hmakes.no_retry h
  have hperm : reported.compiled.Perm (files.map (stubItem package job.compilerOutput)) :=
    hmakes.reported
  have hitem (p : Path) : (stubItem package job.compilerOutput p).output =
      ((ctx.project.stubPlace chunk.representative.toTargetId).inside
        (stubNames package p)).toString := by
    rw [stubItem, hcompiler, toString_inside ctx.project.stubPlace_names stubNames_ne_nil]
  have hread (p : Path) (hp : p ∈ files) :
      Path.ofString (stubItem package job.compilerOutput p).source = p :=
    ofString_toString (hsources.valid p hp)
  have hreported {item : OutputItem} (hm : item ∈ reported.compiled) :
      ∃ p ∈ files, item = stubItem package job.compilerOutput p := by
    obtain ⟨p, hp, rfl⟩ := List.mem_map.mp (hperm.subset hm)
    exact ⟨p, hp, rfl⟩
  obtain ⟨placements, hitems, hgrouped, hplaced⟩ := reconcileAll_stubs
    hapart houtputs hcompiler (fun item => stubNames package (.ofString item.source))
    (fun item hm => by
      obtain ⟨p, hp, rfl⟩ := hreported hm
      rw [hread p hp]
      exact hsources.owned p hp)
    (fun item hm => by
      obtain ⟨p, hp, rfl⟩ := hreported hm
      rw [hread p hp]
      exact hsources.plain_names hp)
    (fun item hm => by
      obtain ⟨p, hp, rfl⟩ := hreported hm
      rw [hread p hp]
      exact hitem p) hall
  obtain ⟨placement, hplacement, honly⟩ :=
    exists_placement hsources.valid hnodup (hitems ▸ hperm)
  have hlies (p : Path) (hp : p ∈ files) :
      ctx.project.owner? w.tempRoots p = some (placement p).owner ∧
        (placement p).owner ∈ chunk.ids ∧ StubLies ctx.project builder.name (stubNames package p)
          (placement p).owner (stubItem package job.compilerOutput p) w v (placement p).output := by
    obtain ⟨hmem, hone⟩ := hplacement p hp
    obtain ⟨howner, hids, hlies⟩ := hplaced (placement p) hmem
    rw [hone, hread p hp] at howner hlies
    exact ⟨howner, hids, hlies.within (List.prefix_refl _) hmessages⟩
  have hplace (p : Path) (hp : p ∈ files) : ∃ target ∈ chunk.ids, (placement p).output =
      ((ctx.project.stubPlace target).inside (stubNames package p)).toString :=
    (hlies p hp).2.2.exists_place (hlies p hp).2.1 hrep (hitem p)
  refine ⟨fun p => (placement p).output, fun p hp => ?_, ?_, htracker, hprocessors, hverdict⟩
  · obtain ⟨howner, hids, hlies⟩ := hlies p hp
    exact ⟨_, hids, howner, hcompiler ▸ hlies⟩
  · rw [hstate, hfresh]
    refine knowsStubs_rememberStubs (fun item => ?_) hsources.valid (fun p hp => ?_)
      fun p hp q hq heq => ?_
    · have hempty : (OrderedMap.empty : CompiledItems).elements = [] := rfl
      rw [OrderedMap.values_flatten, (hgrouped.map _).mem_iff, hempty, List.nil_append,
        List.map_map, List.mem_map]
      constructor
      · rintro ⟨one, hone, rfl⟩
        obtain ⟨p, hp, rfl⟩ := honly one hone
        exact ⟨p, hp, by simp [Placement.placed, (hplacement p hp).2, stubItem]⟩
      · rintro ⟨p, hp, rfl⟩
        obtain ⟨hmem, hone⟩ := hplacement p hp
        exact ⟨placement p, hmem, by simp [Placement.placed, hone, stubItem]⟩
    · obtain ⟨target, ht, hout⟩ := hplace p hp
      rw [hout]
      exact hapart.withSlashes_stub ht (hsources.no_backslash_names hp) stubNames_ne_nil
    · obtain ⟨target, ht, hout⟩ := hplace p hp
      obtain ⟨other, ho, hout'⟩ := hplace q hq
      exact hsources.eq_of_stub hp hq hapart ht ho (hout ▸ hout' ▸ heq)

end

/-- After a round of stubs, the stub of every source is known by the path at which it lies. -/
theorem knowsStubs_of_round (hrole : builder.role = .stubs)
    (hapart : StubsApart ctx.project chunk)
    (hsources : StubSources ctx chunk package w.tempRoots
      (changedFiles ctx.project builder.settings builder.role dirty))
    (hown : ∀ call files, ∀ action ∈ (ctx.compiler w.calls call files).actions, action.IsOwn)
    (hmakes : changedFiles ctx.project builder.settings builder.role dirty = [] ∨
      ∃ compilation ∈ compilation? ctx builder chunk dirty w, MakesStubs package
        (changedFiles ctx.project builder.settings builder.role dirty) compilation)
    (hfresh : w.session.state chunk = {})
    (h : round ctx builder chunk dirty w = (.ok verdict, v)) :
    ∃ stub : Path → String,
      (∀ p ∈ changedFiles ctx.project builder.settings builder.role dirty,
        StubOf ctx builder chunk package w v p (stub p)) ∧
      KnowsStubs (changedFiles ctx.project builder.settings builder.role dirty) stub
        (v.session.state chunk) ∧
      v.tracker = w.tracker ∧ v.session.processors = w.session.processors := by
  obtain ⟨opening, u, hopen, hend⟩ := round_cases h
  rw [hrole] at hend
  rcases hend with ⟨rfl, rfl⟩ | ⟨files, finals, job, s, t, rfl, hprepare, hjob, htidy⟩
  · rcases openRound_cases hopen with ⟨hempty, rfl, -⟩ | ⟨hfiles, -⟩
    · rw [hempty]
      refine ⟨fun _ => "", by simp, ?_, rfl, rfl⟩
      have hstate : (stated chunk w).session.state chunk =
          ({} : ChunkState).rememberStubs [] := by
        rw [stated, Session.state_setState, hfresh]
        rfl
      rw [hstate]
      exact knowsStubs_rememberStubs (by simp) (by simp) (by simp) (by simp)
    · -- The compiler was not started.
      exfalso
      obtain ⟨compilation, hran, -⟩ := hmakes.resolve_left hfiles
      simp only [compilation?, hopen] at hran
      cases hran
  · obtain ⟨reported, mid, hcompile, hsettle⟩ := bind_eq_ok_iff.mp hjob
    have hopened := (quiet_openRound _ _ _ _).of_eq hopen
    have hprepared := (quiet_prepare _ _ _ _ _).of_eq hprepare
    have hcalls : s.calls = w.calls := hprepared.calls.trans hopened.calls
    have hcompiled := undisturbed_compileJob (hcalls ▸ hown) hcompile
    have hbefore : Undisturbed (stated chunk w) mid :=
      (hopened.undisturbed.trans hprepared.undisturbed).trans hcompiled
    obtain ⟨rfl, hfiles, -⟩ := due_of_openRound hopen
    obtain ⟨compilation, hran, hstubs⟩ := hmakes.resolve_left hfiles
    simp only [compilation?, hopen, hprepare, hcompile, Option.mem_some_iff] at hran
    subst hran
    obtain ⟨_, _, -, -, hgenerated, houtput, -⟩ := prepare_parts hprepare
    rw [hrole] at hgenerated
    have houtputs (target : TargetId) (ht : target ∈ chunk.ids) :
        job.generationOutputs.find? target = some (ctx.project.stubPlace target).toString :=
      stubOutputs_cases hapart hgenerated ht
    rw [houtputs _ List.mem_cons_self] at houtput
    have hfresh' : mid.session.state chunk = {} := by
      rw [hbefore.session, stated, Session.state_setState, hfresh]
    have htemp : mid.tempRoots = w.tempRoots := hbefore.tempRoots
    obtain ⟨stub, hstub, hknows, htracker, hprocessors, -⟩ :=
      knowsStubs_of_settleJob hrole hapart houtputs (Option.some.inj houtput).symm
        (htemp ▸ hsources) (nodup_eraseDups _) hstubs hfresh' hsettle
    obtain ⟨x, hquiet, hcleared⟩ := tidyUp_cases htidy
    rw [hrole] at hcleared
    obtain rfl : v = x := hcleared
    refine ⟨stub, fun p hp => ?_, ?_, ?_, ?_⟩
    · exact (hstub p hp).within htemp hbefore.messages hquiet.messages
    · rw [hquiet.session]
      exact hknows
    · rw [hquiet.tracker, htracker, hbefore.tracker]
      rfl
    · rw [hquiet.session, hprocessors, hbefore.session]
      rfl

end Build

end GroovyRounds
