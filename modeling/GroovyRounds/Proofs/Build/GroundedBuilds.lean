import GroovyRounds.Proofs.Build.Grounds

/-!
# Builds on a ground

On a ground, a chunk is built in one pass. What the build does to the tree and what
it registers depends on the sources and on what the compiler makes of them, and on
nothing that an earlier build has left (`run_buildChunk_on_ground`).
-/

namespace GroovyRounds

open FileSystem Path Program Build

variable {ctx : Context} {chunks : List Chunk} {chunk : Chunk} {cwd : Path}
variable {data temp : Location} {dirty : Chunk → DirtyFiles} {fs : FileSystem}

-- ---------------------------------------------------------------------------
-- What a chunk finds
-- ---------------------------------------------------------------------------

namespace Ground

variable (h : Ground ctx chunks cwd data temp dirty fs) (hchunk : chunk ∈ chunks)
include h hchunk

theorem usable : Usable ctx chunk cwd temp fs where
  cwd_eq := h.cwd_eq
  outputs := h.outputs chunk hchunk
  paved := h.paved
  name := by
    obtain ⟨limit, hlimit⟩ := h.name
    exact ⟨limit, hlimit chunk hchunk⟩

theorem stubsOpen : StubsOpen ctx chunk fs :=
  ⟨h.tidy.rooted, h.stubs chunk hchunk⟩

theorem found (hlayout : Layout ctx chunks cwd data temp)
    (hspell : Spellable ((dirty chunk).map (·.2))) : Found ctx chunk fs where
  look target ht root hroot := by
    rcases (h.roots chunk hchunk target ht root hroot).probe_of_rooted h.tidy.rooted with
      ⟨-, hprobe⟩ | ⟨-, -, hprobe⟩
    · exact ⟨_, hprobe⟩
    · exact ⟨_, hprobe⟩
  apart := hlayout.roots_apart
  spell := by rwa [h.sources chunk hchunk]

end Ground

-- ---------------------------------------------------------------------------
-- Stubs of earlier builds
-- ---------------------------------------------------------------------------

/-- The directory of all stubs is removed. -/
def cleanEffect (data : Location) : Effect := fun place sight =>
  sight = .nothing ∧ stubRootPlace data <+: place

theorem within_clean : (cleanEffect data).WithinBuilds chunks cwd data dirty where
  directory _ h := nomatch h.1
  file _ _ h := nomatch h.1
  nothing _ h := .inr h.2

theorem turns_clean_of_none (h : fs.Tidy) (hnone : fs.node? (stubRootPlace data) = none) :
    (cleanEffect data).Turns fs fs := by
  refine ⟨rfl, h, ?_, fun _ _ => rfl⟩
  rintro place _ ⟨rfl, hbelow⟩
  exact sight_eq_nothing_iff.mpr (h.rooted.none_below hnone hbelow)

theorem turns_clean (h : fs.Tidy) :
    (cleanEffect data).Turns fs (fs.prune (stubRootPlace data)) := by
  refine ⟨rfl, h.prune _, ?_, fun place hspares => ?_⟩
  · rintro place _ ⟨rfl, hbelow⟩
    refine sight_eq_nothing_iff.mpr (node?_prune_of_below hbelow ?_)
    rintro rfl
    exact absurd (List.prefix_nil.mp hbelow) (by simp [stubRootPlace])
  · have hbeside : ¬ stubRootPlace data <+: place := fun hbelow => hspares .nothing ⟨rfl, hbelow⟩
    exact congrArg Sight.ofNode (node?_prune_of_not_below hbeside)

theorem Layout.stubRoot_eq (h : Layout ctx chunks cwd data temp) :
    ctx.project.stubRoot = below (stubRootPlace data) := by
  rw [Project.stubRoot, h.data_root, child_eq (by decide)]
  rfl

/-- The stubs of earlier builds are removed from a ground. -/
theorem Build.run_cleanStubRoot {w : World} (hlayout : Layout ctx chunks cwd data temp)
    (hground : Ground ctx chunks cwd data temp dirty w.files) (builder : String) :
    ∃ files, cleanStubRoot ctx builder w = (.ok (), { w with files }) ∧
      (cleanEffect data).Turns w.files files := by
  have hopen := hground.stubRoot
  rw [cleanStubRoot, hlayout.stubRoot_eq]
  rcases hopen.probe_of_rooted hground.tidy.rooted with ⟨hnone, hfound⟩ | ⟨hnode, hlocate, hfound⟩
  · rw [run_bind_of_ok (run_probe hfound)]
    exact ⟨w.files, rfl, turns_clean_of_none hground.tidy hnone⟩
  · rw [run_bind_of_ok (run_probe hfound)]
    refine ⟨_, ?_, turns_clean hground.tidy⟩
    simp only [Option.isSome_some, if_true, run_bind, run_onFiles,
      run_removeTree hopen hlocate hnode, run_pure]

-- ---------------------------------------------------------------------------
-- Rounds
-- ---------------------------------------------------------------------------

/-- A builder whose compiler makes a file of every dirty source that its rounds compile, always in
the same order and at a place that the system takes. -/
structure Crafts (ctx : Context) (builder : Builder) (chunk : Chunk) (cwd : Path) (temp : Location)
    (content : Path → List UInt8) (dirty : DirtyFiles) (order : List Path) : Prop where
  starts : builder.StartsFrom ctx chunk cwd (argumentFiles temp)
  perm : order.Perm (changedFiles ctx.project builder.settings builder.role dirty)
  makes : ctx.MakesIn builder.role
    (builder.role.place ctx.project cwd chunk.representative.toTargetId)
    (changedFiles ctx.project builder.settings builder.role dirty) content (· = order)
  admissible : ∀ target ∈ chunk.ids, ∀ source ∈ dirty, Admissible
    (builder.role.place ctx.project cwd target ++ builder.role.fileNames source.2)

namespace Build

variable {builder stubs classes : Builder} {content stubOf classOf : Path → List UInt8}
variable {order : List Path} {u v w : World}

/-- What a round of a builder does to a tree. -/
def builderEffect (ctx : Context) (cwd : Path) (builder : Builder) (content : Path → List UInt8)
    (dirty : DirtyFiles) (chunk : Chunk) : Effect :=
  roundEffect ctx chunk cwd builder.role (ownerOf ctx chunk) content
    (changedFiles ctx.project builder.settings builder.role dirty)

/-- What a round of a builder registers. -/
def builderItems (ctx : Context) (cwd : Path) (builder : Builder) (content : Path → List UInt8)
    (chunk : Chunk) (order : List Path) : List (TargetId × OutputItem) :=
  roundItems builder.role (builder.role.making (ownerOf ctx chunk) content)
    (builder.role.place ctx.project cwd) order

/-- A round on a ground goes well. -/
theorem run_round_on_ground (hlayout : Layout ctx chunks cwd data temp)
    (hground : Ground ctx chunks cwd data temp dirty w.files) (hchunk : chunk ∈ chunks)
    (hspell : Spellable ((dirty chunk).map (·.2)))
    (hcrafts : Crafts ctx builder chunk cwd temp content (dirty chunk) order)
    (hclass : builder.role = .classes → ∀ source ∈ dirty chunk,
      ClassFile.className (content source.2) = .ok ("pkg." ++ source.2.stem))
    (hunmarked : (w.session.state chunk).marked = false) :
    ∃ verdict v, round ctx builder chunk (dirty chunk) w = (.ok verdict, v) ∧
      (verdict = .ok ∨ verdict = .nothingDone) ∧
      (builderEffect ctx cwd builder content (dirty chunk) chunk).WithinBuilds chunks cwd data
        dirty ∧
      (builderEffect ctx cwd builder content (dirty chunk) chunk).Turns w.files v.files ∧
      Registered (builder.role.making (ownerOf ctx chunk) content)
        (builderItems ctx cwd builder content chunk order) w v := by
  have horderly := hlayout.orderly chunk hchunk
  have hfound := hground.found hchunk hlayout hspell
  have hsources := hground.sources chunk hchunk
  have hcompile : Compilable ctx builder chunk cwd temp (ownerOf ctx chunk) content (· = order)
      (changedFiles ctx.project builder.settings builder.role (dirty chunk)) :=
    hfound.compilable (by rw [hsources]) hcrafts.starts (fun _ heq => heq ▸ hcrafts.perm)
      hcrafts.makes (hsources ▸ hcrafts.admissible) (hsources ▸ hclass)
  obtain ⟨name, hname⟩ := exists_chunkName horderly.texts
  have hrooms : ∀ target ∈ chunk.ids,
      ∀ p ∈ changedFiles ctx.project builder.settings builder.role (dirty chunk),
        w.files.Room (outputPlace cwd target ++ Role.classes.fileNames p) := by
    intro target ht p hp
    obtain ⟨source, hsource, rfl⟩ := exists_of_mem_changedFiles hp
    exact hground.rooms chunk hchunk target ht source hsource
  obtain ⟨verdict, v, order', hround, hverdict, hperm, horder, hdone, hregistered, -⟩ :=
    run_round_done horderly hcompile rfl hname (hground.usable hchunk)
      (fun _ => hground.stubsOpen hchunk) (fun _ => hrooms) hunmarked
  have hsame : order' = order := by
    by_cases hnil : changedFiles ctx.project builder.settings builder.role (dirty chunk) = []
    · have hperm' := hcrafts.perm
      rw [hnil] at hperm hperm'
      rw [hperm.eq_nil, hperm'.eq_nil]
    · exact horder hnil
  subst hsame
  refine ⟨verdict, v, hround, hverdict, within_round hcompile.owner_mem horderly ?_ ?_,
    hdone.turns hground.tidy, hregistered⟩
  · exact fun target ht => ⟨chunk, hchunk, target, ht, rfl⟩
  · intro target ht p hp
    obtain ⟨source, hsource, rfl⟩ := exists_of_mem_changedFiles hp
    exact ⟨chunk, hchunk, target, ht, source, hsource, rfl⟩

-- ---------------------------------------------------------------------------
-- Chunks
-- ---------------------------------------------------------------------------

/-- What the build of a chunk does to a tree. -/
def chunkEffect (ctx : Context) (cwd : Path) (stubs classes : Builder)
    (stubOf classOf : Path → List UInt8) (dirty : Chunk → DirtyFiles) (chunk : Chunk) : Effect :=
  (builderEffect ctx cwd stubs stubOf (dirty chunk) chunk).andThen
    (builderEffect ctx cwd classes classOf (dirty chunk) chunk)

theorem marked_finish {session : Session} {other : Chunk}
    (h : (session.state other).marked = false) :
    ((session.finish chunk).state other).marked = false := by
  unfold Session.finish Session.state Session.state? at *
  rw [OrderedMap.find?_erase]
  split
  · rfl
  · exact h

/-- On a ground, a chunk is built in one pass. -/
theorem run_buildChunk_on_ground {stubOrder : List Path} (hstubRole : stubs.role = .stubs)
    (hlayout : Layout ctx chunks cwd data temp)
    (hground : Ground ctx chunks cwd data temp dirty w.files) (hchunk : chunk ∈ chunks)
    (hspell : Spellable ((dirty chunk).map (·.2)))
    (hstubs : Crafts ctx stubs chunk cwd temp stubOf (dirty chunk) stubOrder)
    (hclasses : Crafts ctx classes chunk cwd temp classOf (dirty chunk) order)
    (hclass : ∀ source ∈ dirty chunk,
      ClassFile.className (classOf source.2) = .ok ("pkg." ++ source.2.stem))
    (hunmarked : ∀ other, (w.session.state other).marked = false) :
    ∃ v, buildChunk ctx (.ofBuilders ctx stubs classes) chunk w = (.ok true, v) ∧
      (chunkEffect ctx cwd stubs classes stubOf classOf dirty chunk).WithinBuilds chunks cwd data
        dirty ∧
      (chunkEffect ctx cwd stubs classes stubOf classOf dirty chunk).Turns w.files v.files ∧
      Registered (classes.role.making (ownerOf ctx chunk) classOf)
        (builderItems ctx cwd classes classOf chunk order) w v := by
  have hfound := hground.found hchunk hlayout hspell
  have hsources : chunkSources ctx chunk w = (.ok (dirty chunk), w) := by
    rw [← hground.sources chunk hchunk]
    exact run_chunkSources hfound.look
  obtain ⟨s, hs⟩ : ∃ s, s = noted [.started .stubs (dirty chunk) (begun (dirty chunk) w).tracker]
      (begun (dirty chunk) w) := ⟨_, rfl⟩
  obtain ⟨first, u, hfirstRound, hfirst, hwithin, hturns, hregistered⟩ := run_round_on_ground
    (w := s) hlayout (by rw [hs]; exact hground) hchunk hspell hstubs (by simp [hstubRole])
    (by rw [hs]; exact hunmarked chunk)
  have hfiles : s.files = w.files := by rw [hs]; rfl
  rw [hfiles] at hturns
  have hground' := hground.turns hlayout hwithin hturns
  obtain ⟨t, ht⟩ : ∃ t, t = noted [.started .classes (dirty chunk) u.tracker] (noted
      [.ended .stubs first u.tracker (u.outputs.drop w.outputs.length)] u) := ⟨_, rfl⟩
  have hunmarked' (other : Chunk) : (u.session.state other).marked = false :=
    hregistered.unmarked other (by rw [hs]; exact hunmarked other)
  obtain ⟨second, v, hsecondRound, hsecond, hwithin', hturns', hregistered'⟩ :=
    run_round_on_ground (w := t) hlayout (by rw [ht]; exact hground') hchunk hspell hclasses
      (fun _ => hclass) (by rw [ht]; exact hunmarked' chunk)
  have hbuild := run_buildChunk_of_rounds hsources (hs ▸ hfirstRound) hfirst (ht ▸ hsecondRound)
    hsecond
  -- The round of stubs registers nothing.
  have hnothing : builderItems ctx cwd stubs stubOf chunk stubOrder = [] := by
    rw [builderItems, hstubRole]
    rfl
  rw [hnothing] at hregistered
  have hcongr := registeredAll_congr (v := t) (w := w)
    (madeClass (classes.role.making (ownerOf ctx chunk) classOf))
    (builderItems ctx cwd classes classOf chunk order)
    (by rw [ht]; exact hregistered.classes.trans (by rw [hs]; rfl))
    (by rw [ht]; exact hregistered.graph.trans (by rw [hs]; rfl))
  have hfiles' : t.files = u.files := by rw [ht]; rfl
  rw [hfiles'] at hturns'
  refine ⟨_, hbuild, hwithin.andThen hwithin', hturns.andThen hturns',
    ⟨hregistered'.classes.trans hcongr.1, hregistered'.graph.trans hcongr.2, ?_,
      fun other _ => marked_finish ?_⟩⟩
  · refine hregistered'.messages.trans ?_
    rw [ht]
    refine hregistered.messages.trans ?_
    rw [hs]
    rfl
  · exact hregistered'.unmarked other (by rw [ht]; exact hunmarked' other)

end Build

end GroovyRounds
