import GroovyRounds.Proofs.Build.KnownStubs
import GroovyRounds.Proofs.Build.PostProcessing

/-!
# From stubs to rounds

Each file that the other compiler reports makes the source behind it due, if
the file is a known stub: once, and unless the source is dirty already
(`madeDue_postProcessAll`). What is due makes the next round of classes ask for
another pass, and only that round (`stub_round_trip`).
-/

namespace GroovyRounds.Build

open Path Program

variable {ctx : Context} {builder : Builder} {chunk : Chunk} {package : Path → List String}
variable {dirty : DirtyFiles} {verdict : Verdict} {v w : World}

-- ---------------------------------------------------------------------------
-- What compiled stubs make due
-- ---------------------------------------------------------------------------

/-- The sources behind reported stubs are scheduled, each once, but for those that were dirty
already; the chunk is marked if there are any. -/
structure MadeDue (ctx : Context) (chunk : Chunk) (reports : List (Option String))
    (before after : World) : Prop where
  processors : after.session.processors = before.session.processors
  stubSources : (after.session.state chunk).stubSources =
    (before.session.state chunk).stubSources
  current : after.tracker.current = before.tracker.current
  nodup : after.tracker.next.Nodup
  mem_next : ∀ source, source ∈ after.tracker.next ↔
    source ∉ before.tracker.current ∧ ctx.unmarkable source = false ∧
      ∃ compiled ∈ reports, (before.session.state chunk).sourceOf? compiled = some source
  marked : (after.session.state chunk).marked = true ↔ after.tracker.next ≠ []

/-- All reports, one after another. -/
theorem madeDue_postProcessAll (hprocessors : 0 < w.session.processors)
    (hnext : w.tracker.next = []) (hmarked : (w.session.state chunk).marked = false)
    (reports : List (Option String)) :
    MadeDue ctx chunk reports w (postProcessAll ctx chunk reports w) := by
  have hall := posted_postProcessAll ctx chunk hprocessors reports
  have hdue : (postProcessAll ctx chunk reports w).tracker.next =
      newlyDue ctx w.tracker (w.session.state chunk) reports := by
    rw [hall.tracker, hnext, List.nil_append]
  refine ⟨hall.processors, ?_, ?_, hdue ▸ nodup_newlyDue .., fun source => ?_, ?_⟩
  · rw [hall.state]
  · rw [hall.tracker]
  · rw [hdue, mem_newlyDue, hnext]
    simp only [List.not_mem_nil, not_false_eq_true, true_and]
    tauto
  · rw [hall.state, hdue, hmarked]
    simp

-- ---------------------------------------------------------------------------
-- From stubs to the next rounds
-- ---------------------------------------------------------------------------

/-- A round of classes without files is decided by the marker, which it clears. -/
theorem round_without_files (hrole : builder.role = .classes) (w : World) :
    round ctx builder chunk [] w =
      (.ok (if (w.session.state chunk).marked then .additionalPassRequired else .nothingDone),
        cleared .classes chunk (stated chunk w)) := by
  have hnone : changedFiles ctx.project builder.settings builder.role [] = [] := rfl
  rw [run_round_without_files ctx builder chunk hnone, hrole]
  simp only [ChunkState.needsRound, decide_true, Bool.true_and]

/-- Stubs lead back to their sources. After a round of stubs, whatever files the other compiler
reports, the sources scheduled are those of the reported stubs that were not dirty already, each
once. The next round of classes asks for another pass if there are any, and the one after it
finds nothing to do. -/
theorem stub_round_trip {classes : Builder} (hrole : builder.role = .stubs)
    (hclasses : classes.role = .classes) (hapart : StubsApart ctx.project chunk)
    (hsources : StubSources ctx chunk package w.tempRoots
      (changedFiles ctx.project builder.settings builder.role dirty))
    (hmarkable : ∀ p ∈ changedFiles ctx.project builder.settings builder.role dirty,
      ctx.unmarkable p = false)
    (hown : ∀ call files, ∀ action ∈ (ctx.compiler w.calls call files).actions, action.IsOwn)
    (hmakes : changedFiles ctx.project builder.settings builder.role dirty = [] ∨
      ∃ compilation ∈ compilation? ctx builder chunk dirty w, MakesStubs package
        (changedFiles ctx.project builder.settings builder.role dirty) compilation)
    (hfresh : w.session.state chunk = {}) (hprocessors : 0 < w.session.processors)
    (hnext : w.tracker.next = [])
    (h : round ctx builder chunk dirty w = (.ok verdict, v)) :
    ∃ stub : Path → String,
      (∀ p ∈ changedFiles ctx.project builder.settings builder.role dirty,
        StubOf ctx builder chunk package w v p (stub p)) ∧
      ∀ reports after, after = postProcessAll ctx chunk reports v →
        after.tracker.next.Nodup ∧
        (∀ p, p ∈ after.tracker.next ↔
          p ∈ changedFiles ctx.project builder.settings builder.role dirty ∧
            p ∉ w.tracker.current ∧ some (stub p) ∈ reports.map (Option.map withSlashes)) ∧
        (round ctx classes chunk [] after).1 =
          .ok (if after.tracker.next = [] then .nothingDone else .additionalPassRequired) ∧
        (round ctx classes chunk [] (round ctx classes chunk [] after).2).1 =
          .ok .nothingDone := by
  obtain ⟨stub, hstub, hknows, htracker, hkept⟩ :=
    knowsStubs_of_round hrole hapart hsources hown hmakes hfresh h
  refine ⟨stub, hstub, ?_⟩
  rintro reports _ rfl
  have hdue : MadeDue ctx chunk reports v (postProcessAll ctx chunk reports v) :=
    madeDue_postProcessAll (hkept ▸ hprocessors) (htracker ▸ hnext) hknows.unmarked reports
  refine ⟨hdue.nodup, fun p => ?_, ?_, ?_⟩
  · simp only [hdue.mem_next, hknows.sourceOf?, htracker, List.mem_map]
    constructor
    · rintro ⟨hclean, -, compiled, hreported, hp, hfile⟩
      exact ⟨hp, hclean, compiled, hreported, hfile⟩
    · rintro ⟨hp, hclean, compiled, hreported, hfile⟩
      exact ⟨hclean, hmarkable p hp, compiled, hreported, hp, hfile⟩
  · rw [round_without_files hclasses]
    simp only [hdue.marked]
    split <;> simp_all
  · rw [round_without_files hclasses, round_without_files hclasses]
    simp only [cleared, Session.state_setState]
    rfl

/-- The stub of a source is written to the directory of the representative, and reported. -/
def makeStub (name stem : String) : List CompilerAction :=
  [.write { anchor := .root, names :=
      ["data", "groovyStubs", "core", "production", "pkg", stem ++ ".java"] } [],
    .emit CompilerOutput.outputStream ("%%compiled\t/data/groovyStubs/core/production/pkg/" ++
      stem ++ ".java\t/src/" ++ name ++ "/" ++ stem ++ ".groovy\n")]

def pairStubs : Context :=
  pairContext [fun _ => makeStub "core" "A" ++ makeStub "app" "B"]

def stubBuilder : Builder :=
  { classBuilder with role := .stubs }

def pairDirty : DirtyFiles :=
  [pairSource "core" "A", pairSource "app" "B"]

/-- One of the two sources is dirty already. -/
def pairBefore : World :=
  { pairWorld [] with tracker := { current := [(pairSource "core" "A").2] } }

theorem stub_round_trip_pair :
    ∃ v, round pairStubs stubBuilder pairChunk pairDirty pairBefore = (.ok .ok, v) ∧
      ∃ stub : Path → String,
        (∀ p ∈ pairDirty.map (·.2),
          StubOf pairStubs stubBuilder pairChunk (fun _ => ["pkg"]) pairBefore v p (stub p)) ∧
        ∀ reports after, after = postProcessAll pairStubs pairChunk reports v →
          after.tracker.next.Nodup ∧
          (∀ p, p ∈ after.tracker.next ↔ p ∈ pairDirty.map (·.2) ∧
            p ∉ pairBefore.tracker.current ∧
              some (stub p) ∈ reports.map (Option.map withSlashes)) ∧
          (round pairStubs classBuilder pairChunk [] after).1 =
            .ok (if after.tracker.next = [] then .nothingDone else .additionalPassRequired) ∧
          (round pairStubs classBuilder pairChunk []
            (round pairStubs classBuilder pairChunk [] after).2).1 = .ok .nothingDone := by
  have hran : ∃ v, round pairStubs stubBuilder pairChunk pairDirty pairBefore = (.ok .ok, v) :=
    eq_ok_of_toOption (by decide +kernel)
  have hfiles : changedFiles pairStubs.project stubBuilder.settings stubBuilder.role pairDirty =
      pairDirty.map (·.2) := by
    decide +kernel
  obtain ⟨hcompiled, hmakes⟩ :
      (compilation? pairStubs stubBuilder pairChunk pairDirty pairBefore).isSome ∧
        ∀ compilation ∈ compilation? pairStubs stubBuilder pairChunk pairDirty pairBefore,
          MakesStubs (fun _ => ["pkg"]) (pairDirty.map (·.2)) compilation := by
    decide +kernel
  obtain ⟨compilation, hcompilation⟩ := Option.isSome_iff_exists.mp hcompiled
  obtain ⟨v, hv⟩ := hran
  refine ⟨v, hv, ?_⟩
  have hown : ∀ call files, ∀ action ∈ (pairStubs.compiler [] call files).actions,
      action.IsOwn := by
    intro call files
    show ∀ action ∈ makeStub "core" "A" ++ makeStub "app" "B", action.IsOwn
    decide
  rw [← hfiles]
  exact stub_round_trip rfl rfl (by decide +kernel) (by rw [hfiles]; decide +kernel)
    (fun _ _ => rfl) hown
    (.inr ⟨compilation, hcompilation, hfiles ▸ hmakes compilation hcompilation⟩) rfl
    (by decide) rfl hv

end GroovyRounds.Build
