import GroovyRounds.Proofs.Build.Owners
import GroovyRounds.Proofs.Build.Relocation

/-!
# Classes in the outputs of their targets

Whether a class is moved is decided by the modules of its chunk, but outputs
belong to targets. In a chunk of several modules every class of the shared output
keeps its place on the way to its owner's output (`canonical_of_moved`). In a
chunk of one module, as that of its classes and its tests, no class is moved, and
those of the tests stay with the others (`reconcile_own_output_iff`).
-/

namespace GroovyRounds

namespace Path

variable {root p : Path}

theorem isWithin_inside (root : Path) (names : List String) :
    root.isWithin (root.inside names) = true :=
  Project.isWithin_iff.mpr ⟨rfl, List.prefix_append _ _⟩

/-- A path within a root is what its further names lead to from there. -/
theorem inside_drop (h : root.isWithin p = true) :
    root.inside (p.names.drop root.names.length) = p := by
  obtain ⟨anchor, names⟩ := p
  obtain ⟨hanchor, rest, hrest⟩ := Project.isWithin_iff.mp h
  dsimp only at hanchor hrest
  rw [← hrest, hanchor, List.drop_left]
  rfl

end Path

/-- Some target of the chunk belongs to another module than the representative. -/
def Chunk.IsMixed (chunk : Chunk) : Prop :=
  ∃ target ∈ chunk.ids, target.name ≠ chunk.representative.name

instance (chunk : Chunk) : Decidable chunk.IsMixed :=
  inferInstanceAs (Decidable (∃ target ∈ chunk.ids, target.name ≠ chunk.representative.name))

namespace Build

open Path Program

variable {chunk : Chunk} {owner : TargetId} {outputs : OrderedMap TargetId String}
variable {compilerOutput root output : String} {item : OutputItem} {v w : World}

-- ---------------------------------------------------------------------------
-- What is moved
-- ---------------------------------------------------------------------------

/-- In a chunk of several modules, what the representative does not own is moved. -/
theorem moveTarget?_of_mixed (hmixed : chunk.IsMixed)
    (howner : owner ≠ chunk.representative.toTargetId) :
    moveTarget? chunk owner outputs = outputs.find? owner := by
  have hlength : ¬ chunk.modules.length ≤ 1 :=
    Nat.not_le_of_lt (Chunk.one_lt_modules_length_iff.mpr hmixed)
  simp [moveTarget?, hlength, howner]

/-- In a chunk of one module nothing is moved, and the representative's own classes never are. -/
theorem moveTarget?_eq_none (h : owner = chunk.representative.toTargetId ∨ ¬ chunk.IsMixed) :
    moveTarget? chunk owner outputs = none := by
  have hstays : chunk.modules.length ≤ 1 ∨ owner = chunk.representative.toTargetId :=
    h.symm.imp_left fun hone => Nat.le_of_not_lt fun hlt =>
      hone (Chunk.one_lt_modules_length_iff.mp hlt)
  simp [moveTarget?, hstays]

/-- A class of the shared output that is moved keeps its place: below its owner's output it has
the names that it had below the shared one. -/
theorem canonical_of_moved (hcwd : w.cwd.Valid)
    (htarget : moveTarget? chunk owner outputs = some root)
    (hin : ((Path.ofString compilerOutput).canonical w.cwd).names <+:
      ((Path.ofString item.output).canonical w.cwd).names)
    (h : reconcile chunk owner outputs compilerOutput item w = (.ok output, v)) :
    (Path.ofString output).canonical w.cwd =
      ((Path.ofString root).canonical w.cwd).inside
        (((Path.ofString item.output).canonical w.cwd).names.drop
          ((Path.ofString compilerOutput).canonical w.cwd).names.length) := by
  have hdots : ".." ∉ (wayTo (.ofString compilerOutput) (.ofString item.output) w.cwd).names :=
    fun hm => (plain_wayTo (valid_ofString item.output) hcwd _ hm).ne_dots rfl
  rw [(run_reconcile_of_moved htarget hcwd h).1, correctOutput_eq,
    canonical_climbing _ _ _ hdots, wayTo_of_prefix hin]
  simp [inside]

/-- An item that is not moved keeps its path, and nothing happens. -/
theorem reconcile_of_unmoved (hnone : moveTarget? chunk owner outputs = none)
    (h : reconcile chunk owner outputs compilerOutput item w = (.ok output, v)) :
    output = item.output ∧ v = w := by
  rw [run_reconcile_eq, hnone] at h
  cases h
  exact ⟨rfl, rfl⟩

-- ---------------------------------------------------------------------------
-- Own outputs
-- ---------------------------------------------------------------------------

/-- A class of the shared output, which is that of the representative, comes to lie in the output
of its owner if the representative owns it or the chunk has several modules: there it keeps its
place. In a chunk of one module it stays where it is, and that is outside of its owner's output
unless one of the two outputs lies in the other. -/
theorem reconcile_own_output_iff (hcwd : w.cwd.Valid)
    (hshared : outputs.find? chunk.representative.toTargetId = some compilerOutput)
    (hroot : outputs.find? owner = some root)
    (hin : ((Path.ofString compilerOutput).canonical w.cwd).isWithin
      ((Path.ofString item.output).canonical w.cwd) = true)
    (h : reconcile chunk owner outputs compilerOutput item w = (.ok output, v)) :
    let directory := (Path.ofString root).canonical w.cwd
    let shared := (Path.ofString compilerOutput).canonical w.cwd
    let made := (Path.ofString item.output).canonical w.cwd
    let destination := (Path.ofString output).canonical w.cwd
    (owner = chunk.representative.toTargetId ∨ chunk.IsMixed →
      destination = directory.inside (made.names.drop shared.names.length)) ∧
    (¬ chunk.IsMixed → output = item.output ∧ v = w) ∧
    (directory.isWithin destination = true ↔
      owner = chunk.representative.toTargetId ∨ chunk.IsMixed ∨ directory.isWithin made = true) ∧
    (directory.isWithin made = true →
      directory.isWithin shared = true ∨ shared.isWithin directory = true) := by
  intro directory shared made destination
  have hunmoved (hnone : moveTarget? chunk owner outputs = none) : destination = made :=
    congrArg (fun s => (Path.ofString s).canonical w.cwd) (reconcile_of_unmoved hnone h).1
  have hkept (hown : owner = chunk.representative.toTargetId ∨ chunk.IsMixed) :
      destination = directory.inside (made.names.drop shared.names.length) := by
    by_cases howner : owner = chunk.representative.toTargetId
    · have hroots : directory = shared := by
        rw [howner, hshared] at hroot
        exact congrArg (fun s => (Path.ofString s).canonical w.cwd) (Option.some.inj hroot).symm
      calc destination = made := hunmoved (moveTarget?_eq_none (.inl howner))
        _ = shared.inside (made.names.drop shared.names.length) := (inside_drop hin).symm
        _ = directory.inside (made.names.drop shared.names.length) := by rw [hroots]
    · have htarget := (moveTarget?_of_mixed (hown.resolve_left howner) howner).trans hroot
      exact canonical_of_moved hcwd htarget (Project.isWithin_iff.mp hin).2 h
  have hwithin (hown : owner = chunk.representative.toTargetId ∨ chunk.IsMixed) :
      directory.isWithin destination = true := by
    rw [hkept hown]
    exact isWithin_inside _ _
  refine ⟨hkept, fun hone => reconcile_of_unmoved (moveTarget?_eq_none (.inr hone)) h, ?_,
    fun hmade => Project.isWithin_or_isWithin hmade hin⟩
  by_cases hmixed : chunk.IsMixed
  · simp only [hwithin (.inr hmixed), hmixed, true_or, or_true]
  · rw [hunmoved (moveTarget?_eq_none (.inr hmixed))]
    constructor
    · exact fun hmade => .inr (.inr hmade)
    · rintro (howner | hmixed' | hmade)
      · rw [← hunmoved (moveTarget?_eq_none (.inl howner))]
        exact hwithin (.inl howner)
      · exact absurd hmixed' hmixed
      · exact hmade

/-- The module's classes and its tests, which go to different outputs. -/
def testsTarget : Target where
  name := .text "core"
  output := some { anchor := .root, names := ["out", "core-tests"] }
  kind := .test
  sdk := none

/-- A module with its tests, and perhaps another one. -/
def testsChunk (others : List Target) : Chunk where
  representative := moduleTarget "core"
  others := testsTarget :: others

def testsOutputs : OrderedMap TargetId String :=
  ⟨[((moduleTarget "core").toTargetId, "/out/core/"), (testsTarget.toTargetId, "/out/core-tests/"),
    ((moduleTarget "app").toTargetId, "/out/app/")]⟩

/-- Reconciles a class of the tests that was made in the shared output. -/
def reconcileTests (others : List Target) : Build String :=
  reconcile (testsChunk others) testsTarget.toTargetId testsOutputs "/out/core/"
    { output := "/out/core/B.class", source := "/src/tests/B.groovy" }

theorem reconcile_own_output_iff_beside_module :
    ∃ v, reconcileTests [moduleTarget "app"] farWorld = (.ok "/out/core-tests/B.class", v) ∧
      ((Path.ofString "/out/core-tests/").canonical farWorld.cwd).isWithin
        ((Path.ofString "/out/core-tests/B.class").canonical farWorld.cwd) = true := by
  have hreconcile : reconcileTests [moduleTarget "app"] farWorld =
      (.ok "/out/core-tests/B.class", (reconcileTests [moduleTarget "app"] farWorld).2) :=
    Prod.ext (by decide +kernel) rfl
  have hroot : testsOutputs.find? testsTarget.toTargetId = some "/out/core-tests/" := by
    decide +kernel
  obtain ⟨-, -, hwithin, -⟩ := reconcile_own_output_iff (by decide +kernel) (by decide +kernel)
    hroot (by decide +kernel) hreconcile
  exact ⟨_, hreconcile, hwithin.mpr (.inr (.inl (by decide +kernel)))⟩

/-- The classes of the tests of a module that is alone in its chunk stay with the others, though
the two outputs are apart. -/
theorem reconcile_keeps_tests :
    ((testsChunk []).ids.map (·.output)).Nodup ∧
      (testsOutputs.find? (testsChunk []).representative.toTargetId = some "/out/core/" ∧
        testsOutputs.find? testsTarget.toTargetId = some "/out/core-tests/") ∧
      reconcileTests [] farWorld = (.ok "/out/core/B.class", farWorld) ∧
      ((Path.ofString "/out/core-tests/").canonical farWorld.cwd).isWithin
        ((Path.ofString "/out/core/B.class").canonical farWorld.cwd) = false :=
  ⟨by decide +kernel, by decide +kernel, rfl, by decide +kernel⟩

end Build

end GroovyRounds
