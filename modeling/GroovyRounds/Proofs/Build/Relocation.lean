import GroovyRounds.Proofs.Build.Frame
import GroovyRounds.Proofs.Build.Incremental
import GroovyRounds.Proofs.Canonical

/-!
# Where a class is relocated

A class is moved to the place below its owner's output that it has as seen from
the shared output. A class inside the shared output comes to lie inside its
owner's. For any other the way climbs, and it leads out of the owner's output
unless it goes on with the names it has left (`reconcile_isWithin_iff`).
-/

namespace GroovyRounds

namespace Path

/-- The way from one place to another: how many names to leave, and which to enter then. -/
structure Way where
  ups : Nat
  names : List String
deriving DecidableEq, Repr

/-- The way from a start to a path, both seen from the working directory. -/
def wayTo (start p cwd : Path) : Way :=
  let shared := commonPrefix (start.canonical cwd).names (p.canonical cwd).names
  { ups := (start.canonical cwd).names.length - shared
    names := (p.canonical cwd).names.drop shared }

variable {start p directory cwd : Path}

theorem plain_wayTo (hp : p.Valid) (hcwd : cwd.Valid) :
    ∀ name ∈ (wayTo start p cwd).names, IsPlain name :=
  fun name hname => isPlain_canonical hp hcwd name (List.mem_of_mem_drop hname)

/-- The way to a path inside the start goes down only. -/
theorem wayTo_of_prefix (h : (start.canonical cwd).names <+: (p.canonical cwd).names) :
    wayTo start p cwd =
      { ups := 0, names := (p.canonical cwd).names.drop (start.canonical cwd).names.length } := by
  simp [wayTo, commonPrefix_eq_length_iff.mpr h]

/-- Any other way climbs. -/
theorem ups_wayTo_pos (h : ¬ (start.canonical cwd).names <+: (p.canonical cwd).names) :
    0 < (wayTo start p cwd).ups := by
  have hle := commonPrefix_le (start.canonical cwd).names (p.canonical cwd).names
  have hne := mt commonPrefix_eq_length_iff.mp h
  simp only [wayTo]
  omega

end Path

namespace Build

open Path Program

variable {chunk : Chunk} {owner : TargetId} {outputs : OrderedMap TargetId String}
variable {compilerOutput root output : String} {item : OutputItem} {v w : World}

-- ---------------------------------------------------------------------------
-- The destination
-- ---------------------------------------------------------------------------

theorem correctOutput_eq (cwd : Path) (root compilerOutput output : String) :
    correctOutput cwd root compilerOutput output =
      let way := wayTo (.ofString compilerOutput) (.ofString output) cwd
      (Path.ofString root).inside (List.replicate way.ups ".." ++ way.names) := rfl

/-- The destination can be read back from its text. -/
theorem valid_correctOutput {cwd : Path} (hcwd : cwd.Valid) (root compilerOutput output : String) :
    (correctOutput cwd root compilerOutput output).Valid := by
  rw [correctOutput_eq]
  refine valid_inside (valid_ofString root) fun name hname => ?_
  rcases List.mem_append.mp hname with hname | hname
  · rw [(List.mem_replicate.mp hname).2]
    decide
  · exact (plain_wayTo (valid_ofString output) hcwd name hname).toIsComponent

/-- Reconciling an item is moving its file, unless it stays where it is. -/
theorem run_reconcile_eq (chunk : Chunk) (owner : TargetId) (outputs : OrderedMap TargetId String)
    (compilerOutput : String) (item : OutputItem) (w : World) :
    reconcile chunk owner outputs compilerOutput item w =
      match moveTarget? chunk owner outputs with
      | none => (.ok item.output, w)
      | some root =>
        let destination := correctOutput w.cwd root compilerOutput item.output
        let moved := FileAction.moveDeep (.ofString item.output) destination w.files
        ((moved.1.map fun _ => destination.toString).mapError .files,
          { w with files := moved.2 }) := by
  unfold reconcile
  cases moveTarget? chunk owner outputs with
  | none => rfl
  | some root =>
    simp only [run_bind, run_get, run_withFiles]
    cases (FileAction.moveDeep (.ofString item.output)
      (correctOutput w.cwd root compilerOutput item.output) w.files).1 <;> rfl

/-- The path of an item that was moved can be read back, and it is that of the move. -/
theorem run_reconcile_of_moved (htarget : moveTarget? chunk owner outputs = some root)
    (hcwd : w.cwd.Valid)
    (h : reconcile chunk owner outputs compilerOutput item w = (.ok output, v)) :
    Path.ofString output = correctOutput w.cwd root compilerOutput item.output ∧
      FileAction.moveDeep (.ofString item.output) (.ofString output) w.files =
        (.ok (), v.files) := by
  have hread := ofString_toString (valid_correctOutput hcwd root compilerOutput item.output)
  simp only [run_reconcile_eq, htarget] at h
  cases hmoved : FileAction.moveDeep (.ofString item.output)
      (correctOutput w.cwd root compilerOutput item.output) w.files with
  | mk result files =>
    rw [hmoved] at h
    cases result with
    | error fault => cases h
    | ok _ =>
      cases h
      exact ⟨hread, by rw [hread, hmoved]⟩

-- ---------------------------------------------------------------------------
-- Inside and outside
-- ---------------------------------------------------------------------------

/-- A class is moved to the path that is returned. If it lies in the shared output, that path
lies in its owner's output, at the same names. If not, the way to it climbs, and the path lies in
the owner's output only if the way goes on with the names that were left. -/
theorem reconcile_isWithin_iff (hcwd : w.cwd.Valid)
    (htarget : moveTarget? chunk owner outputs = some root)
    (h : reconcile chunk owner outputs compilerOutput item w = (.ok output, v)) :
    let directory := (Path.ofString root).canonical w.cwd
    let shared := (Path.ofString compilerOutput).canonical w.cwd
    let made := (Path.ofString item.output).canonical w.cwd
    let way := wayTo (.ofString compilerOutput) (.ofString item.output) w.cwd
    let destination := (Path.ofString output).canonical w.cwd
    FileAction.moveDeep (.ofString item.output) (.ofString output) w.files = (.ok (), v.files) ∧
    (shared.names <+: made.names →
      destination = directory.inside (made.names.drop shared.names.length) ∧
        directory.isWithin destination = true) ∧
    (¬ shared.names <+: made.names → 0 < way.ups ∧
      (directory.isWithin destination = true ↔
        directory.names.drop (directory.names.length - way.ups) <+: way.names)) := by
  intro directory shared made way destination
  obtain ⟨hread, hmoved⟩ := run_reconcile_of_moved htarget hcwd h
  have hdestination : destination = ((Path.ofString root).inside
      (List.replicate way.ups ".." ++ way.names)).canonical w.cwd := by
    rw [← correctOutput_eq, ← hread]
  have hdots : ".." ∉ way.names :=
    fun hm => (plain_wayTo (valid_ofString item.output) hcwd _ hm).ne_dots rfl
  have hwithin := isWithin_climbing_iff (Path.ofString root) w.cwd way.ups hdots
  rw [← hdestination] at hwithin
  refine ⟨hmoved, fun hin => ?_, fun hout => ⟨ups_wayTo_pos hout, hwithin⟩⟩
  have hway : way = { ups := 0, names := made.names.drop shared.names.length } :=
    wayTo_of_prefix hin
  constructor
  · rw [hdestination, canonical_climbing _ _ _ hdots, hway]
    simp [inside, directory]
  · rw [hwithin, hway]
    simp

/-- The outputs of the two modules, one of them far from the shared one. -/
def farOutputs : OrderedMap TargetId String :=
  ⟨[((moduleTarget "core").toTargetId, "/out/core/"),
    ((moduleTarget "app").toTargetId, "/far/app/")]⟩

/-- Reconciles a class of the far module, reported at this path. -/
def reconcileFar (output : String) : Build String :=
  reconcile pairChunk (moduleTarget "app").toTargetId farOutputs "/out/core/"
    { output, source := "/src/app/B.groovy" }

/-- A class lies in the shared output, and one lies beside it. -/
def farWorld : World where
  files := {
    nodes := [(["B.class"], .file [] false), (["out"], .directory), (["out", "core"], .directory),
      (["out", "core", "B.class"], .file [] false)]
    cwd := [] }

theorem reconcile_isWithin_iff_shared :
    ∃ v, reconcileFar "/out/core/B.class" farWorld = (.ok "/far/app/B.class", v) ∧
      ((Path.ofString "/far/app/").canonical farWorld.cwd).isWithin
        ((Path.ofString "/far/app/B.class").canonical farWorld.cwd) = true := by
  have hreconcile : reconcileFar "/out/core/B.class" farWorld =
      (.ok "/far/app/B.class", (reconcileFar "/out/core/B.class" farWorld).2) :=
    Prod.ext (by decide +kernel) rfl
  have htarget : moveTarget? pairChunk (moduleTarget "app").toTargetId farOutputs =
      some "/far/app/" := by decide +kernel
  obtain ⟨-, hinside, -⟩ := reconcile_isWithin_iff (by decide +kernel) htarget hreconcile
  exact ⟨_, hreconcile, (hinside (by decide +kernel)).2⟩

/-- A class that was reported outside the shared output leaves its owner's output. -/
theorem reconcile_leaves_output :
    ∃ v, reconcileFar "/B.class" farWorld = (.ok "/far/app/../../B.class", v) ∧
      ((Path.ofString "/far/app/").canonical farWorld.cwd).isWithin
        ((Path.ofString "/far/app/../../B.class").canonical farWorld.cwd) = false :=
  ⟨(reconcileFar "/B.class" farWorld).2, Prod.ext (by decide +kernel) rfl, by decide +kernel⟩

end Build

end GroovyRounds
