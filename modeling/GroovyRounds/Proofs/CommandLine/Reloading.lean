import GroovyRounds.Project.File
import GroovyRounds.Proofs.Build.Grounds
import GroovyRounds.Settings.Layers

/-!
# Configurations that are loaded again

A path outside of the directories that builds write to leads to what it led to
before (`Ground.retains`). So settings and projects that were loaded from such
paths are loaded again.
-/

namespace GroovyRounds

open FileSystem Path Build

variable {ctx : Context} {chunks : List Chunk} {cwd p : Path} {data temp place : Location}
variable {dirty : Chunk → DirtyFiles} {a b : FileSystem} {e : Effect} {node : Node}

/-- No place on the path lies in the directory of stubs or in an output directory. -/
def Outlying (chunks : List Chunk) (cwd : Path) (data : Location) (fs : FileSystem) (p : Path) :
    Prop :=
  ∀ front, front <+: p.names → ¬ stubRootPlace data <+: walk (fs.start p) front ∧
    ∀ chunk ∈ chunks, ∀ target ∈ chunk.ids, ¬ outputPlace cwd target <+: walk (fs.start p) front

instance (chunks : List Chunk) (cwd : Path) (data : Location) (fs : FileSystem) (p : Path) :
    Decidable (Outlying chunks cwd data fs p) :=
  inferInstanceAs (Decidable (∀ front, front <+: p.names → _))

/-- If a path leads to something in one tree, the same is seen there in the other. -/
def Retains (p : Path) (a b : FileSystem) : Prop :=
  ∀ node, a.probe p = .ok (some node) →
    ∃ node', b.probe p = .ok (some node') ∧ Sight.ofNode (some node') = Sight.ofNode (some node)

namespace Ground

variable (h : Ground ctx chunks cwd data temp dirty a)
variable (hwithin : e.WithinBuilds chunks cwd data dirty) (hturns : e.Turns a b)
include h hwithin hturns

/-- What lies outside of the directories of a build is seen as before. -/
theorem sight_kept (hroot : ¬ stubRootPlace data <+: place)
    (houtputs : ∀ chunk ∈ chunks, ∀ target ∈ chunk.ids, ¬ outputPlace cwd target <+: place)
    (hnode : a.node? place = some node) :
    ∃ node', b.node? place = some node' ∧ Sight.ofNode (some node') = Sight.ofNode (some node) := by
  have hclass : place ∉ classPlaces chunks cwd dirty := by
    rintro ⟨chunk, hchunk, target, ht, source, -, rfl⟩
    exact houtputs chunk hchunk target ht (List.prefix_append _ _)
  cases node with
  | directory => exact ⟨_, hwithin.kept hturns hclass hroot hnode, rfl⟩
  | file content executable =>
    -- No directory can be made where a file stands.
    have hsame : b.sight place = a.sight place := by
      refine hwithin.same hturns ?_ ⟨fun hup => ?_, hroot⟩ hclass
      · rintro _ ⟨chunk, hchunk, target, ht, rfl⟩ hup
        by_cases heq : place = outputPlace cwd target ++ ["pkg"]
        · exact houtputs chunk hchunk target ht (heq ▸ List.prefix_append _ _)
        · have hway := prefix_dropLast hup heq
          rw [List.dropLast_concat] at hway
          exact (h.outputs chunk hchunk target ht).not_file hway hnode
      · exact h.stubRoot.clear place hup content executable hnode
    have hseen : b.sight place = .file content :=
      hsame.trans (sight_eq_file_iff.mpr ⟨executable, hnode⟩)
    obtain ⟨executable', hfile⟩ := sight_eq_file_iff.mp hseen
    exact ⟨_, hfile, rfl⟩

/-- A path outside of the directories of a build leads to what it led to. -/
theorem retains (houtlying : Outlying chunks cwd data a p) : Retains p a b := by
  have hstart : b.start p = a.start p := by simp [FileSystem.start, hturns.cwd]
  have hkept (front : List String) (hfront : front <+: p.names) {node : Node}
      (hnode : a.node? (walk (a.start p) front) = some node) :=
    h.sight_kept hwithin hturns (houtlying front hfront).1 (houtlying front hfront).2 hnode
  intro node hprobe
  unfold probe at hprobe ⊢
  split at hprobe
  · cases hprobe
  rename_i hzero
  rw [if_neg hzero]
  cases hstat : a.stat p with
  | error refusal =>
    simp only [hstat] at hprobe
    split at hprobe <;> cases hprobe
  | ok found =>
    obtain ⟨goal, there⟩ := found
    simp only [hstat, Except.ok.injEq, Option.some.injEq] at hprobe
    subst hprobe
    obtain ⟨hlocate, hnode⟩ := stat_eq_ok_iff.mp hstat
    obtain ⟨hfits, hpassable, rfl⟩ := locate_eq_ok_iff.mp hlocate
    obtain ⟨node', hnode', hseen⟩ := hkept p.names (List.prefix_refl _) hnode
    have hlocate' : b.locate p = .ok (walk (a.start p) p.names) := by
      refine locate_eq_ok_iff.mpr ⟨hfits, ⟨fun front hfront hne => ?_, hpassable.short⟩, by
        rw [hstart]⟩
      obtain ⟨other, hother, hsame⟩ := hkept front hfront (hpassable.directories front hfront hne)
      rw [hstart, hother]
      cases other with
      | directory => rfl
      | file content executable => cases hsame
    rw [stat_eq_ok_iff.mpr ⟨hlocate', hnode'⟩]
    exact ⟨node', rfl, hseen⟩

end Ground

/-- Settings that were loaded are loaded again. -/
theorem Settings.load_again {runtimeSupport : Path} {ini : Option Path}
    {env : Settings.Environment} {settings : Settings}
    (hload : Settings.load a runtimeSupport ini env = .ok settings)
    (hretains : ∀ path ∈ ini, Retains path a b) :
    Settings.load b runtimeSupport ini env = .ok settings := by
  cases ini with
  | none => exact hload
  | some path =>
    have hfile (settings read : Settings) (hread : settings.readFile a path = .ok read) :
        settings.readFile b path = .ok read := by
      unfold readFile at hread ⊢
      cases hprobe : a.probe path with
      | error fault => simp [hprobe] at hread
      | ok found =>
        cases found with
        | none => simp [hprobe] at hread
        | some node =>
          obtain ⟨node', hprobe', hseen⟩ := hretains path rfl node hprobe
          simp only [hprobe] at hread
          simp only [hprobe']
          cases node <;> cases node' <;> cases hseen <;> exact hread
    unfold load at hload ⊢
    cases hread : (initial runtimeSupport env).readFile a path with
    | error fault =>
      simp only [hread] at hload
      cases hload
    | ok read =>
      simp only [hread] at hload
      simp only [hfile _ read hread]
      exact hload

/-- A project that was loaded is loaded again. -/
theorem ProjectDescription.load_again {description : ProjectDescription}
    (hload : ProjectDescription.load a cwd p = .ok description) (hretains : Retains p a b) :
    ProjectDescription.load b cwd p = .ok description := by
  unfold load at hload ⊢
  cases hprobe : a.probe p with
  | error fault => simp [hprobe] at hload
  | ok found =>
    cases found with
    | none => simp [hprobe] at hload
    | some node =>
      obtain ⟨node', hprobe', hseen⟩ := hretains node hprobe
      simp only [hprobe] at hload
      simp only [hprobe']
      cases node <;> cases node' <;> cases hseen <;> exact hload

end GroovyRounds
