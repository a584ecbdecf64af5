import GroovyRounds.Proofs.Build.Frame
import GroovyRounds.Proofs.FileSystem.Moves
import GroovyRounds.Proofs.OrderedMap

/-!
# Where outputs lie

Every target has a directory of its own for what a round makes. If no such
directory lies in another, a file below one of them is never on the way to a
file below another (`Apart.eq_of_prefix`). A round spells the output directories
of classes as folders (`finalOutputs_cases`).
-/

namespace GroovyRounds

open FileSystem Path

-- ---------------------------------------------------------------------------
-- Directories of targets
-- ---------------------------------------------------------------------------

/-- The modules of a chunk have different names, and no directory of a target lies in that of
another. -/
structure Apart (chunk : Chunk) (place : TargetId → Location) : Prop where
  names : (chunk.ids.map (·.name)).Nodup
  plain : ∀ target ∈ chunk.ids, ∀ name ∈ place target, IsPlain name
  no_backslash : ∀ target ∈ chunk.ids, '\\' ∉ (below (place target)).toString.toList
  disjoint : ∀ target ∈ chunk.ids, ∀ other ∈ chunk.ids, target ≠ other →
    ¬ place target <+: place other

/-- A chunk has several modules if some target belongs to another than the representative. -/
theorem Chunk.one_lt_modules_length_iff {chunk : Chunk} :
    1 < chunk.modules.length ↔ ∃ target ∈ chunk.ids, target.name ≠ chunk.representative.name := by
  have hmodules : chunk.modules = chunk.representative.name ::
      ((chunk.others.map (·.name)).filter fun name => !name == chunk.representative.name).eraseDups :=
    List.eraseDups_cons
  rw [hmodules, List.length_cons, Nat.lt_add_left_iff_pos, List.length_pos_iff_exists_mem]
  simp [ids, targets, List.mem_eraseDups]

/-- A chunk with a target besides the representative has several modules. -/
theorem Chunk.modules_length {chunk : Chunk} {target : TargetId}
    (hnames : (chunk.ids.map (·.name)).Nodup) (ht : target ∈ chunk.ids)
    (hne : target ≠ chunk.representative.toTargetId) : ¬ chunk.modules.length ≤ 1 := by
  have hrep : chunk.representative.toTargetId ∈ chunk.ids := List.mem_cons_self
  have hname : target.name ≠ chunk.representative.name :=
    fun heq => hne (List.inj_on_of_nodup_map hnames ht hrep heq)
  exact Nat.not_le_of_lt (Chunk.one_lt_modules_length_iff.mpr ⟨target, ht, hname⟩)

namespace Apart

variable {chunk : Chunk} {place : TargetId → Location} {target other : TargetId}
variable {file file' : List String} (h : Apart chunk place)
include h

/-- What lies below one of the directories lies below no other. -/
theorem eq_of_prefix (ht : target ∈ chunk.ids) (ho : other ∈ chunk.ids)
    (hbelow : place target ++ file <+: place other ++ file') :
    target = other ∧ file <+: file' := by
  have htarget : place target <+: place other ++ file' :=
    (List.prefix_append _ _).trans hbelow
  have heq : target = other := by
    by_contra hne
    rcases List.prefix_or_prefix_of_prefix htarget (List.prefix_append _ _) with hin | hin
    · exact h.disjoint target ht other ho hne hin
    · exact h.disjoint other ho target ht (Ne.symm hne) hin
  subst heq
  exact ⟨rfl, (List.prefix_append_right_inj _).mp hbelow⟩

end Apart

-- ---------------------------------------------------------------------------
-- Output directories
-- ---------------------------------------------------------------------------

/-- Where the output directory of a target lies. -/
def outputPlace (cwd : Path) (target : TargetId) : Location :=
  match target.output with
  | some directory => (directory.resolve cwd).names
  | none => []

/-- The modules of a chunk have different names, and no output directory lies in another. -/
@[mk_iff] structure Separate (chunk : Chunk) (cwd : Path) : Prop where
  cwd_valid : cwd.Valid
  names : (chunk.ids.map (·.name)).Nodup
  outputs_valid : ∀ target ∈ chunk.ids, ∀ directory ∈ target.output, directory.Valid
  no_backslash : ∀ target ∈ chunk.ids, '\\' ∉ (below (outputPlace cwd target)).toString.toList
  disjoint : ∀ target ∈ chunk.ids, ∀ other ∈ chunk.ids, target ≠ other →
    ¬ outputPlace cwd target <+: outputPlace cwd other

instance (chunk : Chunk) (cwd : Path) : Decidable (Separate chunk cwd) :=
  decidable_of_iff _ (separate_iff chunk cwd).symm

theorem Separate.apart {chunk : Chunk} {cwd : Path} (h : Separate chunk cwd) :
    Apart chunk (outputPlace cwd) where
  names := h.names
  plain target ht := by
    unfold outputPlace
    cases houtput : target.output with
    | none => exact nofun
    | some directory =>
      exact isPlain_resolve (h.outputs_valid target ht directory houtput) h.cwd_valid
  no_backslash := h.no_backslash
  disjoint := h.disjoint

namespace Build

open Program

variable {ctx : Context} {builder : String} {chunk : Chunk} {v w : World}

-- ---------------------------------------------------------------------------
-- The outputs of a round
-- ---------------------------------------------------------------------------

/-- An output directory is spelled as the folder at its place. -/
theorem spelled_output {cwd directory : Path} {target : TargetId} (h : Separate chunk cwd)
    (ht : target ∈ chunk.ids) (houtput : target.output = some directory) :
    withTrailingSlash (withSlashes (directory.resolve cwd).toString) =
      spellFolder (outputPlace cwd target) := by
  have hplace : directory.resolve cwd = below (outputPlace cwd target) := by
    simp only [outputPlace, houtput]
    rfl
  rw [hplace, withSlashes_eq (h.no_backslash target ht),
    withTrailingSlash_below fun name hm => (h.apart.plain target ht name hm).toIsComponent]

theorem makeOutputs_cases {targets : List TargetId} {outputs finals : FinalOutputs}
    (hsep : Separate chunk w.cwd) (htargets : ∀ target ∈ targets, target ∈ chunk.ids)
    (h : makeOutputs ctx builder targets outputs w = (.ok (some finals), v)) (target : TargetId) :
    finals.find? target = if target ∈ targets then some (spellFolder (outputPlace w.cwd target))
      else outputs.find? target := by
  induction targets generalizing outputs w with
  | nil =>
    cases h
    simp
  | cons first targets ih =>
    have hfirst := htargets first List.mem_cons_self
    have hrest := fun other hother => htargets other (List.mem_cons_of_mem _ hother)
    unfold makeOutputs at h
    cases houtput : first.output with
    | none =>
      simp only [houtput] at h
      obtain ⟨_, _, _, h⟩ := bind_eq_ok_iff.mp h
      cases h
    | some directory =>
      simp only [houtput] at h
      obtain ⟨_, u, hmake, h⟩ := bind_eq_ok_iff.mp h
      have hcwd : u.cwd = w.cwd := by
        have hquiet := (quiet_withFiles (FileAction.sameCwd_makeDirectories true directory)).of_eq
          hmake
        simp [World.cwd, hquiet.cwd]
      obtain ⟨_, _, hget, h⟩ := bind_eq_ok_iff.mp h
      cases hget
      rw [hcwd, spelled_output hsep hfirst houtput] at h
      rw [ih (hcwd ▸ hsep) hrest h, hcwd, OrderedMap.find?_insert]
      by_cases hmem : target ∈ targets
      · simp [hmem]
      · by_cases heq : target = first
        · simp [heq]
        · simp [hmem, heq]

/-- The outputs of a round are the folders of the chunk's targets. -/
theorem finalOutputs_cases {finals : FinalOutputs} (hsep : Separate chunk w.cwd)
    (h : finalOutputs ctx builder chunk w = (.ok (some finals), v)) {target : TargetId}
    (ht : target ∈ chunk.ids) :
    finals.find? target = some (spellFolder (outputPlace w.cwd target)) := by
  rw [makeOutputs_cases hsep (fun _ hother => hother) h target, if_pos ht]

end Build

end GroovyRounds
