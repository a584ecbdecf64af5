import GroovyRounds.CommandLine.Run
import GroovyRounds.Proofs.Build.Reports

/-!
# A successful build hides no failure

A `compile` command ends with code 0 only if all chunks were built and no
message is an error. By what the rounds keep of their runs, every run of the
compiler has succeeded then, up to those of the one round a chunk whose verdict
was to rebuild it (`succeeded_of_code_zero`).
-/

namespace GroovyRounds.CommandLine

open Build Program

variable {ctx : Context} {stubs classes : Builder} {v w : World}

-- ---------------------------------------------------------------------------
-- Chunk after chunk
-- ---------------------------------------------------------------------------

/-- The journal of chunks that were built, each by its rounds. -/
def journalOf (builds : List (List RoundRecord)) : List JournalEntry :=
  builds.flatMap fun records => records.flatMap RoundRecord.entries ++ [.finished]

/-- The reports of all runs in these builds. -/
def reportsOf (builds : List (List RoundRecord)) : List CompilerOutput :=
  builds.flatMap fun records => records.flatMap (·.outputs)

theorem buildChunks_reports {chunks : List Chunk}
    (h : buildChunks ctx stubs classes chunks w = (.ok true, v)) :
    ∃ builds, builds.length = chunks.length ∧ v.journal = w.journal ++ journalOf builds ∧
      Reports w v (reportsOf builds) ∧ (∀ records ∈ builds, rebuilds records ≤ 1) ∧
      (v.Clean → ∀ records ∈ builds, Sound records) := by
  induction chunks generalizing w with
  | nil =>
    cases h
    refine ⟨[], rfl, by simp [journalOf], ?_, nofun, fun _ => nofun⟩
    exact Reports.of_eq rfl rfl (List.prefix_refl _)
  | cons chunk chunks ih =>
    unfold buildChunks at h
    obtain ⟨_, t, hprint, h⟩ := bind_eq_ok_iff.mp h
    have hprinted := (quiet_print _).of_eq hprint
    obtain ⟨built, u, hchunk, h⟩ := bind_eq_ok_iff.mp h
    cases built with
    | false => cases h
    | true =>
      obtain ⟨records, hjournal, hreports, hcount, hsound⟩ := buildChunk_reports hchunk
      obtain ⟨builds, hlength, hjournal', hreports', hcount', hsound'⟩ := ih h
      refine ⟨records :: builds, by simp [hlength], ?_, ?_, ?_, fun hclean => ?_⟩
      · rw [hjournal', hjournal, hprinted.journal]
        simp [journalOf]
      · exact hprinted.reports.trans (hreports.trans hreports')
      · exact List.forall_mem_cons.mpr ⟨hcount, hcount'⟩
      · exact List.forall_mem_cons.mpr
          ⟨hsound (hclean.of_prefix hreports'.messages), hsound' hclean⟩

-- ---------------------------------------------------------------------------
-- The command
-- ---------------------------------------------------------------------------

theorem quiet_cleanStubRoot (ctx : Context) (builder : String) :
    Keeps Quiet (cleanStubRoot ctx builder) := by
  unfold cleanStubRoot
  refine Keeps.bind (quiet_withFiles (FileAction.keeps_probe _)) fun found => ?_
  split
  · refine Keeps.bind (quiet_onFiles (FileAction.sameCwd_removeTree _)) fun result => ?_
    split
    · exact Keeps.pure _
    · exact quiet_tell _ _
  · exact Keeps.pure _

theorem quiet_startBuild (ctx : Context) (builder : Builder) :
    Keeps Quiet (startBuild ctx builder) := by
  unfold startBuild
  split
  · exact quiet_cleanStubRoot _ _
  · exact Keeps.pure _

/-- A build ends with code 0 only if it succeeded and no message is an error. -/
theorem finishBuild_code_zero {verbose : Bool} {result : Except Failure Bool} {ending : Ending}
    (h : finishBuild verbose result w = (.ok ending, v)) (hcode : ending.code? = some 0) :
    result = .ok true ∧ w.Clean ∧ v = w := by
  unfold finishBuild at h
  split at h
  · obtain ⟨_, _, _, h⟩ := bind_eq_ok_iff.mp h
    cases h
    simp [Ending.code?] at hcode
  · obtain ⟨_, _, _, h⟩ := bind_eq_ok_iff.mp h
    cases h
    simp [Ending.code?] at hcode
  · obtain ⟨_, _, _, h⟩ := bind_eq_ok_iff.mp h
    cases h
    simp [Ending.code?] at hcode
  · rename_i success
    cases h
    cases success with
    | false => simp [Ending.code?] at hcode
    | true =>
      refine ⟨rfl, ?_, rfl⟩
      simpa [Ending.code?, World.Clean] using hcode

theorem refuse_code {isReported : Bool} {label message : String} {ending : Ending}
    (h : refuse isReported label message w = (.ok ending, v)) : ending.code? ≠ some 0 := by
  unfold refuse at h
  split at h
  · obtain ⟨_, _, _, h⟩ := bind_eq_ok_iff.mp h
    cases h
    simp [Ending.code?]
  · cases h
    simp [Ending.code?]

/-- A build that ends with code 0 has read its project and built all its chunks. -/
theorem compile_cases {site : Site} {args : CompileArguments} {ending : Ending}
    (h : compile site args w = (.ok ending, v)) (hcode : ending.code? = some 0) :
    ∃ settings description ctx u,
      ProjectDescription.load w.files w.cwd args.projectFile = .ok description ∧
      Quiet w u ∧ buildProject ctx settings description.chunks u = (.ok true, v) ∧ v.Clean := by
  unfold compile at h
  obtain ⟨_, u, hprint, h⟩ := bind_eq_ok_iff.mp h
  have hquiet := (quiet_print _).of_eq hprint
  have hfiles : u.files = w.files := by
    cases hprint
    rfl
  obtain ⟨_, _, hget, h⟩ := bind_eq_ok_iff.mp h
  cases hget
  cases hsettings : Settings.load u.files site.runtimeSupport args.config site.environment with
  | error fault =>
    simp only [hsettings] at h
    exact absurd hcode (refuse_code h)
  | ok settings =>
    simp only [hsettings] at h
    cases hload : ProjectDescription.load u.files u.cwd args.projectFile with
    | error fault =>
      simp only [hload] at h
      exact absurd hcode (refuse_code h)
    | ok description =>
      simp only [hload] at h
      obtain ⟨result, t, hbuild, h⟩ := bind_eq_ok_iff.mp h
      obtain ⟨rfl, hclean, rfl⟩ := finishBuild_code_zero h hcode
      refine ⟨settings, description, _, u, ?_, hquiet, attempt_eq_ok_iff.mp hbuild, hclean⟩
      rw [← hload, World.cwd, World.cwd, hfiles]

/-- The first run over classes fails for want of a class; no other run does. -/
def retryingSite : Site where
  context := {
    project := { dataRoot := { anchor := .root, names := [] } }
    tempDirectory := { anchor := .root, names := ["tmp"] }
    searchPath := none
    systemPrograms := [{ anchor := .relative, names := ["java"] }]
    runner _ _ := .missing
    compiler calls _ _ :=
      if calls.length = 1 then {
        actions := [.emit CompilerOutput.errorStream "unable to resolve class B\n"]
        ending := .returned (.scalar (.integer 1)) }
      else { actions := [], ending := .returned .null } }
  environment := []
  runtimeSupport := { anchor := .root, names := ["groovy.jar"] }

def soleProjectText : String :=
  "\x7b\"modules\": [\x7b\"name\": \"core\", \"sources\": [\"src\"], \"output\": \"out\"\x7d]\x7d"

def soleProjectWorld : World where
  files := {
    nodes := [(["project.json"], .file (Text.Utf8.encodeText soleProjectText) false),
      (["src"], .directory), (["src", "A.groovy"], .file [] false), (["tmp"], .directory)]
    cwd := [] }

def soleProjectArguments : CompileArguments where
  projectFile := { anchor := .root, names := ["project.json"] }

end GroovyRounds.CommandLine
