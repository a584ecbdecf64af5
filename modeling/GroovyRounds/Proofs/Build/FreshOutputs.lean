import GroovyRounds.Proofs.Build.Preparation
import GroovyRounds.Proofs.Build.StubPlaces
import GroovyRounds.Proofs.FileSystem.Vacancy

/-!
# Fresh output directories

Where the ways are open, the output directories of a chunk can be made
(`run_makeOutputs`), and its stub directories can be made anew, with nothing in
them (`run_stubOutputs`).
-/

namespace GroovyRounds

open FileSystem Path

namespace Build

open Program

variable {ctx : Context} {builder : String} {chunk : Chunk} {place : TargetId → Location}
variable {targets : List TargetId} {w : World} {a b : FileSystem}

-- ---------------------------------------------------------------------------
-- Output directories
-- ---------------------------------------------------------------------------

/-- The output directory of a target can be made at its place, from a directory that is there. -/
def OutputOpen (place : TargetId → Location) (target : TargetId) (fs : FileSystem) : Prop :=
  ∃ directory, target.output = some directory ∧ fs.Open directory ∧
    fs.start directory ++ directory.names = place target ∧
    ∀ above, above <+: fs.start directory → fs.node? above = some .directory

instance (place : TargetId → Location) (target : TargetId) (fs : FileSystem) :
    Decidable (OutputOpen place target fs) :=
  inferInstanceAs (Decidable (∃ directory ∈ target.output, fs.Open directory ∧
    fs.start directory ++ directory.names = place target ∧
    ∀ above, above <+: fs.start directory → fs.node? above = some .directory))

theorem OutputOpen.contained {inside ways : Set Location} {target : TargetId}
    (h : OutputOpen place target a) (hcontained : Contained inside ways a b)
    (hinside : ∀ root ∈ inside, ¬ root <+: place target) : OutputOpen place target b := by
  obtain ⟨directory, houtput, hopen, hplace, hpaved⟩ := h
  have hstart : b.start directory = a.start directory := by
    simp [FileSystem.start, hcontained.cwd]
  refine ⟨directory, houtput, hcontained.openWay (hplace ▸ hinside) hopen, hstart ▸ hplace, ?_⟩
  rw [hstart]
  refine hcontained.paved (fun root hroot hbelow => hinside root hroot ?_) hpaved
  exact hplace ▸ hbelow.trans (List.prefix_append _ _)

/-- No file stands on the way to an output directory. -/
theorem OutputOpen.not_file {target : TargetId} {above : Location} {content : List UInt8}
    {executable : Bool} (h : OutputOpen place target a) (habove : above <+: place target) :
    a.node? above ≠ some (.file content executable) := by
  obtain ⟨directory, -, hopen, hplace, hpaved⟩ := h
  rw [← hplace] at habove
  rcases List.prefix_or_prefix_of_prefix habove (List.prefix_append _ directory.names) with
    hstart | ⟨front, rfl⟩
  · rw [hpaved above hstart]
    exact nofun
  · exact hopen.clear front ((List.prefix_append_right_inj _).mp habove) content executable

/-- There is room for files in an output directory with nothing in it. -/
theorem OutputOpen.room {target : TargetId} {names : List String} (h : OutputOpen place target a)
    (hvacant : a.Vacant (place target)) (hplain : ∀ name ∈ place target ++ names, IsPlain name)
    (hnames : names ≠ []) (hadmissible : Admissible (place target ++ names)) :
    a.Room (place target ++ names) where
  leads := ⟨by simp [hnames], hplain, hadmissible.no_zero⟩
  fits _ habove := Nat.lt_of_le_of_lt (utf8ByteSize_below_le habove) hadmissible.fits
  short := hadmissible.short
  clear above habove _ content executable hfile := by
    rcases List.prefix_or_prefix_of_prefix habove (List.prefix_append _ names) with hup | hdown
    · exact h.not_file hup hfile
    · by_cases heq : above = place target
      · exact h.not_file (heq ▸ List.prefix_refl _) hfile
      · rw [hvacant above hdown heq] at hfile
        cases hfile
  free := by
    rw [hvacant.of_append hnames]
    exact nofun

/-- Output directories that can be made are made. -/
theorem run_makeOutputs (ctx : Context) (builder : String) (outputs : FinalOutputs)
    (hopen : ∀ target ∈ targets, OutputOpen place target w.files) :
    ∃ finals files, makeOutputs ctx builder targets outputs w =
        (.ok (some finals), { w with files }) ∧ (w.files.Rooted → files.Rooted) ∧
      (∀ target ∈ targets, ∀ above, above <+: place target →
        files.node? above = some .directory) ∧
      Contained ∅ {goal | ∃ target ∈ targets, goal = place target} w.files files := by
  induction targets generalizing outputs w with
  | nil => exact ⟨outputs, w.files, rfl, id, nofun, .refl _ _ _⟩
  | cons target targets ih =>
    obtain ⟨⟨directory, houtput, hway, hplace, hstart⟩, hothers⟩ := List.forall_mem_cons.mp hopen
    obtain ⟨made, hmake, hpaved⟩ := FileAction.makeDirectories_of_open hway (.inl rfl)
    have hextends := (FileAction.extends_makeDirectories true directory).of_eq hmake
    have hfirst : Contained ∅ {goal | ∃ other ∈ target :: targets, goal = place other}
        w.files made :=
      hextends.contained hway.no_dots ⟨target, List.mem_cons_self, hplace⟩
        fun htidy => htidy.makeDirectories hway (.inl rfl) hmake
    have hthere : ∀ above, above <+: place target → made.node? above = some .directory := by
      intro above habove
      rw [← hplace] at habove
      rcases List.prefix_or_prefix_of_prefix habove (List.prefix_append _ _) with hup | ⟨front, rfl⟩
      · exact hextends.kept (hstart above hup)
      · rw [← hextends.start]
        exact hpaved front ((List.prefix_append_right_inj _).mp habove)
    obtain ⟨finals, files, hrun, hrooted, hmade, hrest⟩ := ih (w := { w with files := made })
      (outputs.insert target (withTrailingSlash
        (withSlashes (directory.resolve { w with files := made }.cwd).toString)))
      (fun other hother => (hothers other hother).contained hfirst nofun)
    refine ⟨finals, files, ?_, fun h => ?_, List.forall_mem_cons.mpr ⟨?_, hmade⟩, ?_⟩
    · rw [makeOutputs, houtput]
      exact (run_bind_of_ok (withFiles_eq_ok_iff.mpr ⟨made, hmake, rfl⟩)).trans hrun
    · exact hrooted (h.of_extends hextends hway.no_dots (by simp [hway.start]) hpaved)
    · exact hrest.paved nofun hthere
    · refine hfirst.trans (hrest.mono (Set.Subset.refl _) ?_)
      rintro goal ⟨other, hother, rfl⟩
      exact ⟨other, List.mem_cons_of_mem _ hother, rfl⟩

-- ---------------------------------------------------------------------------
-- Stub directories
-- ---------------------------------------------------------------------------

/-- A directory at the end of an open way is removed with all that lies in it. -/
theorem run_removeTree {goal : Location} {fs : FileSystem} (hopen : fs.Open (below goal))
    (hlocate : fs.locate (below goal) = .ok goal) (hnode : fs.node? goal = some .directory) :
    FileAction.removeTree (below goal) fs = (.ok (), fs.prune goal) := by
  have hentry : FileAction.entry (below goal) fs = (.ok (goal, .directory), fs) := by
    rw [FileAction.run_entry, hopen.no_zero, stat, hlocate]
    simp [hnode]
  unfold FileAction.removeTree
  rw [run_bind_of_ok hentry]
  rfl

/-- What a path leads to is looked up in the files of the world. -/
theorem run_probe {p : Path} {found : Option Node} (h : w.files.probe p = .ok found) :
    withFiles (FileAction.probe p) w = (.ok found, w) := by
  refine withFiles_eq_ok_iff.mpr ⟨w.files, ?_, rfl⟩
  simp only [FileAction.probe, run_bind, run_get, h, run_pure]

section
variable {goal : Location} (hopen : w.files.Open (below goal)) (hrooted : w.files.Rooted)
variable (hroot : goal ≠ [])
include hopen hrooted hroot

/-- A directory that is cleared is gone with all that lay in it. -/
theorem run_clearDirectory :
    ∃ files, clearDirectory (below goal) w = (.ok (), { w with files }) ∧ files.Rooted ∧
      (∀ other, goal <+: other → files.node? other = none) ∧
      Contained {goal} {goal} w.files files := by
  unfold clearDirectory
  have hend : w.files.node? goal = none ∧ w.files.probe (below goal) = .ok none ∨
      w.files.node? goal = some .directory ∧ w.files.locate (below goal) = .ok goal ∧
        w.files.probe (below goal) = .ok (some .directory) :=
    hopen.probe_of_rooted hrooted
  rcases hend with ⟨hnone, hfound⟩ | ⟨hnode, hlocate, hfound⟩
  · rw [run_bind_of_ok (run_probe hfound)]
    refine ⟨w.files, rfl, hrooted, fun other => hrooted.none_below hnone, .refl _ _ _⟩
  · rw [run_bind_of_ok (run_probe hfound)]
    have hremove := run_removeTree hopen hlocate hnode
    refine ⟨w.files.prune goal, ?_, hrooted.prune goal, fun other hbelow => ?_,
      contained_prune rfl⟩
    · simp only [Option.isSome_some, if_true, run_bind, run_onFiles, hremove, run_pure]
    · refine node?_prune_of_below hbelow ?_
      rintro rfl
      exact hroot (List.prefix_nil.mp hbelow)

/-- A directory that is made anew is there, and nothing lies in it. -/
theorem run_recreateDirectory :
    ∃ files, recreateDirectory (below goal) w = (.ok (), { w with files }) ∧ files.Rooted ∧
      files.Laid goal ∧ Contained {goal} {goal} w.files files := by
  obtain ⟨empty, hclear, hrooted', hnone, hcleared⟩ := run_clearDirectory hopen hrooted hroot
  have hfree : empty.node? goal = none := hnone goal (List.prefix_refl _)
  have hopen' : empty.Open (below goal) := by
    refine { hopen with start := rfl, clear := fun front hfront content executable => ?_ }
    change empty.node? front ≠ _
    rcases hcleared.nodes front with hsame | ⟨_, rfl, hbelow⟩ | ⟨-, hdirectory, -⟩
    · rw [hsame]
      exact hopen.clear front hfront content executable
    · rw [hnone front hbelow]
      exact nofun
    · rw [hdirectory]
      exact nofun
  obtain ⟨made, hmake, hpaved⟩ := FileAction.makeDirectories_of_open hopen' (.inr hfree)
  have hextends := (FileAction.extends_makeDirectories false (below goal)).of_eq hmake
  have hmade : Contained {goal} {goal} empty made :=
    hextends.contained hopen'.no_dots rfl fun htidy =>
      htidy.makeDirectories hopen' (.inr hfree) hmake
  refine ⟨made, ?_, ?_, ⟨hpaved, ?_⟩, hcleared.trans hmade⟩
  · rw [recreateDirectory, run_bind_of_ok hclear]
    simp only [makeDirectory, run_bind, run_onFiles, hmake, run_pure]
  · exact hrooted'.of_extends hextends hopen'.no_dots (by simp [hopen'.start]) hpaved
  · intro other hbelow hne
    rcases hextends.nodes other with hsame | ⟨-, -, hvisits⟩
    · rw [hsame, hnone other hbelow]
    · obtain ⟨front, hfront, rfl⟩ := hvisits
      rw [walk_of_plain fun hm => hopen'.no_dots (hfront.subset hm)] at hbelow hne
      exact absurd (List.IsPrefix.eq_of_length_le hfront hbelow.length_le) hne

end

/-- Stub directories that can be made are made anew. -/
theorem run_stubOutputs (outputs : Outputs)
    (htexts : ∀ target ∈ targets, ctx.project.stubDirectory target = .ok (below (place target)))
    (hroots : ∀ target ∈ targets, place target ≠ [])
    (hapart : targets.Pairwise fun target other => Aside (place target) (place other))
    (hopen : ∀ target ∈ targets, w.files.Open (below (place target)))
    (hrooted : w.files.Rooted) :
    ∃ made files, (targets.foldlM (fun outputs target => do
        let directory ← ofExcept (ctx.project.stubDirectory target)
        recreateDirectory directory
        return outputs.insert target (withSlashes directory.toString)) outputs : Build Outputs) w =
          (.ok made, { w with files }) ∧ files.Rooted ∧
      (∀ target ∈ targets, files.Laid (place target)) ∧
      Contained {goal | ∃ target ∈ targets, goal = place target}
        {goal | ∃ target ∈ targets, goal = place target} w.files files := by
  induction targets generalizing outputs w with
  | nil => exact ⟨outputs, w.files, rfl, hrooted, nofun, .refl _ _ _⟩
  | cons target targets ih =>
    obtain ⟨htext, htexts⟩ := List.forall_mem_cons.mp htexts
    obtain ⟨hroot, hroots⟩ := List.forall_mem_cons.mp hroots
    obtain ⟨haside, hapart⟩ := List.pairwise_cons.mp hapart
    obtain ⟨hway, hothers⟩ := List.forall_mem_cons.mp hopen
    obtain ⟨anew, hrecreate, hrooted', hlaid, hchanged⟩ := run_recreateDirectory hway hrooted hroot
    have hopen' : ∀ other ∈ targets, anew.Open (below (place other)) := by
      intro other hother
      refine hchanged.openWay ?_ (hothers other hother)
      rintro _ rfl
      exact (haside other hother).1
    obtain ⟨made, files, hrun, hrooted'', hmade, hrest⟩ := ih (w := { w with files := anew })
      (outputs.insert target (withSlashes (below (place target)).toString))
      htexts hroots hapart hopen' hrooted'
    refine ⟨made, files, ?_, hrooted'', List.forall_mem_cons.mpr ⟨?_, hmade⟩, ?_⟩
    · rw [List.foldlM_cons]
      refine (run_bind_of_ok ?_).trans hrun
      simp only [htext, run_bind, run_ofExcept, hrecreate, run_pure]
    · refine hrest.laid ?_ ?_ hlaid
      · rintro _ ⟨other, hother, rfl⟩
        exact (haside other hother).symm
      · rintro _ ⟨other, hother, rfl⟩ hover
        exact absurd hover (haside other hother).1
    · have hsub : {goal | ∃ other ∈ targets, goal = place other} ⊆
          {goal | ∃ other ∈ target :: targets, goal = place other} := by
        rintro goal ⟨other, hother, rfl⟩
        exact ⟨other, List.mem_cons_of_mem _ hother, rfl⟩
      have hone : {place target} ⊆ {goal | ∃ other ∈ target :: targets, goal = place other} := by
        rintro _ rfl
        exact ⟨target, List.mem_cons_self, rfl⟩
      exact (hchanged.mono hone hone).trans (hrest.mono hsub hsub)

end Build

end GroovyRounds
