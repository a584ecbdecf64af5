import GroovyRounds.Proofs.Build.InStep
import GroovyRounds.Proofs.Build.RebuildOrders
import GroovyRounds.Proofs.FileSystem.Growth

/-!
# Rounds with an output missing

A target without an output directory is met while the directories of the targets
before it are made. So a round that is aborted for it has registered nothing,
but it may have made directories, and it fails instead if one of them cannot be
made (`round_without_output`). Only if all of them are there already does the
round leave everything as it was.
-/

namespace GroovyRounds

open Program

/-- The output directories of the targets before the first one without. -/
def leadingOutputs (targets : List TargetId) : List Path :=
  (targets.takeWhile (·.output.isSome)).filterMap (·.output)

/-- Between the two worlds nothing was registered and no rebuild was ordered. -/
structure NoProgress (before after : World) : Prop where
  classes : SameClasses before after
  stubs : SameStubs before after
  orders : ∀ chunk, SameOrder chunk before after

/-- Between the two worlds nothing happened but that this message was told. -/
structure Aborted (message : Message) (before after : World) : Prop
    extends NoProgress before after where
  files : after.files = before.files
  messages : after.messages = before.messages ++ [message]

theorem NoProgress.trans {u v w : World} (h : NoProgress u v) (h' : NoProgress v w) :
    NoProgress u w where
  classes := h.classes.trans h'.classes
  stubs := h.stubs.trans h'.stubs
  orders chunk := IsTrans.trans _ _ _ (h.orders chunk) (h'.orders chunk)

theorem Quiet.noProgress {v w : World} (h : Quiet v w) : NoProgress v w where
  classes := h.sameClasses
  stubs := h.toSteady.sameStubs
  orders := h.toSteady.sameOrder

/-- A chunk's state may change but for its stubs and its order. -/
theorem noProgress_setState (w : World) (chunk : Chunk) (state : ChunkState)
    (hstubs : state.stubSources = (w.session.state chunk).stubSources)
    (horder : state.rebuildOrdered = (w.session.state chunk).rebuildOrdered) :
    NoProgress w { w with session := w.session.setState chunk state } where
  classes := ⟨rfl, rfl, rfl, rfl⟩
  stubs := sameStubs_setState w chunk state hstubs
  orders _ := sameOrder_setState w horder

namespace Build

open FileAction (makeAll makeDirectories)

variable {ctx : Context} {builder : Builder} {chunk : Chunk} {dirty : DirtyFiles} {v w : World}
variable {target : TargetId} {targets : List TargetId}

-- ---------------------------------------------------------------------------
-- Outputs up to the missing one
-- ---------------------------------------------------------------------------

theorem run_tell_of_refuses {message : Message} {failure : Failure}
    (h : ctx.refuses message = some failure) (w : World) :
    tell ctx message w = (.error failure, w) := by
  simp only [tell, h, run_throw]

/-- Two actions on files, one after the other, are one action on files. -/
theorem run_withFiles_bind {α β : Type} (first : FileAction α) (second : α → FileAction β)
    (w : World) :
    withFiles (first >>= second) w =
      (do withFiles (second (← withFiles first)) : Build β) w := by
  rw [run_bind, run_withFiles, run_withFiles, run_bind]
  cases first w.files with
  | mk result files =>
    cases result with
    | ok a => simp only [Except.mapError, run_withFiles]
    | error fault => rfl

/-- The directories before the missing one are made, then it is told. -/
theorem run_makeOutputs_of_missing (builder : String) (outputs : FinalOutputs)
    (hfirst : targets.find? (·.output.isNone) = some target) (w : World) :
    makeOutputs ctx builder targets outputs w =
      (do
        withFiles (makeAll (leadingOutputs targets))
        tell ctx (noOutputMessage target builder)
        return none : Build (Option FinalOutputs)) w := by
  induction targets generalizing outputs w with
  | nil => cases hfirst
  | cons other targets ih =>
    cases houtput : other.output with
    | none =>
      have hother : other = target := by simpa [houtput] using hfirst
      subst hother
      have hleading : leadingOutputs (other :: targets) = [] := by simp [leadingOutputs, houtput]
      rw [makeOutputs, houtput, hleading]
      rfl
    | some directory =>
      have hrest : targets.find? (·.output.isNone) = some target := by
        simpa [houtput] using hfirst
      have hleading : leadingOutputs (other :: targets) = directory :: leadingOutputs targets := by
        simp [leadingOutputs, houtput]
      have hmake : makeAll (directory :: leadingOutputs targets) =
          makeDirectories true directory >>= fun _ => makeAll (leadingOutputs targets) := rfl
      rw [makeOutputs, houtput, hleading, hmake]
      dsimp only
      rw [run_bind, run_bind (withFiles (makeDirectories true directory >>= _)),
        run_withFiles_bind, run_bind]
      cases withFiles (makeDirectories true directory) w with
      | mk made u =>
        cases made with
        | error failure => rfl
        | ok _ =>
          dsimp only
          rw [run_bind, run_get]
          dsimp only
          rw [ih _ hrest, run_bind]

/-- A round with files that misses an output is decided by the outputs before it. -/
theorem run_round_of_missing (hfirst : chunk.ids.find? (·.output.isNone) = some target)
    (hfiles : changedFiles ctx.project builder.settings builder.role dirty ≠ []) (w : World) :
    round ctx builder chunk dirty w =
      match (do
          withFiles (makeAll (leadingOutputs chunk.ids))
          tell ctx (noOutputMessage target builder.name) : Build Unit) (stated chunk w) with
      | (.ok _, u) => (.ok .abort, cleared builder.role chunk u)
      | (.error failure, u) =>
        (.error (roundFailure builder chunk failure), cleared builder.role chunk u) := by
  have hopen : openRound ctx builder chunk dirty (stated chunk w) =
      (do
        withFiles (makeAll (leadingOutputs chunk.ids))
        tell ctx (noOutputMessage target builder.name)
        return .decided .abort : Build Opening) (stated chunk w) := by
    rw [openRound, if_neg (by simpa using hfiles), finalOutputs, run_bind,
      run_makeOutputs_of_missing _ _ hfirst]
    simp only [run_bind]
    cases withFiles (makeAll (leadingOutputs chunk.ids)) (stated chunk w) with
    | mk made u =>
      cases made with
      | error failure => rfl
      | ok _ =>
        dsimp only
        cases tell ctx (noOutputMessage target builder.name) u with
        | mk told t => cases told <;> rfl
  rw [round, run_bind_of_ok (run_chunkState w), run_bind, run_attempt, hopen]
  simp only [run_bind]
  cases withFiles (makeAll (leadingOutputs chunk.ids)) (stated chunk w) with
  | mk made u =>
    cases made with
    | error failure => simp only [run_bind, run_tidyUp_none, run_throw]
    | ok _ =>
      dsimp only
      cases tell ctx (noOutputMessage target builder.name) u with
      | mk told t =>
        cases told <;> simp only [run_bind, run_tidyUp_none, run_throw, run_pure]

-- ---------------------------------------------------------------------------
-- What such a round leaves
-- ---------------------------------------------------------------------------

theorem noProgress_stated (chunk : Chunk) (w : World) : NoProgress w (stated chunk w) :=
  noProgress_setState w chunk _ rfl rfl

theorem noProgress_cleared (role : Role) (chunk : Chunk) (w : World) :
    NoProgress w (cleared role chunk w) := by
  cases role with
  | stubs => exact (Quiet.refl w).noProgress
  | classes => exact noProgress_setState w chunk _ rfl rfl

theorem messages_cleared (role : Role) (chunk : Chunk) (w : World) :
    (cleared role chunk w).messages = w.messages := by
  cases role <;> rfl

/-- Directories are made, and the message is told if they could be. -/
theorem makeThenTell_cases {outputs : List Path} {message : Message} {told : Except Failure Unit}
    (h : (do withFiles (makeAll outputs); tell ctx message : Build Unit) w = (told, v)) :
    v.files = (makeAll outputs w.files).2 ∧
      ((∃ fault, (makeAll outputs w.files).1 = .error fault ∧ told = .error (.files fault) ∧
          v.messages = w.messages) ∨
        (∃ failure, (makeAll outputs w.files).1 = .ok () ∧ ctx.refuses message = some failure ∧
          told = .error failure ∧ v.messages = w.messages) ∨
        (makeAll outputs w.files).1 = .ok () ∧ ctx.refuses message = none ∧ told = .ok () ∧
          v.messages = w.messages ++ [message]) := by
  rw [run_bind, run_withFiles] at h
  cases hmade : makeAll outputs w.files with
  | mk made files =>
    rw [hmade] at h
    cases made with
    | error fault =>
      cases h
      exact ⟨rfl, .inl ⟨fault, rfl, rfl, rfl⟩⟩
    | ok _ =>
      simp only [Except.mapError] at h
      cases hrefuses : ctx.refuses message with
      | some failure =>
        rw [run_tell_of_refuses hrefuses] at h
        cases h
        exact ⟨rfl, .inr (.inl ⟨failure, rfl, rfl, rfl, rfl⟩)⟩
      | none =>
        obtain ⟨console, htell⟩ := run_tell hrefuses { w with files }
        rw [htell] at h
        cases h
        exact ⟨rfl, .inr (.inr ⟨rfl, rfl, rfl, rfl⟩)⟩

/-- A round with files that misses an output registers nothing, and of files it adds only
directories along the outputs before the missing one. It is aborted with one message about that
target if those directories can be made and the message is taken, else it fails. It leaves
everything as it was, and is aborted, exactly if they are all there and the message is taken. -/
theorem round_without_output {result : Except Failure Verdict}
    (hfirst : chunk.ids.find? (·.output.isNone) = some target)
    (hfiles : changedFiles ctx.project builder.settings builder.role dirty ≠ [])
    (h : round ctx builder chunk dirty w = (result, v)) :
    let message := noOutputMessage target builder.name
    let outputs := leadingOutputs chunk.ids
    let made := makeAll outputs w.files
    (result = .ok .abort ∧ Aborted message w v ↔
      ctx.refuses message = none ∧ ∀ output ∈ outputs, w.files.isDirectory output = true) ∧
    NoProgress w v ∧ v.files = made.2 ∧ ExtendsAlong outputs w.files v.files ∧
    ((∃ fault, made.1 = .error fault ∧
        result = .error (roundFailure builder chunk (.files fault)) ∧ v.messages = w.messages) ∨
      (∃ failure, made.1 = .ok () ∧ ctx.refuses message = some failure ∧
        result = .error (roundFailure builder chunk failure) ∧ v.messages = w.messages) ∨
      made.1 = .ok () ∧ ctx.refuses message = none ∧ result = .ok .abort ∧
        v.messages = w.messages ++ [message]) := by
  intro message outputs made
  have hextends : ExtendsAlong outputs w.files made.2 :=
    FileAction.extendsAlong_makeAll outputs w.files
  have hthere : (∀ output ∈ outputs, w.files.isDirectory output = true) ↔
      made.1 = .ok () ∧ made.2 = w.files := by
    rw [← FileAction.makeAll_unchanged_iff, Prod.ext_iff]
  rw [run_round_of_missing hfirst hfiles] at h
  cases hrun : (do withFiles (makeAll outputs); tell ctx message : Build Unit) (stated chunk w) with
  | mk told u =>
    have hquiet : Quiet (stated chunk w) u := by
      have hkeeps : Keeps Quiet (do withFiles (makeAll outputs); tell ctx message : Build Unit) :=
        Keeps.bind (quiet_withFiles ((FileAction.extendsAlong_makeAll outputs).mono
          fun _ _ h => h.cwd)) fun _ => quiet_tell ctx message
      exact hkeeps.of_eq hrun
    obtain ⟨hleft, hcases⟩ := makeThenTell_cases hrun
    have hv : v = cleared builder.role chunk u := by
      cases told <;> (rw [hrun] at h; cases h; rfl)
    have hresult : result = (told.map fun _ => Verdict.abort).mapError
        (roundFailure builder chunk) := by
      cases told <;> (rw [hrun] at h; cases h; rfl)
    have hnone : NoProgress w v := by
      rw [hv]
      exact ((noProgress_stated chunk w).trans hquiet.noProgress).trans (noProgress_cleared _ _ u)
    have hvfiles : v.files = made.2 := by rw [hv, files_cleared, hleft]; rfl
    have hmessages : v.messages = u.messages := by rw [hv, messages_cleared]
    have hends : (∃ fault, made.1 = .error fault ∧
          result = .error (roundFailure builder chunk (.files fault)) ∧
          v.messages = w.messages) ∨
        (∃ failure, made.1 = .ok () ∧ ctx.refuses message = some failure ∧
          result = .error (roundFailure builder chunk failure) ∧ v.messages = w.messages) ∨
        made.1 = .ok () ∧ ctx.refuses message = none ∧ result = .ok .abort ∧
          v.messages = w.messages ++ [message] := by
      rw [hresult, hmessages]
      rcases hcases with ⟨fault, hfault, rfl, htold⟩ | ⟨failure, hok, hrefuses, rfl, htold⟩ |
        ⟨hok, hrefuses, rfl, htold⟩
      · exact .inl ⟨fault, hfault, rfl, htold⟩
      · exact .inr (.inl ⟨failure, hok, hrefuses, rfl, htold⟩)
      · exact .inr (.inr ⟨hok, hrefuses, rfl, htold⟩)
    refine ⟨?_, hnone, hvfiles, hvfiles ▸ hextends, hends⟩
    rw [hthere, ← hvfiles]
    constructor
    · rintro ⟨habort, haborted⟩
      rcases hends with ⟨_, -, hother, -⟩ | ⟨_, -, -, hother, -⟩ | ⟨hok, htakes, -, -⟩
      · rw [hother] at habort
        cases habort
      · rw [hother] at habort
        cases habort
      · exact ⟨htakes, hok, haborted.files⟩
    · rintro ⟨htakes, hok, hfiles⟩
      rcases hends with ⟨_, hfault, -⟩ | ⟨_, -, hrefuses, -⟩ | ⟨-, -, habort, htold⟩
      · rw [hok] at hfault
        cases hfault
      · rw [htakes] at hrefuses
        cases hrefuses
      · exact ⟨habort, { hnone with files := hfiles, messages := htold }⟩

/-- A chunk whose second module has no output directory. -/
def incompleteChunk : Chunk where
  representative := moduleTarget "core"
  others := [{ moduleTarget "app" with output := none }]

/-- A world with the sole source and these other files and directories. -/
def worldWith (nodes : List (Location × Node)) : World :=
  { soleWorld with files := { soleWorld.files with nodes := soleWorld.files.nodes ++ nodes } }

/-- A round of classes of the incomplete chunk. -/
def incompleteRound : Build Verdict :=
  round schedulingContext (inProcessBuilder .classes) incompleteChunk
    [((moduleTarget "core").toTargetId, soleSource)]

def missingMessage : Message :=
  noOutputMessage { moduleTarget "app" with output := none }.toTargetId
    (inProcessBuilder .classes).name

/-- With the first output in place, the round leaves everything as it was. -/
theorem incompleteRound_aborted :
    let world := worldWith [(["out"], .directory), (["out", "core"], .directory)]
    ∃ v, incompleteRound world = (.ok .abort, v) ∧ Aborted missingMessage world v := by
  intro world
  have hround : incompleteRound world = (.ok .abort, (incompleteRound world).2) :=
    Prod.ext (by decide +kernel) rfl
  have hfirst : incompleteChunk.ids.find? (·.output.isNone) =
      some { moduleTarget "app" with output := none }.toTargetId := by decide +kernel
  obtain ⟨hiff, -⟩ := round_without_output hfirst (by decide +kernel) hround
  exact ⟨_, hround, (hiff.mpr ⟨rfl, by decide +kernel⟩).2⟩

/-- Without it, the aborted round makes it. With a file in its way, the round is not aborted, and
nothing is told. -/
theorem incompleteRound_not_in_place :
    (∃ v, incompleteRound soleWorld = (.ok .abort, v) ∧
      soleWorld.files.node? ["out", "core"] = none ∧
      v.files.node? ["out", "core"] = some .directory) ∧
    ∃ result v, incompleteRound (worldWith [(["out"], .file [] false)]) = (result, v) ∧
      result ≠ .ok .abort ∧ v.messages = [] := by
  constructor
  · exact ⟨(incompleteRound soleWorld).2, Prod.ext (by decide +kernel) rfl, by decide +kernel⟩
  · exact ⟨_, _, rfl, by decide +kernel⟩

end Build

end GroovyRounds
