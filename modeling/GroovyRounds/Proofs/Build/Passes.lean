import GroovyRounds.Proofs.Build.Round

/-!
# How the passes over a chunk go

A chunk that was built went through passes of one or two rounds each. Every
round that came to a verdict left its start and its end in the journal, as one
`RoundRecord`.
-/

namespace GroovyRounds

/-- A round that was started and ended, as the journal has it. -/
structure RoundRecord where
  role : Role
  dirty : DirtyFiles
  /-- The tracker when the round was started. -/
  opened : RoundTracker
  verdict : Verdict
  /-- The tracker when the round was ended. -/
  closed : RoundTracker
  outputs : List CompilerOutput

namespace RoundRecord

def entries (record : RoundRecord) : List JournalEntry :=
  [.started record.role record.dirty record.opened,
    .ended record.role record.verdict record.closed record.outputs]

/-- The source was scheduled for the next round while this one lasted. -/
def schedules (record : RoundRecord) (source : Path) : Prop :=
  source ∈ record.closed.next ∧ source ∉ record.opened.next

end RoundRecord

namespace Build

open Program

variable {ctx : Context} {stubs classes : Builder} {chunk : Chunk} {v w : World}

-- ---------------------------------------------------------------------------
-- One pass
-- ---------------------------------------------------------------------------

/-- The world in which the journal has got entries. -/
def noted (entries : List JournalEntry) (w : World) : World :=
  { w with journal := w.journal ++ entries }

@[simp] theorem run_record (entry : JournalEntry) (w : World) :
    record entry w = (.ok (), noted [entry] w) := rfl

/-- The world in which a pass over these files has begun. -/
def begun (dirty : DirtyFiles) (w : World) : World :=
  { w with tracker := w.tracker.setCurrent (dirty.map (·.2)) }

/-- The start and the end of a round, and the round between them. -/
theorem recordedRound_cases {rounds : Rounds} {role : Role} {dirty : DirtyFiles}
    {verdict : Verdict} (h : recordedRound rounds role chunk dirty w = (.ok verdict, v)) :
    ∃ u, rounds.run role chunk dirty (noted [.started role dirty w.tracker] w) =
        (.ok verdict, u) ∧
      v = noted [.ended role verdict u.tracker (u.outputs.drop w.outputs.length)] u := by
  simp only [recordedRound, run_bind, run_get, run_record] at h
  cases hrun : rounds.run role chunk dirty (noted [.started role dirty w.tracker] w) with
  | mk result u =>
    rw [hrun] at h
    cases result with
    | error failure => cases h
    | ok found =>
      cases h
      exact ⟨u, rfl, rfl⟩

/-- A pass is a round of stubs that ended it, or a round of classes after one of stubs. -/
theorem pass_cases {rounds : Rounds} {dirty : DirtyFiles} {verdict : Verdict}
    (h : pass rounds chunk dirty w = (.ok verdict, v)) :
    ∃ first u, recordedRound rounds .stubs chunk dirty (begun dirty w) = (.ok first, u) ∧
      (first = verdict ∧ v = u ∧ (verdict = .chunkRebuildRequired ∨ verdict = .abort) ∨
        first ≠ .chunkRebuildRequired ∧
          recordedRound rounds .classes chunk dirty u = (.ok verdict, v)) := by
  unfold pass at h
  obtain ⟨_, _, hbegin, h⟩ := bind_eq_ok_iff.mp h
  cases hbegin
  obtain ⟨first, u, hfirst, h⟩ := bind_eq_ok_iff.mp h
  refine ⟨first, u, hfirst, ?_⟩
  cases first with
  | chunkRebuildRequired =>
    cases h
    exact .inl ⟨rfl, rfl, .inl rfl⟩
  | abort =>
    cases h
    exact .inl ⟨rfl, rfl, .inr rfl⟩
  | ok => exact .inr ⟨nofun, h⟩
  | nothingDone => exact .inr ⟨nofun, h⟩
  | additionalPassRequired => exact .inr ⟨nofun, h⟩

-- ---------------------------------------------------------------------------
-- Pass after pass
-- ---------------------------------------------------------------------------

/-- The world in which everything is recompiled anyway. -/
def enforced (w : World) : World :=
  { w with tracker := { w.tracker with forced := true } }

/-- The world in which what was scheduled is dirty. -/
def advanced (w : World) : World :=
  { w with tracker := w.tracker.startNext }

/-- The sources that were scheduled. -/
def scheduledAmong (sources : DirtyFiles) (w : World) : DirtyFiles :=
  sources.filter fun (_, source) => w.tracker.next.contains source

/-- The passes of a chunk that was built: after the first, there is nothing to do, or a rebuild
that is the only one, or another pass. -/
theorem passes_cases {rounds : Rounds} {sources dirty : DirtyFiles} {left : Nat} {rebuilt : Bool}
    (h : passes rounds chunk sources left rebuilt dirty w = (.ok true, v)) :
    ∃ rest verdict u, left = rest + 1 ∧ pass rounds chunk dirty w = (.ok verdict, u) ∧
      ((verdict = .ok ∨ verdict = .nothingDone) ∧ v = u ∨
        verdict = .chunkRebuildRequired ∧ rebuilt = false ∧
          passes rounds chunk sources rest true sources (enforced u) = (.ok true, v) ∨
        verdict = .additionalPassRequired ∧
          passes rounds chunk sources rest rebuilt (scheduledAmong sources u) (advanced u) =
            (.ok true, v)) := by
  cases left with
  | zero =>
    simp only [passes] at h
    obtain ⟨_, _, _, h⟩ := bind_eq_ok_iff.mp h
    cases h
  | succ rest =>
    simp only [passes] at h
    obtain ⟨verdict, u, hpass, h⟩ := bind_eq_ok_iff.mp h
    refine ⟨rest, verdict, u, rfl, hpass, ?_⟩
    cases verdict with
    | ok =>
      cases h
      exact .inl ⟨.inl rfl, rfl⟩
    | nothingDone =>
      cases h
      exact .inl ⟨.inr rfl, rfl⟩
    | abort => cases h
    | chunkRebuildRequired =>
      cases rebuilt with
      | true =>
        obtain ⟨_, _, _, h⟩ := bind_eq_ok_iff.mp h
        cases h
      | false => exact .inr (.inl ⟨rfl, rfl, h⟩)
    | additionalPassRequired => exact .inr (.inr ⟨rfl, h⟩)

/-- The world in which the chunk is done with. -/
def finished (chunk : Chunk) (forced : Bool) (w : World) : World :=
  { noted [.finished] w with
    tracker := { w.tracker with forced }
    session := w.session.finish chunk }

theorem unchanged_chunkSources (ctx : Context) (chunk : Chunk) :
    Keeps Eq (chunkSources ctx chunk) := by
  unfold chunkSources
  refine Keeps.bind Keeps.get fun w => ?_
  refine Keeps.bind (Keeps.mapM fun target _ => ?_) fun _ => Keeps.pure _
  split
  · exact Keeps.pure _
  · exact Keeps.throw _

/-- A chunk that was built found its sources and went through its passes. -/
theorem buildChunk_cases
    (h : buildChunk ctx (.ofBuilders ctx stubs classes) chunk w = (.ok true, v)) :
    ∃ sources u, chunkSources ctx chunk w = (.ok sources, w) ∧
      passes (.ofBuilders ctx stubs classes) chunk sources maxRounds false sources w =
        (.ok true, u) ∧
      v = finished chunk w.tracker.forced u := by
  unfold buildChunk at h
  obtain ⟨sources, t, hsources, h⟩ := bind_eq_ok_iff.mp h
  have ht := (unchanged_chunkSources ctx chunk).of_eq hsources
  subst ht
  obtain ⟨_, _, hget, h⟩ := bind_eq_ok_iff.mp h
  cases hget
  obtain ⟨result, u, hpasses, h⟩ := bind_eq_ok_iff.mp h
  cases result with
  | error failure => cases h
  | ok built =>
    cases h
    exact ⟨sources, u, hsources, attempt_eq_ok_iff.mp hpasses, rfl⟩

end Build

end GroovyRounds
