import GroovyRounds.Proofs.Build.Passes

/-!
# Failures are told

Every start of the compiler that came to its end is kept with what it reported.
A run that did not succeed gets an error into the messages, unless its round
ends with a rebuild of the chunk, which happens once at most. So a build
without an error message is a build whose runs succeeded (`buildChunk_reports`).
-/

namespace GroovyRounds

-- ---------------------------------------------------------------------------
-- One run
-- ---------------------------------------------------------------------------

namespace CompilerOutput

/-- The run ended with code 0, and it reported no error and no missing runtime. -/
structure Succeeded (p : CompilerOutput) : Prop where
  exitCode : p.exitCode = some 0
  noGroovy : p.noGroovy = false
  diagnostics : ∀ message ∈ p.diagnostics, message.isError = false

theorem reported_subset_messages (p : CompilerOutput) (name : String) :
    p.reported name ⊆ p.messages name := by
  unfold messages
  split
  · exact List.Subset.refl _
  · split
    · exact List.Subset.refl _
    · exact List.Subset.refl _
    · exact List.subset_append_left _ _

/-- A run that ended and whose messages hold no error has succeeded. -/
theorem succeeded_of_messages {p : CompilerOutput} {name : String} (hended : p.exitCode ≠ none)
    (h : ∀ message ∈ p.messages name, message.isError = false) : p.Succeeded := by
  have hreported : ∀ message ∈ p.reported name, message.isError = false :=
    fun message hm => h message (reported_subset_messages p name hm)
  refine ⟨?_, ?_, fun message hm => hreported message (List.mem_append_left _ hm)⟩
  · cases hexit : p.exitCode with
    | none => exact absurd hexit hended
    | some code =>
      by_cases hzero : code = 0
      · rw [hzero]
      · -- a code other than zero has been made an error
        have hnone : (p.reported name).any Message.isError = false := by
          simpa using hreported
        have hmessages : p.messages name =
            p.reported name ++ [failureMessage code (Text.trim p.errorText)] := by
          simp [messages, hnone, hexit]
        have herror := h (failureMessage code (Text.trim p.errorText)) (by simp [hmessages])
        simp [failureMessage, Message.isError] at herror
  · cases hno : p.noGroovy with
    | false => rfl
    | true =>
      have herror := hreported (noGroovyMessage name) (by simp [reported, hno])
      simp [noGroovyMessage, Message.isError] at herror

end CompilerOutput

-- ---------------------------------------------------------------------------
-- What is kept of the runs
-- ---------------------------------------------------------------------------

/-- Between the two worlds the compiler ran to its end so many times, with these reports. No
message was taken back. -/
structure Reports (before after : World) (reports : List CompilerOutput) : Prop where
  outputs : after.outputs = before.outputs ++ reports
  calls : ∃ calls, after.calls = before.calls ++ calls ∧ calls.length = reports.length
  messages : before.messages <+: after.messages

namespace Reports

variable {u v w : World} {reports later : List CompilerOutput}

theorem trans (h : Reports u v reports) (h' : Reports v w later) :
    Reports u w (reports ++ later) where
  outputs := by rw [h'.outputs, h.outputs, List.append_assoc]
  calls := by
    obtain ⟨calls, hcalls, hlength⟩ := h.calls
    obtain ⟨calls', hcalls', hlength'⟩ := h'.calls
    refine ⟨calls ++ calls', by rw [hcalls', hcalls, List.append_assoc], ?_⟩
    simp only [List.length_append, hlength, hlength']
  messages := h.messages.trans h'.messages

/-- Changes that no run made. -/
theorem of_eq (houtputs : w.outputs = v.outputs) (hcalls : w.calls = v.calls)
    (hmessages : v.messages <+: w.messages) : Reports v w [] :=
  ⟨by simp [houtputs], ⟨[], by simp [hcalls]⟩, hmessages⟩

end Reports

theorem Steady.reports {v w : World} (h : Steady v w) : Reports v w [] :=
  Reports.of_eq h.outputs h.calls h.messages

/-- No message is an error. -/
def World.Clean (w : World) : Prop :=
  ∀ message ∈ w.messages, message.isError = false

theorem World.Clean.of_prefix {v w : World} (h : w.Clean) (hvw : v.messages <+: w.messages) :
    v.Clean :=
  fun message hm => h message (hvw.subset hm)

namespace Build

open Program

variable {ctx : Context} {builder stubs classes : Builder} {chunk : Chunk} {u v w : World}

-- ---------------------------------------------------------------------------
-- One round
-- ---------------------------------------------------------------------------

/-- A message that was told has been received. -/
theorem mem_of_tell {message : Message} {a : PUnit} (h : tell ctx message w = (.ok a, v)) :
    message ∈ v.messages := by
  rw [messages_tell h]
  exact List.mem_append_right _ List.mem_cons_self

theorem mem_of_tellAll {messages : List Message} {a : PUnit}
    (h : messages.forM (tell ctx) w = (.ok a, v)) : ∀ message ∈ messages, message ∈ v.messages := by
  induction messages generalizing w with
  | nil => simp
  | cons first messages ih =>
    obtain ⟨_, u, hfirst, hrest⟩ := bind_eq_ok_iff.mp h
    intro message hm
    rcases List.mem_cons.mp hm with rfl | hm
    · exact ((quiet_tellAll ctx messages).of_eq hrest).messages.subset (mem_of_tell hfirst)
    · exact ih hrest message hm

theorem reports_runCompiler {invocation : Invocation} {parameters : List String}
    {reported : CompilerOutput}
    (h : runCompiler ctx chunk invocation parameters w = (.ok reported, v)) :
    Reports w v [reported] ∧ v.journal = w.journal ∧ reported.exitCode ≠ none := by
  have hacross : Across ctx Unrecorded (invocation.program ctx parameters w).actions :=
    fun _ _ _ _ heffect => unrecorded_effect heffect
  obtain ⟨u, hu, hquiet, hended⟩ := runCompiler_cases hacross h
  refine ⟨⟨?_, ⟨[invocation.call parameters w], ?_, rfl⟩, ?_⟩, ?_, hended⟩
  · rw [hquiet.outputs, hu.outputs]
  · rw [hquiet.calls, hu.calls]
  · have hmessages := hquiet.messages
    rwa [hu.messages] at hmessages
  · rw [hquiet.journal, hu.journal]

/-- A job that does not end with a rebuild tells what its run reported. -/
theorem reports_runJob {job : Job} {verdict : Verdict}
    (h : runJob ctx builder chunk job w = (.ok verdict, v)) :
    ∃ reported, Reports w v [reported] ∧ v.journal = w.journal ∧
      (verdict ≠ .chunkRebuildRequired → v.Clean → reported.Succeeded) := by
  obtain ⟨invocation, reported, compiled, t, u, -, hrun, hreconcile, hend⟩ := runJob_cases h
  obtain ⟨hreports, hjournal, hended⟩ := reports_runCompiler hrun
  have hquiet := (quiet_reconcileRun _ _ _ _ _ _).of_eq hreconcile
  have hordered : Reports u (escalated chunk reported.shouldRetry u) [] :=
    Reports.of_eq rfl rfl (List.prefix_refl _)
  have hbefore : Reports w (escalated chunk reported.shouldRetry u) [reported] := by
    simpa using (hreports.trans hquiet.reports).trans hordered
  have hjournal : (escalated chunk reported.shouldRetry u).journal = w.journal :=
    hquiet.journal.trans hjournal
  refine ⟨reported, ?_⟩
  rcases hend with ⟨rfl, rfl⟩ | ⟨hannounce, hverdict⟩
  · exact ⟨hbefore, hjournal, fun h => absurd rfl h⟩
  · rcases announce_cases hannounce with ⟨-, htell⟩ | ⟨-, told, htell, hregister⟩
    · have hstubs : Reports (escalated chunk reported.shouldRetry u)
          (withStubs chunk job.generationOutputs compiled
            (escalated chunk reported.shouldRetry u)) [] :=
        Reports.of_eq rfl rfl (List.prefix_refl _)
      have htold := (quiet_tellAll ctx _).of_eq htell
      refine ⟨?_, htold.journal.trans hjournal, fun _ hclean => ?_⟩
      · simpa using (hbefore.trans hstubs).trans htold.reports
      · exact CompilerOutput.succeeded_of_messages hended
          fun message hm => hclean message (mem_of_tellAll htell message hm)
    · have htold := (quiet_tellAll ctx _).of_eq htell
      have hregistered := (steady_registerRound ctx _ _ _).of_eq hregister
      refine ⟨?_, ?_, fun _ hclean => ?_⟩
      · simpa using (hbefore.trans htold.reports).trans hregistered.reports
      · rw [hregistered.journal, htold.journal, hjournal]
      · exact CompilerOutput.succeeded_of_messages hended fun message hm =>
          hclean message (hregistered.messages.subset (mem_of_tellAll htell message hm))

/-- What is cleared after a round is not a report. -/
theorem reports_cleared (role : Role) (chunk : Chunk) (w : World) :
    Reports w (cleared role chunk w) [] := by
  cases role <;> exact Reports.of_eq rfl rfl (List.prefix_refl _)

theorem journal_cleared (role : Role) (w : World) :
    (cleared role chunk w).journal = w.journal := by
  cases role <;> rfl

theorem reports_round {dirty : DirtyFiles} {verdict : Verdict}
    (h : round ctx builder chunk dirty w = (.ok verdict, v)) :
    ∃ reports, Reports w v reports ∧ v.journal = w.journal ∧
      (verdict ≠ .chunkRebuildRequired → v.Clean → ∀ report ∈ reports, report.Succeeded) := by
  obtain ⟨opening, u, hopen, hend⟩ := round_cases h
  have hquiet := (quiet_openRound _ _ _ _).of_eq hopen
  have hopened : Reports w u [] :=
    (Reports.of_eq rfl rfl (List.prefix_refl _) : Reports w (stated chunk w) []).trans
      hquiet.reports
  rcases hend with ⟨rfl, rfl⟩ | ⟨files, finals, job, s, t, -, hprepare, hjob, htidy⟩
  · refine ⟨[], hopened.trans (reports_cleared _ _ u), ?_, nofun⟩
    rw [journal_cleared, hquiet.journal]
    rfl
  · obtain ⟨t', htidied, rfl⟩ := tidyUp_cases htidy
    have hprepared := (quiet_prepare _ _ _ _ _).of_eq hprepare
    obtain ⟨reported, hreports, hjournal, hsucceeded⟩ := reports_runJob hjob
    have hafter := htidied.reports.trans (reports_cleared builder.role chunk t')
    refine ⟨[reported], ?_, ?_, fun hverdict hclean => ?_⟩
    · simpa using ((hopened.trans hprepared.reports).trans hreports).trans hafter
    · rw [journal_cleared, htidied.journal, hjournal, hprepared.journal, hquiet.journal]
      rfl
    · simpa using hsucceeded hverdict (hclean.of_prefix hafter.messages)

-- ---------------------------------------------------------------------------
-- Whole chunks
-- ---------------------------------------------------------------------------

/-- The runs of a round succeeded, unless the round ended with a rebuild. -/
def Sound (records : List RoundRecord) : Prop :=
  ∀ record ∈ records, record.verdict ≠ .chunkRebuildRequired →
    ∀ report ∈ record.outputs, report.Succeeded

theorem Sound.append {records later : List RoundRecord} (h : Sound records) (h' : Sound later) :
    Sound (records ++ later) := by
  intro record hr
  rcases List.mem_append.mp hr with hr | hr
  · exact h record hr
  · exact h' record hr

/-- How many rounds ended with a rebuild. -/
def rebuilds (records : List RoundRecord) : Nat :=
  records.countP (·.verdict = .chunkRebuildRequired)

theorem rebuilds_append (records later : List RoundRecord) :
    rebuilds (records ++ later) = rebuilds records + rebuilds later :=
  List.countP_append

/-- The journal got these rounds, and the runs between the two worlds are theirs. A world without
errors vouches for them. -/
structure Recorded (before after : World) (records : List RoundRecord) : Prop where
  journal : after.journal = before.journal ++ records.flatMap RoundRecord.entries
  reports : Reports before after (records.flatMap (·.outputs))
  sound : after.Clean → Sound records

theorem Recorded.append {records later : List RoundRecord} (h : Recorded u v records)
    (h' : Recorded v w later) : Recorded u w (records ++ later) where
  journal := by rw [h'.journal, h.journal, List.flatMap_append, List.append_assoc]
  reports := by
    rw [List.flatMap_append]
    exact h.reports.trans h'.reports
  sound hclean := (h.sound (hclean.of_prefix h'.reports.messages)).append (h'.sound hclean)

/-- Changes that no round made. -/
theorem Recorded.of_eq (hjournal : w.journal = v.journal) (houtputs : w.outputs = v.outputs)
    (hcalls : w.calls = v.calls) (hmessages : w.messages = v.messages) : Recorded v w [] :=
  ⟨by simp [hjournal], Reports.of_eq houtputs hcalls (by simp [hmessages]), fun _ => nofun⟩

theorem recorded_recordedRound {rounds : Rounds} {role : Role} {dirty : DirtyFiles}
    {verdict : Verdict} (hrun : rounds.run role chunk dirty = round ctx builder chunk dirty)
    (h : recordedRound rounds role chunk dirty w = (.ok verdict, v)) :
    ∃ record : RoundRecord, record.verdict = verdict ∧ Recorded w v [record] := by
  obtain ⟨u, hround, rfl⟩ := recordedRound_cases h
  rw [hrun] at hround
  obtain ⟨reports, hreports, hjournal, hsucceeded⟩ := reports_round hround
  have houtputs : u.outputs.drop w.outputs.length = reports := by
    rw [hreports.outputs]
    exact List.drop_left
  refine ⟨⟨role, dirty, w.tracker, verdict, u.tracker, reports⟩, rfl, ?_, ?_, ?_⟩
  · simp [noted, RoundRecord.entries, hjournal, houtputs]
  · rw [List.flatMap_singleton]
    exact ⟨hreports.outputs, hreports.calls, hreports.messages⟩
  · intro hclean record hr
    obtain rfl := List.mem_singleton.mp hr
    exact fun hverdict => hsucceeded hverdict hclean

theorem recorded_pass {dirty : DirtyFiles} {verdict : Verdict}
    (h : pass (.ofBuilders ctx stubs classes) chunk dirty w = (.ok verdict, v)) :
    ∃ records, Recorded w v records ∧
      rebuilds records = if verdict = .chunkRebuildRequired then 1 else 0 := by
  obtain ⟨firstVerdict, u, hfirst, hend⟩ := pass_cases h
  obtain ⟨first, hfirstVerdict, hrecorded⟩ := recorded_recordedRound rfl hfirst
  have hbegun : Recorded w u [first] :=
    (Recorded.of_eq rfl rfl rfl rfl : Recorded w (begun dirty w) []).append hrecorded
  rcases hend with ⟨rfl, rfl, -⟩ | ⟨hne, hsecond⟩
  · refine ⟨[first], hbegun, ?_⟩
    simp [rebuilds, List.countP_cons, hfirstVerdict]
  · obtain ⟨second, hsecondVerdict, hrecorded'⟩ := recorded_recordedRound rfl hsecond
    refine ⟨[first, second], hbegun.append hrecorded', ?_⟩
    simp [rebuilds, List.countP_cons, hfirstVerdict, hsecondVerdict, hne]

/-- A rebuild may happen in the passes of a chunk unless it has happened before. -/
theorem recorded_passes {sources dirty : DirtyFiles} {left : Nat} {rebuilt : Bool}
    (h : passes (.ofBuilders ctx stubs classes) chunk sources left rebuilt dirty w =
      (.ok true, v)) :
    ∃ records, Recorded w v records ∧ rebuilds records ≤ if rebuilt then 0 else 1 := by
  induction left generalizing rebuilt dirty w with
  | zero =>
    obtain ⟨_, _, _, hleft, -⟩ := passes_cases h
    cases hleft
  | succ left ih =>
    obtain ⟨_, verdict, u, hleft, hpass, hend⟩ := passes_cases h
    cases hleft
    obtain ⟨records, hrecords, hcount⟩ := recorded_pass hpass
    rcases hend with ⟨hdone, rfl⟩ | ⟨rfl, rfl, hnext⟩ | ⟨rfl, hnext⟩
    · refine ⟨records, hrecords, ?_⟩
      rcases hdone with rfl | rfl <;> simp [hcount]
    · obtain ⟨later, hlater, hcount'⟩ := ih hnext
      have henforced : Recorded u (enforced u) [] := Recorded.of_eq rfl rfl rfl rfl
      refine ⟨records ++ later, hrecords.append (henforced.append hlater), ?_⟩
      rw [rebuilds_append]
      simp only [if_true] at hcount hcount'
      simp only [Bool.false_eq_true, if_false]
      omega
    · obtain ⟨later, hlater, hcount'⟩ := ih hnext
      have hadvanced : Recorded u (advanced u) [] := Recorded.of_eq rfl rfl rfl rfl
      refine ⟨records ++ later, hrecords.append (hadvanced.append hlater), ?_⟩
      rw [rebuilds_append, hcount]
      simpa using hcount'

/-- What is kept of a chunk that was built. -/
theorem buildChunk_reports
    (h : buildChunk ctx (.ofBuilders ctx stubs classes) chunk w = (.ok true, v)) :
    ∃ records, v.journal = w.journal ++ records.flatMap RoundRecord.entries ++ [.finished] ∧
      Reports w v (records.flatMap (·.outputs)) ∧ rebuilds records ≤ 1 ∧
      (v.Clean → Sound records) := by
  obtain ⟨sources, u, -, hpasses, rfl⟩ := buildChunk_cases h
  obtain ⟨records, hrecords, hcount⟩ := recorded_passes hpasses
  refine ⟨records, ?_, ?_, by simpa using hcount, hrecords.sound⟩
  · simp only [finished, noted, hrecords.journal]
  · exact ⟨hrecords.reports.outputs, hrecords.reports.calls, hrecords.reports.messages⟩

end Build

end GroovyRounds
