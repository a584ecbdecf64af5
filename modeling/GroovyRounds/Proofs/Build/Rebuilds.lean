import GroovyRounds.Proofs.Build.Keeping
import GroovyRounds.Proofs.Build.Passes

/-!
# Rebuilds

A chunk is rebuilt from scratch once at most, whatever the compiler reports and
however the build ends (`rebuild_once`). Two mechanisms see to it: a round
orders no rebuild while recompilation is forced, and once the chunk is rebuilt
recompilation is forced. So there is no second order to refuse: what stands in
that branch of the passes makes no difference (`run_passesOr`).
-/

namespace GroovyRounds

open Program

-- ---------------------------------------------------------------------------
-- The flag of forced recompilation
-- ---------------------------------------------------------------------------

/-- The flag of forced recompilation and the journal are as they were. -/
structure FlagKept (before after : World) : Prop where
  forced : after.tracker.forced = before.tracker.forced
  journal : after.journal = before.journal

namespace FlagKept

variable {u v w : World}

theorem refl (w : World) : FlagKept w w :=
  ⟨rfl, rfl⟩

theorem trans (h : FlagKept u v) (h' : FlagKept v w) : FlagKept u w :=
  ⟨h'.forced.trans h.forced, h'.journal.trans h.journal⟩

instance : Std.Refl FlagKept := ⟨refl⟩

instance : IsTrans World FlagKept := ⟨fun _ _ _ => trans⟩

end FlagKept

theorem forced_schedule (tracker : RoundTracker) (source : Path) :
    (tracker.schedule source).forced = tracker.forced := by
  unfold RoundTracker.schedule
  split <;> rfl

theorem forced_scheduleDue (ctx : Context) (compiled : Option String) (tracker : RoundTracker)
    (state : ChunkState) :
    (scheduleDue ctx compiled tracker state).1.forced = tracker.forced := by
  unfold scheduleDue
  split
  · exact forced_schedule _ _
  · rfl

theorem flagKept_postProcess (ctx : Context) (chunk : Chunk) (compiled : Option String)
    (w : World) : FlagKept w (w.postProcess ctx chunk compiled) := by
  have hfold (n : List Nat) (a : RoundTracker × ChunkState) :
      (n.foldl (fun pair _ => scheduleDue ctx compiled pair.1 pair.2) a).1.forced =
        a.1.forced := by
    induction n generalizing a with
    | nil => rfl
    | cons _ n ih => exact (ih _).trans (forced_scheduleDue _ _ _ _)
  exact ⟨hfold _ (w.tracker, w.session.state chunk), rfl⟩

/-- Nothing that happens while the compiler runs sets or clears the flag. -/
theorem flagKept_effect {ctx : Context} {action : CompilerAction} {v w : World}
    (h : ActionEffect ctx action v w) : FlagKept v w := by
  cases h with
  | emit stream text => exact .refl v
  | write p content => exact ⟨rfl, rfl⟩
  | remove p => exact ⟨rfl, rfl⟩
  | postProcess chunk compiled => exact flagKept_postProcess ctx chunk compiled v
  | schedule h =>
    obtain rfl := World.eq_of_schedule? h
    exact ⟨forced_schedule _ _, rfl⟩
  | unscheduled chunk source => exact .refl v

theorem roundKeeps_flagKept (ctx : Context) : RoundKeeps ctx FlagKept where
  steady _ _ h := ⟨h.forced, h.journal⟩
  session _ _ := ⟨rfl, rfl⟩
  tempRoots _ _ := ⟨rfl, rfl⟩
  calls _ _ := ⟨rfl, rfl⟩
  outputs _ _ := ⟨rfl, rfl⟩
  actions _ _ _ _ _ _ _ h := flagKept_effect h

namespace Build

variable {ctx : Context} {builder stubs classes : Builder} {chunk : Chunk} {v w : World}

/-- No rebuild is ordered while recompilation is forced. -/
theorem forced_of_settleJob {job : Job} {reported : CompilerOutput}
    (h : settleJob ctx builder chunk job reported w = (.ok .chunkRebuildRequired, v)) :
    w.tracker.forced = false := by
  obtain ⟨compiled, u, hreconcile, h⟩ := bind_eq_ok_iff.mp h
  have hkept := (quiet_reconcileRun _ _ _ _ _ _).of_eq hreconcile
  rw [run_bind_of_ok (run_orderRebuild _ u)] at h
  split at h
  · rename_i hordered
    rw [← hkept.forced]
    cases hforced : u.tracker.forced with
    | false => rfl
    | true => simp [ChunkState.escalate, hforced] at hordered
  · obtain ⟨_, t, -, h⟩ := bind_eq_ok_iff.mp h
    rw [run_verdictOr] at h
    split at h <;> cases h

theorem forced_of_round {dirty : DirtyFiles}
    (h : round ctx builder chunk dirty w = (.ok .chunkRebuildRequired, v)) :
    w.tracker.forced = false := by
  have hkeeps := roundKeeps_flagKept ctx
  obtain ⟨opening, u, hopen, hend⟩ := round_cases h
  have hopened : FlagKept w u := (hkeeps.session w _).trans
    ((keeps_of_quiet hkeeps (quiet_openRound _ _ _ _)).of_eq hopen)
  rcases hend with ⟨rfl, -⟩ | ⟨files, finals, job, s, t, -, hprepare, hjob, -⟩
  · exact absurd rfl (decided_of_openRound hopen).2.1
  · have hprepared := (keeps_of_quiet hkeeps (quiet_prepare _ _ _ _ _)).of_eq hprepare
    obtain ⟨reported, mid, hcompile, hsettle⟩ := bind_eq_ok_iff.mp hjob
    have hcompiled := (keeps_compileJob (stepKeeps_of_runKeeps hkeeps.run) (fun _ => trivial)
      job).of_eq hcompile
    rw [← ((hopened.trans hprepared).trans hcompiled).forced]
    exact forced_of_settleJob hsettle

-- ---------------------------------------------------------------------------
-- Rounds in the journal
-- ---------------------------------------------------------------------------

/-- The round ended with an order to rebuild the chunk. -/
def ordersRebuild : JournalEntry → Bool
  | .ended _ verdict _ _ => verdict = .chunkRebuildRequired
  | _ => false

/-- A pass begins with its round of stubs. -/
def beginsPass : JournalEntry → Bool
  | .started .stubs _ _ => true
  | _ => false

/-- What a round, or a pass that begins with it, leaves in the journal. A rebuild is ordered at its
end or not at all, and only while recompilation is not forced. -/
structure RoundEntries (role : Role) (dirty : DirtyFiles) (forced : Bool)
    (result : Except Failure Verdict) (entries : List JournalEntry) : Prop where
  opens : ∃ tracker rest, entries = .started role dirty tracker :: rest ∧ tracker.forced = forced
  passes : entries.countP beginsPass = if role = .stubs then 1 else 0
  ordered : result = .ok .chunkRebuildRequired → forced = false ∧
    ∃ front last, entries = front ++ [last] ∧ front.countP ordersRebuild = 0
  unordered : result ≠ .ok .chunkRebuildRequired → entries.countP ordersRebuild = 0

/-- A pass goes on after its round of stubs. -/
theorem RoundEntries.append {dirty : DirtyFiles} {forced : Bool} {verdict : Verdict}
    {result : Except Failure Verdict} {first second : List JournalEntry}
    (hne : verdict ≠ .chunkRebuildRequired)
    (h : RoundEntries .stubs dirty forced (.ok verdict) first)
    (h' : RoundEntries .classes dirty forced result second) :
    RoundEntries .stubs dirty forced result (first ++ second) where
  opens := by
    obtain ⟨tracker, rest, rfl, hforced⟩ := h.opens
    exact ⟨tracker, rest ++ second, rfl, hforced⟩
  passes := by
    rw [List.countP_append, h.passes, h'.passes]
    rfl
  ordered hresult := by
    obtain ⟨hforced, front, last, rfl, hfront⟩ := h'.ordered hresult
    refine ⟨hforced, first ++ front, last, (List.append_assoc _ _ _).symm, ?_⟩
    rw [List.countP_append, h.unordered (by simpa using hne), hfront]
  unordered hresult := by
    rw [List.countP_append, h.unordered (by simpa using hne), h'.unordered hresult]

theorem recordedRound_entries {rounds : Rounds} {role : Role} {dirty : DirtyFiles}
    {result : Except Failure Verdict}
    (hrun : rounds.run role chunk dirty = round ctx builder chunk dirty)
    (h : recordedRound rounds role chunk dirty w = (result, v)) :
    ∃ entries, v.journal = w.journal ++ entries ∧ v.tracker.forced = w.tracker.forced ∧
      RoundEntries role dirty w.tracker.forced result entries := by
  simp only [recordedRound, run_bind, run_get, run_record] at h
  rw [hrun] at h
  cases hround : round ctx builder chunk dirty (noted [.started role dirty w.tracker] w) with
  | mk ended u =>
    have hkept := (keeps_round (roundKeeps_flagKept ctx) dirty).of_eq hround
    rw [hround] at h
    cases ended with
    | error failure =>
      cases h
      refine ⟨_, hkept.journal, hkept.forced, ⟨_, _, rfl, rfl⟩, ?_, by simp, fun _ => rfl⟩
      cases role <;> rfl
    | ok verdict =>
      cases h
      refine ⟨[.started role dirty w.tracker,
          .ended role verdict u.tracker (u.outputs.drop w.outputs.length)], ?_, hkept.forced,
        ⟨_, _, rfl, rfl⟩, ?_, ?_, ?_⟩
      · simp [noted, hkept.journal]
      · cases role <;> rfl
      · intro hresult
        cases hresult
        have hforced := forced_of_round hround
        exact ⟨hforced, [.started role dirty w.tracker], _, rfl, rfl⟩
      · intro hresult
        have hne : verdict ≠ .chunkRebuildRequired := fun heq => hresult (heq ▸ rfl)
        simp [ordersRebuild, hne]

theorem pass_entries {dirty : DirtyFiles} {result : Except Failure Verdict}
    (h : pass (.ofBuilders ctx stubs classes) chunk dirty w = (result, v)) :
    ∃ entries, v.journal = w.journal ++ entries ∧ v.tracker.forced = w.tracker.forced ∧
      RoundEntries .stubs dirty w.tracker.forced result entries := by
  have hbegun : modifyTracker (·.setCurrent (dirty.map (·.2))) w = (.ok (), begun dirty w) := rfl
  unfold pass at h
  rw [run_bind_of_ok hbegun, run_bind] at h
  cases hfirst : recordedRound (.ofBuilders ctx stubs classes) .stubs chunk dirty
      (begun dirty w) with
  | mk first u =>
    obtain ⟨entries, hjournal, hforced, hentries⟩ := recordedRound_entries rfl hfirst
    have hsecond {verdict : Verdict} (hverdict : first = .ok verdict)
        (hne : verdict ≠ .chunkRebuildRequired)
        (h : recordedRound (.ofBuilders ctx stubs classes) .classes chunk dirty u = (result, v)) :
        ∃ entries, v.journal = w.journal ++ entries ∧ v.tracker.forced = w.tracker.forced ∧
          RoundEntries .stubs dirty w.tracker.forced result entries := by
      obtain ⟨entries', hjournal', hforced', hentries'⟩ := recordedRound_entries rfl h
      subst hverdict
      refine ⟨entries ++ entries', ?_, hforced'.trans hforced, hentries.append hne ?_⟩
      · rw [hjournal', hjournal]
        exact List.append_assoc _ _ _
      · rw [hforced] at hentries'
        exact hentries'
    rw [hfirst] at h
    cases first with
    | error failure =>
      cases h
      exact ⟨entries, hjournal, hforced, hentries⟩
    | ok verdict =>
      cases verdict with
      | chunkRebuildRequired | abort =>
        cases h
        exact ⟨entries, hjournal, hforced, hentries⟩
      | ok | nothingDone | additionalPassRequired => exact hsecond rfl nofun h

-- ---------------------------------------------------------------------------
-- Passes in the journal
-- ---------------------------------------------------------------------------

/-- A list is split in one way around the only entry of a kind. -/
theorem split_unique {α : Type} {p : α → Prop} {front back before after : List α} {last entry : α}
    (hfront : ∀ a ∈ front, ¬ p a) (hback : ∀ a ∈ back, ¬ p a) (hentry : p entry)
    (h : front ++ last :: back = before ++ entry :: after) : before = front ∧ after = back := by
  induction front generalizing before with
  | nil =>
    cases before with
    | nil =>
      obtain ⟨-, rfl⟩ := List.cons.inj h
      exact ⟨rfl, rfl⟩
    | cons a before =>
      obtain ⟨-, rfl⟩ := List.cons.inj h
      exact absurd hentry (hback entry (List.mem_append_right _ List.mem_cons_self))
  | cons a front ih =>
    cases before with
    | nil =>
      obtain ⟨rfl, -⟩ := List.cons.inj h
      exact absurd hentry (hfront a List.mem_cons_self)
    | cons b before =>
      obtain ⟨rfl, htail⟩ := List.cons.inj h
      obtain ⟨rfl, rfl⟩ := ih (fun c hc => hfront c (List.mem_cons_of_mem _ hc)) htail
      exact ⟨rfl, rfl⟩

/-- What the passes of a chunk leave in the journal. -/
structure PassesEntries (sources dirty : DirtyFiles) (left : Nat) (forced : Bool)
    (entries : List JournalEntry) : Prop where
  opens : left = 0 ∧ entries = [] ∨
    ∃ tracker rest, entries = .started .stubs dirty tracker :: rest ∧ tracker.forced = forced
  rebuilds : entries.countP ordersRebuild ≤ if forced then 0 else 1
  /-- After a rebuild was ordered all sources are dirty, unless no pass is left. -/
  followed : ∀ before entry after, entries = before ++ entry :: after → ordersRebuild entry →
    (∃ tracker rest, after = .started .stubs sources tracker :: rest ∧ tracker.forced = true) ∨
      after = [] ∧ entries.countP beginsPass = left

namespace PassesEntries

variable {sources dirty later : DirtyFiles} {left : Nat} {forced : Bool}
variable {result : Except Failure Verdict} {first rest : List JournalEntry}

theorem not_mem_of_countP {entries : List JournalEntry} (h : entries.countP ordersRebuild = 0) :
    ∀ entry ∈ entries, ¬ ordersRebuild entry :=
  List.countP_eq_zero.mp h

/-- The first pass orders no rebuild, and it is the last one. -/
theorem last (h : RoundEntries .stubs dirty forced result first)
    (hresult : result ≠ .ok .chunkRebuildRequired) :
    PassesEntries sources dirty (left + 1) forced first where
  opens := .inr h.opens
  rebuilds := by
    rw [h.unordered hresult]
    exact Nat.zero_le _
  followed before entry after heq hentry := by
    have hmem : entry ∈ first := heq ▸ List.mem_append_right _ List.mem_cons_self
    exact absurd hentry (not_mem_of_countP (h.unordered hresult) entry hmem)

/-- The first pass orders no rebuild, and others follow. -/
theorem next (h : RoundEntries .stubs dirty forced result first)
    (hresult : result ≠ .ok .chunkRebuildRequired)
    (h' : PassesEntries sources later left forced rest) :
    PassesEntries sources dirty (left + 1) forced (first ++ rest) where
  opens := by
    obtain ⟨tracker, tail, rfl, hforced⟩ := h.opens
    exact .inr ⟨tracker, tail ++ rest, rfl, hforced⟩
  rebuilds := by
    rw [List.countP_append, h.unordered hresult, Nat.zero_add]
    exact h'.rebuilds
  followed before entry after heq hentry := by
    have hnone := not_mem_of_countP (h.unordered hresult)
    have hsplit : ∃ middle, rest = middle ++ entry :: after := by
      rcases List.append_eq_append_iff.mp heq with ⟨middle, -, hrest⟩ | ⟨middle, hfirst, hrest⟩
      · exact ⟨middle, hrest⟩
      · cases middle with
        | nil => exact ⟨[], hrest.symm⟩
        | cons a middle =>
          obtain ⟨rfl, -⟩ := List.cons.inj hrest
          have hmem : entry ∈ first := hfirst ▸ List.mem_append_right _ List.mem_cons_self
          exact absurd hentry (hnone entry hmem)
    obtain ⟨middle, hrest⟩ := hsplit
    refine (h'.followed middle entry after hrest hentry).imp_right fun ⟨hafter, hcount⟩ => ?_
    rw [List.countP_append, h.passes, hcount, if_pos rfl, Nat.add_comm]
    exact ⟨hafter, rfl⟩

/-- The first pass orders a rebuild, and all sources follow. -/
theorem rebuilt (h : RoundEntries .stubs dirty forced (.ok .chunkRebuildRequired) first)
    (h' : PassesEntries sources sources left true rest) :
    PassesEntries sources dirty (left + 1) forced (first ++ rest) := by
  obtain ⟨rfl, front, last, hsplit, hfront⟩ := h.ordered rfl
  have hrest : rest.countP ordersRebuild = 0 := Nat.le_zero.mp h'.rebuilds
  refine ⟨?_, ?_, ?_⟩
  · obtain ⟨tracker, tail, htail, hforced⟩ := h.opens
    exact .inr ⟨tracker, tail ++ rest, by rw [htail, List.cons_append], hforced⟩
  · rw [hsplit, List.countP_append, List.countP_append, hfront, hrest, List.countP_singleton]
    simp only [Bool.false_eq_true, if_false]
    split <;> decide
  · intro before entry after heq hentry
    rw [hsplit, List.append_assoc, List.singleton_append] at heq
    obtain ⟨-, rfl⟩ := split_unique (not_mem_of_countP hfront) (not_mem_of_countP hrest) hentry heq
    rcases h'.opens with ⟨rfl, rfl⟩ | ⟨tracker, tail, rfl, hforced⟩
    · refine .inr ⟨rfl, ?_⟩
      rw [List.append_nil, h.passes, if_pos rfl]
    · exact .inl ⟨tracker, tail, rfl, hforced⟩

end PassesEntries

-- ---------------------------------------------------------------------------
-- A second order
-- ---------------------------------------------------------------------------

/-- The answer to a second order of a rebuild. -/
def refuseRebuild (chunk : Chunk) : Build Bool := do
  warnAbout chunk "rebuild requested again after a full rebuild"
  return false

/-- The passes over a chunk with some other answer to a second order of a rebuild. -/
def passesOr (again : Build Bool) (rounds : Rounds) (chunk : Chunk) (sources : DirtyFiles) :
    (left : Nat) → (rebuilt : Bool) → DirtyFiles → Build Bool
  | 0, _, _ => do
    warnAbout chunk ("giving up after " ++ toString maxRounds ++ " rounds")
    return false
  | left + 1, rebuilt, dirty => do
    match ← pass rounds chunk dirty with
    | .abort => return false
    | .chunkRebuildRequired =>
      if rebuilt then again
      else
        modifyTracker fun tracker => { tracker with forced := true }
        passesOr again rounds chunk sources left true sources
    | .additionalPassRequired =>
      passesOr again rounds chunk sources left rebuilt (← startNextRound sources)
    | .ok | .nothingDone => return true

/-- The building of a chunk with some other answer to a second order of a rebuild. -/
def buildChunkOr (again : Build Bool) (ctx : Context) (rounds : Rounds) (chunk : Chunk) :
    Build Bool := do
  let sources ← chunkSources ctx chunk
  let forced := (← get).tracker.forced
  let result ← attempt (passesOr again rounds chunk sources maxRounds false sources)
  modifyTracker fun tracker => { tracker with forced }
  record .finished
  rounds.finish chunk
  ofExcept result

theorem passesOr_refuseRebuild (rounds : Rounds) (sources dirty : DirtyFiles) (left : Nat)
    (rebuilt : Bool) :
    passesOr (refuseRebuild chunk) rounds chunk sources left rebuilt dirty =
      passes rounds chunk sources left rebuilt dirty := by
  induction left generalizing rebuilt dirty with
  | zero => rfl
  | succ left ih =>
    rw [passesOr, passes]
    simp only [ih]
    rfl

/-- With the answer it has, this is the building of a chunk. -/
theorem buildChunkOr_refuseRebuild (rounds : Rounds) :
    buildChunkOr (refuseRebuild chunk) ctx rounds chunk = buildChunk ctx rounds chunk := by
  unfold buildChunkOr buildChunk
  simp only [passesOr_refuseRebuild]

/-- While a chunk that was rebuilt is recompiled by force, the answer to a second order makes no
difference. -/
theorem run_passesOr (again : Build Bool) {sources dirty : DirtyFiles} {left : Nat}
    {rebuilt : Bool} (hrebuilt : rebuilt = true → w.tracker.forced = true) :
    passesOr again (.ofBuilders ctx stubs classes) chunk sources left rebuilt dirty w =
      passes (.ofBuilders ctx stubs classes) chunk sources left rebuilt dirty w := by
  induction left generalizing rebuilt dirty w with
  | zero => rfl
  | succ left ih =>
    rw [passesOr, passes, run_bind, run_bind]
    cases hpass : pass (.ofBuilders ctx stubs classes) chunk dirty w with
    | mk result u =>
      obtain ⟨_, -, hkept, hentries⟩ := pass_entries hpass
      cases result with
      | error failure => rfl
      | ok verdict =>
        cases verdict with
        | chunkRebuildRequired =>
          have hforced : w.tracker.forced = false := (hentries.ordered rfl).1
          cases rebuilt with
          | true => rw [hrebuilt rfl] at hforced; cases hforced
          | false => exact ih (w := enforced u) fun _ => rfl
        | additionalPassRequired =>
          exact ih (w := advanced u) fun h => hkept.trans (hrebuilt h)
        | _ => rfl

/-- Giving up on a chunk only prints why. -/
theorem quiet_giveUp (chunk : Chunk) (text : String) :
    Keeps Quiet (do warnAbout chunk text; return false : Build Bool) :=
  Keeps.bind (Keeps.bind (keeps_chunkName chunk) fun _ => quiet_print _) fun _ => Keeps.pure _

theorem passes_entries (ctx : Context) (stubs classes : Builder) (chunk : Chunk)
    (sources dirty : DirtyFiles) (left : Nat) (rebuilt : Bool) (w : World)
    (hrebuilt : rebuilt = true → w.tracker.forced = true) :
    ∃ entries,
      (passes (.ofBuilders ctx stubs classes) chunk sources left rebuilt dirty w).2.journal =
        w.journal ++ entries ∧
      PassesEntries sources dirty left w.tracker.forced entries := by
  induction left generalizing rebuilt dirty w with
  | zero =>
    refine ⟨[], ?_, .inl ⟨rfl, rfl⟩, Nat.zero_le _, by simp⟩
    rw [List.append_nil]
    exact (quiet_giveUp chunk _ w).journal
  | succ left ih =>
    rw [passes, run_bind]
    cases hpass : pass (.ofBuilders ctx stubs classes) chunk dirty w with
    | mk result u =>
      obtain ⟨first, hjournal, hkept, hentries⟩ := pass_entries hpass
      cases result with
      | error failure => exact ⟨first, hjournal, .last hentries (by simp)⟩
      | ok verdict =>
        cases verdict with
        | chunkRebuildRequired =>
          have hforced : w.tracker.forced = false := (hentries.ordered rfl).1
          cases rebuilt with
          | true => rw [hrebuilt rfl] at hforced; cases hforced
          | false =>
            obtain ⟨rest, hrest, hpasses⟩ := ih sources true (enforced u) fun _ => rfl
            refine ⟨first ++ rest, ?_, .rebuilt hentries hpasses⟩
            rw [← List.append_assoc, ← hjournal]
            exact hrest
        | additionalPassRequired =>
          obtain ⟨rest, hrest, hpasses⟩ := ih (scheduledAmong sources u) rebuilt (advanced u)
            fun h => hkept.trans (hrebuilt h)
          have hadvanced : (advanced u).tracker.forced = w.tracker.forced := hkept
          rw [hadvanced] at hpasses
          refine ⟨first ++ rest, ?_, .next hentries (by simp) hpasses⟩
          rw [← List.append_assoc, ← hjournal]
          exact hrest
        | ok | nothingDone | abort => exact ⟨first, hjournal, .last hentries (by simp)⟩

-- ---------------------------------------------------------------------------
-- Whole chunks
-- ---------------------------------------------------------------------------

/-- A chunk whose sources are found is built by its passes, and then it is done with. -/
theorem run_buildChunkOr (again : Build Bool) {sources : DirtyFiles}
    (h : chunkSources ctx chunk w = (.ok sources, w)) :
    buildChunkOr again ctx (.ofBuilders ctx stubs classes) chunk w =
      let passed :=
        passesOr again (.ofBuilders ctx stubs classes) chunk sources maxRounds false sources w
      (passed.1, finished chunk w.tracker.forced passed.2) := by
  unfold buildChunkOr
  rw [run_bind_of_ok h]
  exact run_ofExcept _ _

theorem run_buildChunk {sources : DirtyFiles} (h : chunkSources ctx chunk w = (.ok sources, w)) :
    buildChunk ctx (.ofBuilders ctx stubs classes) chunk w =
      let passed := passes (.ofBuilders ctx stubs classes) chunk sources maxRounds false sources w
      (passed.1, finished chunk w.tracker.forced passed.2) := by
  rw [← buildChunkOr_refuseRebuild, run_buildChunkOr _ h, passesOr_refuseRebuild]

/-- Once the chunk is done with, the round that follows an order is in the journal, or none was
left. -/
theorem PassesEntries.followed_finished {sources dirty : DirtyFiles} {forced : Bool}
    {entries before after : List JournalEntry} {entry : JournalEntry}
    (h : PassesEntries sources dirty maxRounds forced entries)
    (heq : entries ++ [.finished] = before ++ entry :: after) (hentry : ordersRebuild entry) :
    (∃ tracker rest, after = .started .stubs sources tracker :: rest ∧ tracker.forced = true) ∨
      after = [.finished] ∧ (entries ++ [JournalEntry.finished]).countP beginsPass = maxRounds := by
  rcases List.eq_nil_or_concat after with rfl | ⟨front, last, rfl⟩
  · obtain ⟨-, hlast⟩ := List.append_inj' heq rfl
    cases hlast
    cases hentry
  · rw [List.concat_eq_append, ← List.cons_append, ← List.append_assoc] at heq
    obtain ⟨hfront, hlast⟩ := List.append_inj' heq rfl
    cases hlast
    rw [List.concat_eq_append, List.countP_append]
    refine (h.followed before entry front hfront hentry).imp ?_ ?_
    · rintro ⟨tracker, rest, rfl, hforced⟩
      exact ⟨tracker, rest ++ [JournalEntry.finished], rfl, hforced⟩
    · rintro ⟨rfl, hcount⟩
      exact ⟨rfl, hcount⟩

/-- A chunk is rebuilt at most once, however its building ends: one round at most orders a rebuild,
and none if recompilation was forced from the start. The round after the order, if a pass is left
for it, gets all sources of the chunk while recompilation is forced. A second order is never
answered: any other answer would do. -/
theorem rebuild_once (ctx : Context) (stubs classes : Builder) (chunk : Chunk) (w : World) :
    ∃ entries,
      (buildChunk ctx (.ofBuilders ctx stubs classes) chunk w).2.journal = w.journal ++ entries ∧
      entries.countP ordersRebuild ≤ (if w.tracker.forced then 0 else 1) ∧
      (∀ before entry after, entries = before ++ entry :: after → ordersRebuild entry →
        (∃ sources tracker rest, chunkSources ctx chunk w = (.ok sources, w) ∧
            after = .started .stubs sources tracker :: rest ∧ tracker.forced = true) ∨
          after = [.finished] ∧ entries.countP beginsPass = maxRounds) ∧
      ∀ again : Build Bool, buildChunkOr again ctx (.ofBuilders ctx stubs classes) chunk w =
        buildChunk ctx (.ofBuilders ctx stubs classes) chunk w := by
  cases hsources : chunkSources ctx chunk w with
  | mk found u =>
    have hsame := (unchanged_chunkSources ctx chunk).of_eq hsources
    subst hsame
    cases found with
    | error failure =>
      have hbuild : buildChunk ctx (.ofBuilders ctx stubs classes) chunk w = (.error failure, w) :=
        run_bind_of_error hsources
      refine ⟨[], by rw [hbuild, List.append_nil], Nat.zero_le _, by simp, fun again => ?_⟩
      rw [hbuild]
      exact run_bind_of_error hsources
    | ok sources =>
      obtain ⟨entries, hjournal, hentries⟩ :=
        passes_entries ctx stubs classes chunk sources sources maxRounds false w nofun
      refine ⟨entries ++ [.finished], ?_, ?_, ?_, fun again => ?_⟩
      · rw [run_buildChunk hsources, ← List.append_assoc, ← hjournal]
        rfl
      · rw [List.countP_append]
        exact hentries.rebuilds
      · intro before entry after heq hentry
        refine (hentries.followed_finished heq hentry).imp_left ?_
        rintro ⟨tracker, rest, hafter, hforced⟩
        exact ⟨sources, tracker, rest, rfl, hafter, hforced⟩
      · have hforced : false = true → w.tracker.forced = true := nofun
        rw [run_buildChunkOr again hsources, run_buildChunk hsources, run_passesOr again hforced]

end Build

end GroovyRounds
