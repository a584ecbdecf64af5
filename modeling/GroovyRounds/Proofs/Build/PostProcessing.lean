import GroovyRounds.Build.Stubs
import GroovyRounds.Proofs.Build.Incremental
import GroovyRounds.Proofs.Groups
import GroovyRounds.Proofs.OrderedMap
import Mathlib.Data.List.Induction
import Mathlib.Data.List.Perm.Basic

/-!
# Files of the other compiler

The other compiler reports the files that it compiled one after another. A file
that is a known stub makes the source behind it due. What all reports schedule
can be told from the first of their worlds (`newlyDue`), so it does not matter
that they come again or in which order they come (`postProcessAll_laws`).
-/

namespace GroovyRounds.Build

variable {ctx : Context} {chunk : Chunk} {tracker : RoundTracker} {state : ChunkState}
variable {reports reports' : List (Option String)} {compiled : Option String} {source : Path}
variable {w : World}

-- ---------------------------------------------------------------------------
-- What a file makes due
-- ---------------------------------------------------------------------------

theorem dueSource?_eq_some_iff :
    dueSource? ctx tracker state compiled = some source ↔
      state.sourceOf? compiled = some source ∧ source ∉ tracker.current ∧
        source ∉ tracker.next ∧ ctx.unmarkable source = false := by
  simp [dueSource?, Option.filter_eq_some_iff, RoundTracker.isDirty, and_assoc]

/-- What is due once is scheduled once. -/
theorem scheduleDue_again (compiled : Option String) (tracker : RoundTracker)
    (state : ChunkState) :
    scheduleDue ctx compiled (scheduleDue ctx compiled tracker state).1
        (scheduleDue ctx compiled tracker state).2 =
      scheduleDue ctx compiled tracker state := by
  cases hdue : dueSource? ctx tracker state compiled with
  | none => simp only [scheduleDue, hdue]
  | some source =>
    have hnone : dueSource? ctx (tracker.schedule source) { state with marked := true }
        compiled = none := by
      cases hagain : dueSource? ctx (tracker.schedule source) { state with marked := true }
          compiled with
      | none => rfl
      | some other =>
        obtain ⟨hother, -, hnext, -⟩ := dueSource?_eq_some_iff.mp hagain
        have hsame : source = other :=
          Option.some.inj ((dueSource?_eq_some_iff.mp hdue).1.symm.trans hother)
        exact absurd (RoundTracker.mem_next_schedule.mpr (.inr hsame.symm)) hnext
    simp only [scheduleDue, hdue, hnone]

theorem foldl_again {α β : Type} {f : α → α} (h : ∀ a, f (f a) = f a) {steps : List β}
    (hsteps : steps ≠ []) (a : α) : steps.foldl (fun a _ => f a) a = f a := by
  induction steps generalizing a with
  | nil => exact absurd rfl hsteps
  | cons step steps ih =>
    by_cases hnil : steps = []
    · rw [hnil]
      rfl
    · rw [List.foldl_cons, ih hnil, h]

/-- Any number of post-processors do what one does. -/
theorem postProcess_eq (hprocessors : 0 < w.session.processors) (compiled : Option String) :
    w.postProcess ctx chunk compiled =
      { w with
        tracker := (scheduleDue ctx compiled w.tracker (w.session.state chunk)).1
        session := w.session.setState chunk
          (scheduleDue ctx compiled w.tracker (w.session.state chunk)).2 } := by
  have hrange : List.range w.session.processors ≠ [] := by
    simpa using Nat.pos_iff_ne_zero.mp hprocessors
  have hfold := foldl_again
    (f := fun pair : RoundTracker × ChunkState => scheduleDue ctx compiled pair.1 pair.2)
    (fun pair => scheduleDue_again compiled pair.1 pair.2) hrange
    (w.tracker, w.session.state chunk)
  exact congrArg (fun pair : RoundTracker × ChunkState =>
    { w with tracker := pair.1, session := w.session.setState chunk pair.2 }) hfold

-- ---------------------------------------------------------------------------
-- What many files make due
-- ---------------------------------------------------------------------------

/-- The sources behind the reported stubs, each where it comes first, but for those that are
dirty, scheduled, or cannot be scheduled. -/
def newlyDue (ctx : Context) (tracker : RoundTracker) (state : ChunkState)
    (reports : List (Option String)) : List Path :=
  (reports.filterMap state.sourceOf?).eraseDups.filter fun source =>
    source ∉ tracker.current ∧ source ∉ tracker.next ∧ ctx.unmarkable source = false

/-- Schedules sources that are not scheduled yet. -/
def scheduled (sources : List Path) (tracker : RoundTracker) : RoundTracker :=
  { tracker with next := tracker.next ++ sources }

/-- Marks a chunk if there are sources. -/
def markedFor (sources : List Path) (state : ChunkState) : ChunkState :=
  { state with marked := state.marked || !sources.isEmpty }

theorem scheduled_nil (tracker : RoundTracker) : scheduled [] tracker = tracker := by
  simp [scheduled]

theorem markedFor_nil (state : ChunkState) : markedFor [] state = state := by
  simp [markedFor]

theorem scheduled_append (earlier later : List Path) (tracker : RoundTracker) :
    scheduled (earlier ++ later) tracker = scheduled later (scheduled earlier tracker) := by
  simp [scheduled]

theorem markedFor_append (earlier later : List Path) (state : ChunkState) :
    markedFor (earlier ++ later) state = markedFor later (markedFor earlier state) := by
  cases earlier <;> cases later <;> simp [markedFor]

theorem mem_newlyDue :
    source ∈ newlyDue ctx tracker state reports ↔
      (∃ compiled ∈ reports, state.sourceOf? compiled = some source) ∧
        source ∉ tracker.current ∧ source ∉ tracker.next ∧ ctx.unmarkable source = false := by
  simp [newlyDue]

theorem nodup_newlyDue (ctx : Context) (tracker : RoundTracker) (state : ChunkState)
    (reports : List (Option String)) : (newlyDue ctx tracker state reports).Nodup :=
  (nodup_eraseDups _).filter _

/-- Later reports add what they make due after the earlier ones. -/
theorem newlyDue_append (reports reports' : List (Option String)) :
    newlyDue ctx tracker state (reports ++ reports') =
      newlyDue ctx tracker state reports ++
        newlyDue ctx (scheduled (newlyDue ctx tracker state reports) tracker)
          (markedFor (newlyDue ctx tracker state reports) state) reports' := by
  have hsources : (markedFor (newlyDue ctx tracker state reports) state).sourceOf? =
      state.sourceOf? := rfl
  rw [newlyDue, List.filterMap_append, List.eraseDups_append, List.filter_append]
  congr 1
  rw [newlyDue, hsources, List.removeAll, ← OrderedMap.filter_eraseDups, List.filter_filter]
  refine List.filter_congr fun source hsource => ?_
  have hnew : source ∈ newlyDue ctx tracker state reports ↔
      source ∈ reports.filterMap state.sourceOf? ∧ source ∉ tracker.current ∧
        source ∉ tracker.next ∧ ctx.unmarkable source = false := by
    simp [newlyDue]
  simp only [scheduled, List.mem_append, hnew]
  by_cases hfound : source ∈ reports.filterMap state.sourceOf? <;> simp [hfound]
  tauto

theorem scheduleDue_eq (compiled : Option String) (tracker : RoundTracker) (state : ChunkState) :
    scheduleDue ctx compiled tracker state =
      (scheduled (newlyDue ctx tracker state [compiled]) tracker,
        markedFor (newlyDue ctx tracker state [compiled]) state) := by
  cases hdue : dueSource? ctx tracker state compiled with
  | none =>
    have hnone : newlyDue ctx tracker state [compiled] = [] := by
      rw [List.eq_nil_iff_forall_not_mem]
      intro source hsource
      obtain ⟨⟨_, hone, hfound⟩, hrest⟩ := mem_newlyDue.mp hsource
      rw [List.mem_singleton.mp hone] at hfound
      have hsome := dueSource?_eq_some_iff.mpr ⟨hfound, hrest⟩
      rw [hdue] at hsome
      cases hsome
    simp [scheduleDue, hdue, hnone, scheduled, markedFor]
  | some source =>
    obtain ⟨hfound, hclean, hnew, hmarkable⟩ := dueSource?_eq_some_iff.mp hdue
    have hsingle : newlyDue ctx tracker state [compiled] = [source] := by
      simp [newlyDue, hfound, hclean, hnew, hmarkable, List.eraseDups_cons]
    simp [scheduleDue, hdue, hsingle, scheduled, markedFor, RoundTracker.schedule, hnew]

-- ---------------------------------------------------------------------------
-- Worlds
-- ---------------------------------------------------------------------------

/-- The other compiler reports these files, one after another. -/
def postProcessAll (ctx : Context) (chunk : Chunk) (reports : List (Option String)) (w : World) :
    World :=
  reports.foldl (fun w compiled => w.postProcess ctx chunk compiled) w

theorem setState_setState (session : Session) (chunk : Chunk)
    (earlier later : ChunkState) :
    (session.setState chunk earlier).setState chunk later = session.setState chunk later :=
  congrArg (fun states => { session with states }) (OrderedMap.insert_insert ..)

/-- What is left once sources are due: they are scheduled, and the chunk is marked if there are
any. Nothing else changes. -/
structure Posted (chunk : Chunk) (due : List Path) (before after : World) : Prop where
  tracker : after.tracker = { before.tracker with next := before.tracker.next ++ due }
  state : after.session.state chunk = { before.session.state chunk with
    marked := (before.session.state chunk).marked || !due.isEmpty }
  others : ∀ other : Chunk, other.ids ≠ chunk.ids →
    after.session.state? other = before.session.state? other
  processors : after.session.processors = before.session.processors
  kept : after = { before with tracker := after.tracker, session := after.session }

/-- The world after reports, of which there is one at least: the chunk has a state of its own. -/
def reported (ctx : Context) (chunk : Chunk) (reports : List (Option String)) (w : World) : World :=
  { w with
    tracker := scheduled (newlyDue ctx w.tracker (w.session.state chunk) reports) w.tracker
    session := w.session.setState chunk
      (markedFor (newlyDue ctx w.tracker (w.session.state chunk) reports)
        (w.session.state chunk)) }

theorem reported_append (reports reports' : List (Option String)) (w : World) :
    reported ctx chunk reports' (reported ctx chunk reports w) =
      reported ctx chunk (reports ++ reports') w := by
  simp only [reported, newlyDue_append, scheduled_append, markedFor_append,
    Session.state_setState, setState_setState]

theorem postProcess_eq_reported (hprocessors : 0 < w.session.processors)
    (compiled : Option String) :
    w.postProcess ctx chunk compiled = reported ctx chunk [compiled] w := by
  rw [postProcess_eq hprocessors, scheduleDue_eq, reported]

theorem postProcessAll_eq (hprocessors : 0 < w.session.processors)
    (reports : List (Option String)) :
    postProcessAll ctx chunk reports w =
      if reports = [] then w else reported ctx chunk reports w := by
  induction reports generalizing w with
  | nil => rfl
  | cons compiled reports ih =>
    have hrest := ih (w := reported ctx chunk [compiled] w) hprocessors
    rw [postProcessAll] at hrest
    rw [if_neg (List.cons_ne_nil _ _), postProcessAll, List.foldl_cons,
      postProcess_eq_reported hprocessors, hrest]
    split
    · rename_i hnil
      rw [hnil]
    · exact reported_append [compiled] reports w

theorem posted_postProcessAll (ctx : Context) (chunk : Chunk)
    (hprocessors : 0 < w.session.processors) (reports : List (Option String)) :
    Posted chunk (newlyDue ctx w.tracker (w.session.state chunk) reports) w
      (postProcessAll ctx chunk reports w) := by
  rw [postProcessAll_eq hprocessors]
  split
  · rename_i hnil
    have hnone : newlyDue ctx w.tracker (w.session.state chunk) reports = [] := by
      rw [hnil]
      rfl
    rw [hnone]
    exact ⟨(scheduled_nil _).symm, (markedFor_nil _).symm, fun _ _ => rfl, rfl, rfl⟩
  · exact ⟨rfl, Session.state_setState .., fun other hother =>
      (OrderedMap.find?_insert ..).trans (if_neg hother), rfl, rfl⟩

/-- What was made due is not due again. -/
theorem newlyDue_again (reports : List (Option String)) :
    newlyDue ctx tracker state (reports ++ reports) = newlyDue ctx tracker state reports := by
  rw [newlyDue_append, List.append_right_eq_self, List.eq_nil_iff_forall_not_mem]
  intro source hsource
  obtain ⟨hfound, hclean, hnew, hmarkable⟩ := mem_newlyDue.mp hsource
  rw [scheduled, List.mem_append, not_or] at hnew
  exact hnew.2 (mem_newlyDue.mpr ⟨hfound, hclean, hnew.1, hmarkable⟩)

theorem newlyDue_perm (ctx : Context) (tracker : RoundTracker) (state : ChunkState)
    (h : reports.Perm reports') :
    (newlyDue ctx tracker state reports).Perm (newlyDue ctx tracker state reports') := by
  rw [List.perm_ext_iff_of_nodup (nodup_newlyDue ..) (nodup_newlyDue ..)]
  intro source
  simp only [mem_newlyDue, h.mem_iff]

/-- The reports schedule the sources behind the reported stubs that are not dirty, not scheduled
yet and can be scheduled, each where it comes first, and mark the chunk if there are any. They
change nothing when they come again, and in another order they schedule the same sources in
another order. -/
theorem postProcessAll_laws (hprocessors : 0 < w.session.processors)
    (reports : List (Option String)) :
    Posted chunk (newlyDue ctx w.tracker (w.session.state chunk) reports) w
        (postProcessAll ctx chunk reports w) ∧
      postProcessAll ctx chunk reports (postProcessAll ctx chunk reports w) =
        postProcessAll ctx chunk reports w ∧
      ∀ reports' : List (Option String), reports.Perm reports' → ∃ due : List Path,
        (newlyDue ctx w.tracker (w.session.state chunk) reports).Perm due ∧
          postProcessAll ctx chunk reports' w =
            { postProcessAll ctx chunk reports w with
              tracker := { w.tracker with next := w.tracker.next ++ due } } := by
  refine ⟨posted_postProcessAll ctx chunk hprocessors reports, ?_, fun reports' hperm => ?_⟩
  · have htwice : postProcessAll ctx chunk reports (postProcessAll ctx chunk reports w) =
        postProcessAll ctx chunk (reports ++ reports) w :=
      List.foldl_append.symm
    rw [htwice, postProcessAll_eq hprocessors, postProcessAll_eq hprocessors]
    simp only [List.append_eq_nil_iff, and_self, reported, newlyDue_again]
  · have hdue := newlyDue_perm ctx w.tracker (w.session.state chunk) hperm
    refine ⟨_, hdue, ?_⟩
    rw [postProcessAll_eq hprocessors reports, postProcessAll_eq hprocessors reports']
    by_cases hnil : reports = []
    · have hnil' : reports' = [] := (hnil ▸ hperm).nil_eq.symm
      rw [if_pos hnil, if_pos hnil', hnil']
      exact congrArg (fun tracker => { w with tracker }) (scheduled_nil w.tracker).symm
    · have hsome : reports' ≠ [] := fun hnil' => hnil (hnil' ▸ hperm).eq_nil
      rw [if_neg hnil, if_neg hsome]
      simp only [reported, scheduled, markedFor, hdue.isEmpty_eq]

/-- One source behind two stubs, one that is dirty, and one that cannot be scheduled. -/
def watchedWorld : World :=
  { pairWorld [] with
    session := {
      states := ⟨[(pairChunk.ids, { stubSources := .ofList [
        ("/stubs/A.java", "/src/core/A.groovy"), ("/stubs/A$1.java", "/src/core//A.groovy"),
        ("/stubs/B.java", "/src/app/B.groovy"), ("/stubs/C.java", "/src/app/C.groovy")] })]⟩ }
    tracker := { current := [(pairSource "app" "B").2], next := [(pairSource "core" "D").2] } }

def watchedContext : Context :=
  { pairContext [] with unmarkable := (· = (pairSource "app" "C").2) }

def watchedReports : List (Option String) :=
  ["/stubs/C.java", "/stubs\\A.java", none, "/stubs/A$1.java", "/stubs/B.java", "/stubs/E.java"]

theorem postProcessAll_laws_watched :
    newlyDue watchedContext watchedWorld.tracker (watchedWorld.session.state pairChunk)
        watchedReports = [(pairSource "core" "A").2] ∧
      Posted pairChunk [(pairSource "core" "A").2] watchedWorld
        (postProcessAll watchedContext pairChunk watchedReports watchedWorld) := by
  have hdue : newlyDue watchedContext watchedWorld.tracker
      (watchedWorld.session.state pairChunk) watchedReports = [(pairSource "core" "A").2] := by
    decide +kernel
  refine ⟨hdue, ?_⟩
  rw [← hdue]
  exact (postProcessAll_laws (by decide) watchedReports).1

end GroovyRounds.Build
