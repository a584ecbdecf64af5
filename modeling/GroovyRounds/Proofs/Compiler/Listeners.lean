import GroovyRounds.Proofs.Compiler.Pieces

/-!
# Listeners

A listener is asked about statuses and nothing else. So a run that nobody
objects to goes the same way for every listener that accepts the statuses it
has reported (`readAll_of_accepts`).
-/

namespace GroovyRounds.CompilerOutput

variable {ε : Type}

/-- A way of taking output, which a listener may end. -/
abbrev Taking (ε : Type) : Type :=
  (String → Option ε) → CompilerOutput → CompilerOutput × Option ε

/-- The listener accepts all statuses that were reported. -/
def Accepts (refuses : String → Option ε) (p : CompilerOutput) : Prop :=
  ∀ text ∈ p.statuses, refuses text = none

/-- Statuses are only added, and the listener is asked about these only. -/
def AsksStatuses (run : Taking ε) : Prop :=
  ∀ p q, run (fun _ => none) p = (q, none) →
    p.statuses <+: q.statuses ∧ ∀ refuses, Accepts refuses q → run refuses p = (q, none)

theorem Accepts.before {refuses : String → Option ε} {p q : CompilerOutput}
    (h : Accepts refuses q) (hgrown : p.statuses <+: q.statuses) : Accepts refuses p :=
  fun text htext => h text (hgrown.subset htext)

/-- Takes output in one way and then in another, if it was not ended. -/
def Taking.andThen (run next : Taking ε) : Taking ε := fun refuses p =>
  match run refuses p with
  | (p, some refusal) => (p, some refusal)
  | (p, none) => next refuses p

namespace AsksStatuses

theorem pure : AsksStatuses fun (_ : String → Option ε) p => (p, none) := by
  intro p q h
  cases h
  exact ⟨List.prefix_refl _, fun _ _ => rfl⟩

theorem andThen {run next : Taking ε} (hrun : AsksStatuses run) (hnext : AsksStatuses next) :
    AsksStatuses (run.andThen next) := by
  intro p q h
  unfold Taking.andThen at h ⊢
  split at h
  · cases h
  · rename_i middle hfirst
    obtain ⟨hgrown, hsame⟩ := hrun p middle hfirst
    obtain ⟨hgrown', hsame'⟩ := hnext middle q h
    refine ⟨hgrown.trans hgrown', fun refuses haccepts => ?_⟩
    rw [hsame refuses (haccepts.before hgrown')]
    exact hsame' refuses haccepts

/-- What leaves the statuses alone may be done before. -/
theorem after {run : Taking ε} (hrun : AsksStatuses run) {act : CompilerOutput → CompilerOutput}
    (hact : ∀ p, (act p).statuses = p.statuses) :
    AsksStatuses fun refuses p => run refuses (act p) := by
  intro p q h
  obtain ⟨hgrown, hsame⟩ := hrun (act p) q h
  exact ⟨hact p ▸ hgrown, hsame⟩

end AsksStatuses

section
variable (stream : String)

theorem statuses_grow (p : CompilerOutput) (line : List Char) (report : Report) :
    p.statuses <+: (p.take stream line report).statuses := by
  cases report with
  | status text => exact List.prefix_append _ _
  | plain =>
    rw [take]
    split <;> exact List.prefix_refl _
  | _ => exact List.prefix_refl _

theorem asksStatuses_takeLine (line : List Char) :
    AsksStatuses fun (refuses : String → Option ε) p => p.takeLine refuses stream line := by
  intro p q h
  unfold takeLine at h ⊢
  dsimp only at h ⊢
  cases hreport : readLine (Text.trimRight (· = '\r') line) with
  | status text =>
    simp only [hreport] at h ⊢
    cases h
    refine ⟨statuses_grow stream p _ _, fun refuses haccepts => ?_⟩
    have htext : refuses text = none := haccepts text (by simp [take])
    rw [htext]
  | _ =>
    simp only [hreport] at h ⊢
    cases h
    exact ⟨statuses_grow stream p _ _, fun _ _ => rfl⟩

theorem asksStatuses_takeLines (lines : List (List Char)) :
    AsksStatuses fun (refuses : String → Option ε) p => p.takeLines refuses stream lines := by
  induction lines with
  | nil => exact .pure
  | cons line lines ih => exact .andThen (asksStatuses_takeLine stream line) ih

theorem asksStatuses_feed (text : String) :
    AsksStatuses fun (refuses : String → Option ε) p => p.feed refuses stream text := by
  intro p q h
  exact asksStatuses_takeLines stream _ _ q h

end

theorem asksStatuses_feedAll (pieces : List (String × String)) :
    AsksStatuses fun (refuses : String → Option ε) p => p.feedAll refuses pieces := by
  induction pieces with
  | nil => exact .pure
  | cons piece pieces ih => exact .andThen (asksStatuses_feed piece.1 piece.2) ih

theorem asksStatuses_flush (entries : List (String × List Char)) :
    AsksStatuses fun (refuses : String → Option ε) p => p.flush refuses entries := by
  induction entries with
  | nil => exact .pure
  | cons entry entries ih =>
    obtain ⟨stream, rest⟩ := entry
    simp only [flush]
    cases rest.isEmpty with
    | true => exact ih
    | false => exact .andThen (asksStatuses_takeLine stream rest) (ih.after fun _ => rfl)

theorem asksStatuses_finish (code : Int) :
    AsksStatuses fun (refuses : String → Option ε) p => p.finish refuses code := by
  intro p q h
  have hcode : AsksStatuses fun (_ : String → Option ε) p =>
      ({ p with exitCode := some code }, none) := AsksStatuses.pure.after fun _ => rfl
  exact (asksStatuses_flush p.pending.entries).andThen hcode p q h

/-- A whole run that nobody objects to is the same for every listener that accepts the statuses
it has reported. -/
theorem readAll_of_accepts {refuses : String → Option ε} {pieces : List (String × String)}
    {code : Int} {q : CompilerOutput}
    (h : readAll (fun _ => (none : Option ε)) pieces code = (q, none))
    (haccepts : Accepts refuses q) : readAll refuses pieces code = (q, none) := by
  have hfeed : AsksStatuses fun (refuses : String → Option ε) p => p.feedAll refuses pieces :=
    asksStatuses_feedAll pieces
  exact (hfeed.andThen (asksStatuses_finish code) initial q h).2 refuses haccepts

end GroovyRounds.CompilerOutput
