import GroovyRounds.Proofs.FileSystem.Growth
import GroovyRounds.Proofs.FileSystem.Vacancy

/-!
# Directories made anew

A directory that is there is removed with all that lies in it, and made again
with its missing parents. However that ends, only what lies at the place to
which the path leads and below may be lost, and directories on the way of the
path may be new (`Redone`). If it succeeds, just these directories are there in
the end and nothing lies at the place but the directory (`MadeAnew`).
-/

namespace GroovyRounds

open FileSystem Program

variable {p : Path} {cleared made : Set Path} {place : Location} {names : List String}
variable {a b c fs fs' : FileSystem}

-- ---------------------------------------------------------------------------
-- Where a path leads
-- ---------------------------------------------------------------------------

namespace FileSystem

/-- The place to which a path leads if it can be walked. -/
def goal (fs : FileSystem) (p : Path) : Location :=
  walk (fs.start p) p.names

theorem goal_of_cwd_eq (h : b.cwd = a.cwd) (p : Path) : b.goal p = a.goal p := by
  simp [goal, start, h]

theorem visits_of_cwd_eq (h : b.cwd = a.cwd) : b.Visits p place ↔ a.Visits p place := by
  simp [Visits, start, h]

theorem visits_goal (fs : FileSystem) (p : Path) : fs.Visits p (fs.goal p) :=
  ⟨p.names, List.prefix_refl _, rfl⟩

theorem walk_append (place : Location) (front rest : List String) :
    walk place (front ++ rest) = walk (walk place front) rest :=
  List.foldl_append

/-- A walk leaves a directory by way of its place. -/
theorem exists_walk_eq {goal : Location} (hinside : goal <+: place)
    (houtside : ¬ goal <+: walk place names) :
    ∃ front, front <+: names ∧ walk place front = goal := by
  induction names generalizing place with
  | nil => exact absurd hinside houtside
  | cons name names ih =>
    by_cases hstep : goal <+: step place name
    · obtain ⟨front, hfront, hgoal⟩ := ih hstep houtside
      exact ⟨name :: front, List.cons_prefix_cons.mpr ⟨rfl, hfront⟩, hgoal⟩
    · refine ⟨[], List.nil_prefix, ?_⟩
      by_contra hne
      unfold step at hstep
      split at hstep
      · exact hstep (prefix_dropLast hinside (Ne.symm hne))
      · exact hstep (hinside.trans (List.prefix_append _ _))

end FileSystem

-- ---------------------------------------------------------------------------
-- What may have changed
-- ---------------------------------------------------------------------------

/-- Only what lies where the cleared paths lead was lost or replaced, and directories were added
along the made paths where nothing was. -/
structure Redone (cleared made : Set Path) (before after : FileSystem) : Prop where
  cwd : after.cwd = before.cwd
  nodes : ∀ place, after.node? place = before.node? place ∨
    (∃ p ∈ cleared, before.goal p <+: place) ∨
    before.node? place = none ∧ after.node? place = some .directory ∧
      ∃ p ∈ made, before.Visits p place

namespace Redone

theorem refl (cleared made : Set Path) (a : FileSystem) : Redone cleared made a a :=
  ⟨rfl, fun _ => .inl rfl⟩

theorem trans (h : Redone cleared made a b) (h' : Redone cleared made b c) :
    Redone cleared made a c where
  cwd := h'.cwd.trans h.cwd
  nodes place := by
    rcases h'.nodes place with hsame' | ⟨p, hp, hbelow⟩ | ⟨hnone', hdirectory', p, hp, hvisits⟩
    · rw [hsame']
      exact h.nodes place
    · exact .inr (.inl ⟨p, hp, goal_of_cwd_eq h.cwd p ▸ hbelow⟩)
    · rcases h.nodes place with hsame | hbelow | ⟨-, hdirectory, -⟩
      · exact .inr (.inr ⟨hsame ▸ hnone', hdirectory', p, hp, (visits_of_cwd_eq h.cwd).mp hvisits⟩)
      · exact .inr (.inl hbelow)
      · rw [hdirectory] at hnone'
        cases hnone'

instance : Std.Refl (Redone cleared made) := ⟨refl cleared made⟩

instance : IsTrans FileSystem (Redone cleared made) := ⟨fun _ _ _ => trans⟩

theorem of_extends (h : Extends p a b) (hp : p ∈ made) : Redone cleared made a b where
  cwd := h.cwd
  nodes place := (h.nodes place).imp_right fun ⟨hnone, hdirectory, hvisits⟩ =>
    .inr ⟨hnone, hdirectory, p, hp, hvisits⟩

end Redone

namespace FileAction

/-- Removing a directory changes nothing but what lies where its path leads. -/
theorem removeTree_cases (p : Path) (fs : FileSystem) :
    (∃ fault, removeTree p fs = (.error fault, fs)) ∨
      fs.isDirectory p = true ∧ removeTree p fs = (.ok (), fs.prune (fs.goal p)) := by
  unfold removeTree
  rw [run_bind, run_entry]
  cases hzero : hasZero p with
  | true => exact .inl ⟨_, rfl⟩
  | false =>
    simp only [Bool.false_eq_true, if_false]
    cases hstat : fs.stat p with
    | error refusal => exact .inl ⟨_, rfl⟩
    | ok found =>
      obtain ⟨place, node⟩ := found
      cases node with
      | file content executable => exact .inl ⟨_, rfl⟩
      | directory =>
        have hplace : place = fs.goal p :=
          (locate_eq_ok_iff.mp (stat_eq_ok_iff.mp hstat).1).2.2
        exact .inr ⟨isDirectory_iff.mpr ⟨hzero, place, hstat⟩, by rw [← hplace]; rfl⟩

theorem redone_removeTree (hp : p ∈ cleared) : Keeps (Redone cleared made) (removeTree p) := by
  intro fs
  rcases removeTree_cases p fs with ⟨fault, hrefused⟩ | ⟨-, hremoved⟩
  · rw [hrefused]
    exact .refl _ _ _
  · rw [hremoved]
    refine ⟨rfl, fun place => ?_⟩
    by_cases hbelow : fs.goal p <+: place
    · exact .inr (.inl ⟨p, hp, hbelow⟩)
    · exact .inl (node?_prune_of_not_below hbelow)

theorem redone_makeDirectories (hp : p ∈ made) (tolerant : Bool) :
    Keeps (Redone cleared made) (makeDirectories tolerant p) :=
  (extends_makeDirectories tolerant p).mono fun _ _ h => .of_extends h hp

end FileAction

-- ---------------------------------------------------------------------------
-- A directory that was made anew
-- ---------------------------------------------------------------------------

/-- All places that the path visits are directories, nothing lies in the one to which it leads, and
elsewhere nothing changed. -/
structure MadeAnew (p : Path) (before after : FileSystem) : Prop where
  cwd : after.cwd = before.cwd
  last : ∀ front, front <+: p.names → before.goal p <+: walk (before.start p) front →
    front = p.names
  made : ∀ place, before.Visits p place → after.node? place = some .directory
  vacant : after.Vacant (before.goal p)
  kept : ∀ place, ¬ before.goal p <+: place → ¬ before.Visits p place →
    after.node? place = before.node? place
  isDirectory : after.isDirectory p = true

/-- A path that does not end in a double dot leads out of each directory that it passes through
at its end. -/
theorem FileSystem.not_goal_prefix {last : String} (hnames : p.names = names ++ [last])
    (hlast : last ≠ "..") : ¬ fs.goal p <+: walk (fs.start p) names := by
  have hgoal : fs.goal p = walk (fs.start p) names ++ [last] := by
    rw [goal, hnames, walk_append]
    exact if_neg hlast
  intro hbelow
  have hle := hbelow.length_le
  rw [hgoal, List.length_append, List.length_singleton] at hle
  omega

/-- A path that comes to where it leads only at its end is inside of that only at its end: whatever
it enters before that, it would have to leave by way of its place. -/
theorem FileSystem.eq_names_of_goal_prefix {last : String} {front : List String}
    (hnames : p.names = names ++ [last]) (hlast : last ≠ "..")
    (hthrough : ∀ front, front <+: p.names → front ≠ p.names →
      walk (fs.start p) front ≠ fs.goal p)
    (hfront : front <+: p.names) (hinside : fs.goal p <+: walk (fs.start p) front) :
    front = p.names := by
  by_contra hne
  obtain ⟨rest, hrest⟩ : front <+: names := by
    have hshort := prefix_dropLast hfront hne
    rwa [hnames, List.dropLast_concat] at hshort
  have houtside : ¬ fs.goal p <+: walk (walk (fs.start p) front) rest := by
    rw [← walk_append, hrest]
    exact not_goal_prefix hnames hlast
  obtain ⟨on, hon, hgoal⟩ := exists_walk_eq hinside houtside
  have hway : front ++ on <+: names := hrest ▸ (List.prefix_append_right_inj _).mpr hon
  refine hthrough (front ++ on) (hway.trans ⟨[last], hnames.symm⟩) (fun heq => ?_) ?_
  · have hle := hway.length_le
    rw [heq, hnames, List.length_append, List.length_singleton] at hle
    omega
  · rw [walk_append, hgoal]

/-- A directory that was there is cleared, or none was, and then it is made. -/
theorem MadeAnew.of_make {last : String} {cleared : FileSystem} (hrooted : a.Rooted)
    (hnames : p.names = names ++ [last]) (hlast : last ≠ "..")
    (hcleared : cleared = a ∨ cleared = a.prune (a.goal p))
    (hmake : FileAction.makeDirectories false p cleared = (.ok (), b)) : MadeAnew p a b := by
  have hcwd : cleared.cwd = a.cwd := by
    rcases hcleared with rfl | rfl <;> rfl
  obtain ⟨between, hextends, hput⟩ := FileAction.exists_makeDirectory hmake
  have hcwd' : between.cwd = a.cwd := hextends.cwd.trans hcwd
  obtain ⟨-, goal, hlocate, hnone, hroot, rfl⟩ := FileAction.eq_put_of_makeDirectory hput
  obtain ⟨-, hpassable, hgoal⟩ := locate_eq_ok_iff.mp hlocate
  have hstart : between.start p = a.start p := by simp [FileSystem.start, hcwd']
  obtain rfl : goal = a.goal p := by rw [hgoal, hstart, FileSystem.goal]
  -- The path passes through directories, and nothing is where it leads: it does not pass there.
  have hnot_through : ∀ front, front <+: p.names → front ≠ p.names →
      walk (a.start p) front ≠ a.goal p := by
    intro front hfront hne heq
    have hdirectory := hpassable.directories front hfront hne
    rw [hstart, heq, hnone] at hdirectory
    cases hdirectory
  have hlast' (front : List String) (hfront : front <+: p.names)
      (hinside : a.goal p <+: walk (a.start p) front) : front = p.names :=
    eq_names_of_goal_prefix hnames hlast hnot_through hfront hinside
  refine ⟨hcwd', hlast', ?_, ?_, ?_, FileAction.isDirectory_of_makeDirectories hmake⟩
  · rintro place ⟨front, hfront, rfl⟩
    rw [node?_put hroot]
    split
    · rfl
    · rename_i hne
      have hdirectory := hpassable.directories front hfront fun heq => hne (by rw [heq]; rfl)
      rwa [hstart] at hdirectory
  · intro place hbelow hne
    rw [node?_put hroot, if_neg hne]
    have hnot_visited : ¬ cleared.Visits p place := by
      rw [visits_of_cwd_eq hcwd]
      rintro ⟨front, hfront, rfl⟩
      exact hne (by rw [hlast' front hfront hbelow]; rfl)
    rw [hextends.node?_of_not_visits hnot_visited]
    rcases hcleared with rfl | rfl
    · refine hrooted.none_below ?_ hbelow
      rcases hextends.nodes (cleared.goal p) with hsame' | ⟨hnone', -⟩
      · rw [← hsame', hnone]
      · exact hnone'
    · refine node?_prune_of_below hbelow ?_
      rintro rfl
      exact hroot (List.prefix_nil.mp hbelow)
  · intro place hoff hnot_visited
    have hne : place ≠ a.goal p := by
      rintro rfl
      exact hoff (List.prefix_refl _)
    rw [node?_put hroot, if_neg hne]
    rw [hextends.node?_of_not_visits (mt (visits_of_cwd_eq hcwd).mp hnot_visited)]
    rcases hcleared with rfl | rfl
    · rfl
    · exact node?_prune_of_not_below hoff

namespace MadeAnew

theorem start (h : MadeAnew p a b) (q : Path) : b.start q = a.start q := by
  simp [FileSystem.start, h.cwd]

theorem visited (h : MadeAnew p a b) {front : List String} (hfront : front <+: p.names) :
    b.node? (walk (a.start p) front) = some .directory :=
  h.made _ ⟨front, hfront, rfl⟩

/-- All above the places that the path visits are directories. -/
theorem above_visited (h : MadeAnew p a b) (hrooted : a.Rooted)
    (hstart : a.node? (a.start p) = some .directory) {front : List String}
    (hfront : front <+: p.names) :
    ∀ above, above <+: walk (a.start p) front → b.node? above = some .directory := by
  induction front using List.reverseRecOn with
  | nil =>
    intro above habove
    change above <+: a.start p at habove
    by_cases heq : above = a.start p
    · rw [heq]
      exact h.visited List.nil_prefix
    by_cases hvisits : a.Visits p above
    · exact h.made above hvisits
    have hold : a.node? above = some .directory :=
      hrooted.directory (by simp [hstart]) habove heq
    rw [h.kept above (fun hbelow => ?_) hvisits, hold]
    -- A path that starts where it leads has no names.
    have hnil := h.last [] List.nil_prefix (hbelow.trans habove)
    have hgoal : a.goal p = a.start p := by rw [FileSystem.goal, ← hnil]; rfl
    exact heq (List.IsPrefix.eq_of_length_le habove (hgoal ▸ hbelow.length_le))
  | append_singleton front name ih =>
    intro above habove
    have hshort : front <+: p.names := (List.prefix_append _ _).trans hfront
    by_cases heq : above = walk (a.start p) (front ++ [name])
    · rw [heq]
      exact h.visited hfront
    refine ih hshort above ?_
    have hparent := prefix_dropLast habove heq
    rw [walk_append] at habove hparent
    change above <+: step _ _ at habove
    change above <+: (step _ _).dropLast at hparent
    unfold step at habove hparent
    split at hparent
    · rename_i hdots
      rw [if_pos hdots] at habove
      exact habove.trans (List.dropLast_prefix _)
    · rwa [List.dropLast_concat] at hparent

/-- What lies anywhere lies in a directory still. -/
theorem rooted (h : MadeAnew p a b) (hrooted : a.Rooted)
    (hstart : a.node? (a.start p) = some .directory) : b.Rooted := by
  intro place hroot hnode
  by_cases hvisits : a.Visits p place
  · obtain ⟨front, hfront, rfl⟩ := hvisits
    exact h.above_visited hrooted hstart hfront _ (List.dropLast_prefix _)
  · have hoff : ¬ a.goal p <+: place := by
      intro hbelow
      refine hnode (h.vacant place hbelow ?_)
      rintro rfl
      exact hvisits (visits_goal a p)
    rw [h.kept place hoff hvisits] at hnode
    by_cases hparent : a.Visits p place.dropLast
    · exact h.made _ hparent
    · rw [h.kept _ (fun hbelow => hoff (hbelow.trans (List.dropLast_prefix _))) hparent]
      exact hrooted place hroot hnode

end MadeAnew

-- ---------------------------------------------------------------------------
-- One after another
-- ---------------------------------------------------------------------------

/-- Directories were made anew one after another. -/
inductive AllMadeAnew : List Path → FileSystem → FileSystem → Prop where
  | nil (a : FileSystem) : AllMadeAnew [] a a
  | cons {p : Path} {paths : List Path} {a b c : FileSystem} (first : MadeAnew p a b)
      (rest : AllMadeAnew paths b c) : AllMadeAnew (p :: paths) a c

/-- A directory is at the place, and nothing lies in it. -/
def FileSystem.Bare (fs : FileSystem) (place : Location) : Prop :=
  fs.node? place = some .directory ∧ fs.Vacant place

section
variable {root : Path} {lists : List (List String)}

/-- Where names lead down from. -/
theorem FileSystem.goal_inside (fs : FileSystem) (root : Path) (h : ".." ∉ names) :
    fs.goal (root.inside names) = fs.goal root ++ names := by
  rw [goal, goal, ← walk_of_plain h, ← walk_append]
  rfl

/-- On its way down a path visits what its directory visits, and the places between. -/
theorem FileSystem.visits_inside (h : ".." ∉ names) :
    fs.Visits (root.inside names) place ↔
      fs.Visits root place ∨ ∃ front, front <+: names ∧ place = fs.goal root ++ front := by
  constructor
  · rintro ⟨front, hfront, rfl⟩
    change front <+: root.names ++ names at hfront
    rcases List.prefix_or_prefix_of_prefix hfront (List.prefix_append _ _) with hup | ⟨rest, rfl⟩
    · exact .inl ⟨front, hup, rfl⟩
    · have hrest : rest <+: names := (List.prefix_append_right_inj _).mp hfront
      refine .inr ⟨rest, hrest, ?_⟩
      rw [walk_append]
      exact walk_of_plain fun hm => h (hrest.subset hm)
  · rintro (⟨front, hfront, rfl⟩ | ⟨front, hfront, rfl⟩)
    · exact ⟨front, hfront.trans (List.prefix_append _ _), rfl⟩
    · refine ⟨root.names ++ front, (List.prefix_append_right_inj _).mpr hfront, ?_⟩
      rw [walk_append]
      exact (walk_of_plain fun hm => h (hfront.subset hm)).symm

/-- A directory that is made anew leaves another one bare if the two are one, or if that was bare
and they lie in different directories. -/
theorem MadeAnew.bare_iff (h : MadeAnew (root.inside names) a b) (hdots : ".." ∉ names)
    (hroot : ∀ other, a.Visits root other → ¬ place <+: other) :
    b.Bare place ↔ a.goal root ++ names = place ∨
      a.Bare place ∧ Aside (a.goal root ++ names) place := by
  have hgoal := a.goal_inside root hdots
  by_cases heq : a.goal root ++ names = place
  · have hbare : b.Bare place :=
      heq ▸ hgoal ▸ ⟨h.made _ (visits_goal a _), h.vacant⟩
    simp [heq, hbare]
  rw [or_iff_right heq]
  by_cases hover : a.goal root ++ names <+: place
  · have hgone : b.node? place = none := h.vacant place (hgoal ▸ hover) (hgoal ▸ Ne.symm heq)
    constructor
    · rintro ⟨hdirectory, -⟩
      rw [hgone] at hdirectory
      cases hdirectory
    · exact fun hboth => absurd hover hboth.2.1
  by_cases hunder : place <+: a.goal root ++ names
  · have hthere : b.node? (a.goal root ++ names) = some .directory :=
      hgoal ▸ h.made _ (visits_goal a _)
    constructor
    · rintro ⟨-, hvacant⟩
      rw [hvacant _ hunder heq] at hthere
      cases hthere
    · exact fun hboth => absurd hunder hboth.2.2
  have hsame : ∀ other, place <+: other → b.node? other = a.node? other := by
    intro other hbelow
    refine h.kept other (fun hin => ?_) fun hvisits => ?_
    · rw [hgoal] at hin
      rcases List.prefix_or_prefix_of_prefix hin hbelow with hover' | hunder'
      · exact hover hover'
      · exact hunder hunder'
    · rcases (visits_inside hdots).mp hvisits with hup | ⟨front, hfront, rfl⟩
      · exact hroot other hup hbelow
      · exact hunder (hbelow.trans ((List.prefix_append_right_inj _).mpr hfront))
  simp only [FileSystem.Bare, FileSystem.Vacant, hsame place (List.prefix_refl _)]
  constructor
  · rintro ⟨hdirectory, hvacant⟩
    exact ⟨⟨hdirectory, fun other hbelow hne => hsame other hbelow ▸ hvacant other hbelow hne⟩,
      hover, hunder⟩
  · rintro ⟨⟨hdirectory, hvacant⟩, -⟩
    refine ⟨hdirectory, fun other hbelow hne => ?_⟩
    exact (hsame other hbelow).trans (hvacant other hbelow hne)

namespace AllMadeAnew

theorem cwd {paths : List Path} (h : AllMadeAnew paths a b) : b.cwd = a.cwd := by
  induction h with
  | nil => rfl
  | cons first _ ih => exact ih.trans first.cwd

theorem exists_madeAnew {paths : List Path} (h : AllMadeAnew paths a b) (hp : p ∈ paths) :
    ∃ u v, u.cwd = a.cwd ∧ MadeAnew p u v := by
  induction h with
  | nil => cases hp
  | cons first _ ih =>
    rcases List.mem_cons.mp hp with rfl | hp
    · exact ⟨_, _, rfl, first⟩
    · obtain ⟨u, v, hcwd, hmade⟩ := ih hp
      exact ⟨u, v, hcwd.trans first.cwd, hmade⟩

theorem rooted (h : AllMadeAnew (lists.map root.inside) a b) (hrooted : a.Rooted)
    (hstart : a.node? (a.start root) = some .directory) : b.Rooted := by
  induction lists generalizing a with
  | nil =>
    cases h
    exact hrooted
  | cons names lists ih =>
    cases h with
    | cons first rest =>
      refine ih rest (first.rooted hrooted hstart) ?_
      rw [first.start]
      exact first.visited List.nil_prefix

/-- The directories on the way are there in the end. -/
theorem visited (h : AllMadeAnew (lists.map root.inside) a b) (hlists : lists ≠ []) :
    ∀ front, front <+: root.names → b.node? (walk (a.start root) front) = some .directory := by
  induction lists generalizing a with
  | nil => exact absurd rfl hlists
  | cons names lists ih =>
    cases h with
    | cons first rest =>
      intro front hfront
      by_cases hnil : lists = []
      · subst hnil
        cases rest
        exact first.visited (hfront.trans (List.prefix_append _ _))
      · rw [← first.start root]
        exact ih rest hnil front hfront

/-- The last of some names that do not lead elsewhere are the names themselves. -/
theorem exists_last_cons {first : List String} :
    (∃ front back, first :: lists = front ++ names :: back ∧ ∀ other ∈ back, Aside other names) ↔
      (∃ front back, lists = front ++ names :: back ∧ ∀ other ∈ back, Aside other names) ∨
        first = names ∧ ∀ other ∈ lists, Aside other names := by
  constructor
  · rintro ⟨front, back, hsplit, haside⟩
    cases front with
    | nil =>
      obtain ⟨rfl, rfl⟩ := List.cons.inj hsplit
      exact .inr ⟨rfl, haside⟩
    | cons _ front => exact .inl ⟨front, back, (List.cons.inj hsplit).2, haside⟩
  · rintro (⟨front, back, rfl, haside⟩ | ⟨rfl, haside⟩)
    · exact ⟨first :: front, back, rfl, haside⟩
    · exact ⟨[], lists, rfl, haside⟩

theorem aside_append_iff {front other : List String} :
    Aside (front ++ other) (front ++ names) ↔ Aside other names := by
  simp only [Aside, List.prefix_append_right_inj]

theorem bare_iff (h : AllMadeAnew (lists.map root.inside) a b)
    (hdots : ∀ names ∈ lists, ".." ∉ names)
    (hroot : ∀ other, a.Visits root other → ¬ a.goal root ++ names <+: other) :
    b.Bare (a.goal root ++ names) ↔
      (∃ front back, lists = front ++ names :: back ∧ ∀ other ∈ back, Aside other names) ∨
        a.Bare (a.goal root ++ names) ∧ ∀ other ∈ lists, Aside other names := by
  induction lists generalizing a with
  | nil =>
    cases h
    simp
  | cons first lists ih =>
    cases h with
    | @cons _ _ _ u _ hfirst hrest =>
      obtain ⟨hdots', hdots⟩ := List.forall_mem_cons.mp hdots
      have hnext := ih hrest hdots fun other hvisits => by
        rw [goal_of_cwd_eq hfirst.cwd]
        exact hroot other ((visits_of_cwd_eq hfirst.cwd).mp hvisits)
      rw [goal_of_cwd_eq hfirst.cwd] at hnext
      rw [hnext, hfirst.bare_iff hdots' hroot, exists_last_cons, List.forall_mem_cons,
        List.append_right_inj, aside_append_iff, or_and_right, or_assoc, and_assoc]

/-- The path of a directory that was made anew leads to it as long as it is there. -/
theorem isDirectory_iff (h : AllMadeAnew (lists.map root.inside) a b) (hrooted : b.Rooted)
    (hnames : names ∈ lists) (hdots : ".." ∉ names) :
    b.isDirectory (root.inside names) = true ↔
      b.node? (a.goal root ++ names) = some .directory := by
  have hgoal : b.goal (root.inside names) = a.goal root ++ names := by
    rw [goal_of_cwd_eq h.cwd, goal_inside a root hdots]
  obtain ⟨u, v, hcwd, hmade⟩ := h.exists_madeAnew (List.mem_map_of_mem hnames)
  obtain ⟨hzero, place, hstat⟩ := FileSystem.isDirectory_iff.mp hmade.isDirectory
  obtain ⟨hfits, hpassable, -⟩ := locate_eq_ok_iff.mp (stat_eq_ok_iff.mp hstat).1
  constructor
  · intro hdirectory
    obtain ⟨-, place, hstat⟩ := FileSystem.isDirectory_iff.mp hdirectory
    obtain ⟨hlocate, hnode⟩ := stat_eq_ok_iff.mp hstat
    obtain ⟨-, -, rfl⟩ := locate_eq_ok_iff.mp hlocate
    exact hgoal ▸ hnode
  · intro hnode
    refine FileSystem.isDirectory_iff.mpr
      ⟨hzero, a.goal root ++ names, stat_eq_ok_iff.mpr ⟨?_, hnode⟩⟩
    have hstart : b.start root = a.start root := by simp [FileSystem.start, h.cwd]
    refine locate_eq_ok_iff.mpr ⟨hfits, ⟨fun front hfront hne => ?_, hpassable.short⟩, hgoal.symm⟩
    change b.node? (walk (b.start root) front) = _
    rw [hstart]
    rcases List.prefix_or_prefix_of_prefix hfront (List.prefix_append _ _) with hup | ⟨rest, rfl⟩
    · exact h.visited (List.ne_nil_of_mem hnames) front hup
    · have hrest : rest <+: names := (List.prefix_append_right_inj _).mp hfront
      rw [walk_append, walk_of_plain fun hm => hdots (hrest.subset hm)]
      change b.node? (a.goal root ++ rest) = _
      refine hrooted.directory (by simp [hnode]) ((List.prefix_append_right_inj _).mpr hrest) ?_
      intro heq
      exact hne (by rw [List.append_cancel_left heq]; rfl)

/-- A directory that was made anew is there in the end, with nothing in it, exactly if none was
made later in it or around it, but for the same one again. -/
theorem isDirectory_and_vacant_iff (h : AllMadeAnew (lists.map root.inside) a b)
    (hrooted : a.Rooted) (hstart : a.node? (a.start root) = some .directory)
    (hdots : ∀ names ∈ lists, ".." ∉ names ∧ names ≠ []) (hnames : names ∈ lists) :
    b.isDirectory (root.inside names) = true ∧ b.Vacant (a.goal root ++ names) ↔
      ∃ front back, lists = front ++ names :: back ∧ ∀ other ∈ back, Aside other names := by
  obtain ⟨u, v, hcwd, hmade⟩ := h.exists_madeAnew (List.mem_map_of_mem hnames)
  have hroot : ∀ other, a.Visits root other → ¬ a.goal root ++ names <+: other := by
    rw [← goal_of_cwd_eq hcwd]
    intro other hvisits hbelow
    obtain ⟨front, hfront, rfl⟩ := (visits_of_cwd_eq hcwd).mpr hvisits
    have hend := hmade.last front (hfront.trans (List.prefix_append _ _))
      ((goal_inside u root (hdots names hnames).1).symm ▸ hbelow)
    have hlength := hfront.length_le
    rw [hend] at hlength
    have hlonger : names.length = 0 := by
      have : (root.inside names).names.length = root.names.length + names.length :=
        List.length_append
      omega
    exact (hdots names hnames).2 (List.length_eq_zero_iff.mp hlonger)
  rw [h.isDirectory_iff (h.rooted hrooted hstart) hnames (hdots names hnames).1]
  refine (h.bare_iff (fun names hnames => (hdots names hnames).1) hroot).trans (or_iff_left ?_)
  rintro ⟨-, haside⟩
  exact (haside names hnames).1 (List.prefix_refl _)

end AllMadeAnew

end

end GroovyRounds
