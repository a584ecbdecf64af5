import GroovyRounds.Proofs.FileSystem.Room
import GroovyRounds.Proofs.FileSystem.Trees
import Mathlib.Data.Set.Insert

/-!
# Directories with nothing in them

In a directory with nothing in it there is room for every file whose path the
system takes (`Laid.room`). Changes inside some places leave open ways open and
directories elsewhere as empty as they were (`Contained.laid`), and a file that was put
where nothing was can be taken away without a trace (`Contained.prune`).
-/

namespace GroovyRounds

open FileSystem Path

variable {fs : FileSystem} {place fresh : Location} {names : List String}

-- ---------------------------------------------------------------------------
-- Paths that the system takes
-- ---------------------------------------------------------------------------

/-- The system takes the path that leads down to the place. -/
@[mk_iff] structure Path.Admissible (place : Location) : Prop where
  no_zero : hasZero (below place) = false
  fits : (below place).toString.utf8ByteSize < pathLimit
  short : ∀ name ∈ place, name.utf8ByteSize ≤ nameLimit

instance (place : Location) : Decidable (Admissible place) :=
  decidable_of_iff _ (admissible_iff place).symm

/-- A path is not shorter than the paths above it. -/
theorem Path.utf8ByteSize_below_le {above : Location} (h : above <+: place) :
    (below above).toString.utf8ByteSize ≤ (below place).toString.utf8ByteSize := by
  obtain ⟨rest, rfl⟩ := h
  have hroot (names : List String) : (below names).toString = "/" ++ spellNames names :=
    toString_of_slashes (show Anchor.root ≠ .relative by decide) names
  by_cases habove : above = []
  · simp [hroot, habove, spellNames]
  · by_cases hrest : rest = []
    · simp [hrest]
    · simp only [hroot, spellNames_append habove hrest, String.utf8ByteSize_append]
      omega

-- ---------------------------------------------------------------------------
-- Nothing below
-- ---------------------------------------------------------------------------

namespace FileSystem

/-- Nothing lies below the place. -/
def Vacant (fs : FileSystem) (place : Location) : Prop :=
  ∀ other, place <+: other → other ≠ place → fs.node? other = none

/-- A directory is at the place, and nothing lies in it. -/
structure Laid (fs : FileSystem) (place : Location) : Prop where
  paved : ∀ above, above <+: place → fs.node? above = some .directory
  vacant : fs.Vacant place

theorem vacant_iff : fs.Vacant place ↔
    ∀ entry ∈ fs.nodes, place <+: entry.1 → entry.1 ≠ place → fs.node? entry.1 = none := by
  constructor
  · exact fun h entry _ => h entry.1
  · intro h other hbelow hne
    by_contra hnode
    have hroot : other ≠ [] := by
      rintro rfl
      exact hne (List.prefix_nil.mp hbelow).symm
    have hfound := hnode
    rw [node?_of_ne_root hroot, List.lookup_eq_none_iff] at hfound
    push Not at hfound
    obtain ⟨entry, hentry, hkey⟩ := hfound
    have hplace : other = entry.1 := by simpa using hkey
    exact hnode (hplace ▸ h entry hentry (hplace ▸ hbelow) (hplace ▸ hne))

instance (fs : FileSystem) (place : Location) : Decidable (fs.Vacant place) :=
  decidable_of_iff _ vacant_iff.symm

theorem Vacant.of_append (h : fs.Vacant place) (hnames : names ≠ []) :
    fs.node? (place ++ names) = none :=
  h _ (List.prefix_append _ _) (by simpa using hnames)

/-- There is room in a directory with nothing in it. -/
theorem Laid.room (h : fs.Laid place) (hplain : ∀ name ∈ place ++ names, IsPlain name)
    (hnames : names ≠ []) (hadmissible : Admissible (place ++ names)) :
    fs.Room (place ++ names) where
  leads := ⟨by simp [hnames], hplain, hadmissible.no_zero⟩
  fits _ habove := Nat.lt_of_le_of_lt (utf8ByteSize_below_le habove) hadmissible.fits
  short := hadmissible.short
  clear above habove _ content executable hfile := by
    rcases List.prefix_or_prefix_of_prefix habove (List.prefix_append place names) with hup | hdown
    · rw [h.paved above hup] at hfile
      cases hfile
    · by_cases heq : above = place
      · rw [heq, h.paved place (List.prefix_refl _)] at hfile
        cases hfile
      · rw [h.vacant above hdown heq] at hfile
        cases hfile
  free := by
    rw [h.vacant.of_append hnames]
    exact nofun

end FileSystem

-- ---------------------------------------------------------------------------
-- Changes elsewhere
-- ---------------------------------------------------------------------------

/-- The two places lie in different directories. -/
def Aside (place other : Location) : Prop :=
  ¬ place <+: other ∧ ¬ other <+: place

instance (place other : Location) : Decidable (Aside place other) :=
  inferInstanceAs (Decidable (_ ∧ _))

theorem Aside.symm {other : Location} (h : Aside place other) : Aside other place :=
  And.symm h

theorem Aside.append {other : Location} (h : Aside place other) (names rest : List String) :
    Aside (place ++ names) (other ++ rest) := by
  constructor
  · intro hbelow
    rcases List.prefix_or_prefix_of_prefix ((List.prefix_append _ _).trans hbelow)
      (List.prefix_append other rest) with hin | hin
    · exact h.1 hin
    · exact h.2 hin
  · intro hbelow
    rcases List.prefix_or_prefix_of_prefix ((List.prefix_append _ _).trans hbelow)
      (List.prefix_append place names) with hin | hin
    · exact h.2 hin
    · exact h.1 hin

/-- Making directories changes nothing off the way. -/
theorem Extends.contained {p : Path} {a b : FileSystem} {inside ways : Set Location}
    (h : Extends p a b) (hdots : ".." ∉ p.names) (hways : a.start p ++ p.names ∈ ways)
    (htidy : a.Tidy → b.Tidy) : Contained inside ways a b where
  cwd := h.cwd
  tidy := htidy
  nodes place := by
    rcases h.nodes place with hsame | ⟨hnone, hdirectory, front, hfront, rfl⟩
    · exact .inl hsame
    · refine .inr (.inr ⟨hnone, hdirectory, _, hways, ?_⟩)
      rw [walk_of_plain fun hm => hdots (hfront.subset hm)]
      exact (List.prefix_append_right_inj _).mpr hfront

/-- Putting a node where nothing was changes nothing but its place. -/
theorem contained_put {node : Node} {inside ways : Set Location} (hplace : place ∈ inside)
    (hroot : place ≠ []) (hnone : fs.node? place = none)
    (hparent : fs.node? place.dropLast = some .directory) :
    Contained inside ways fs (fs.put place node) where
  cwd := rfl
  tidy htidy := htidy.put hroot hparent (by simp [hnone])
  nodes other := by
    by_cases heq : other = place
    · exact .inr (.inl ⟨place, hplace, heq ▸ List.prefix_refl _⟩)
    · exact .inl (by rw [node?_put hroot, if_neg heq])

/-- Pruning changes nothing off the place. -/
theorem contained_prune {inside ways : Set Location} (hplace : place ∈ inside) :
    Contained inside ways fs (fs.prune place) where
  cwd := rfl
  tidy htidy := htidy.prune place
  nodes other := by
    by_cases hbelow : place <+: other
    · exact .inr (.inl ⟨place, hplace, hbelow⟩)
    · exact .inl (node?_prune_of_not_below hbelow)

namespace Contained

variable {inside ways : Set Location} {a b : FileSystem}

theorem holdsFile {content : List UInt8} (h : Contained inside ways a b)
    (hinside : ∀ root ∈ inside, ¬ root <+: place) (hfile : a.HoldsFile place content) :
    b.HoldsFile place content where
  leads := hfile.leads
  reachable :=
    { hfile.reachable with
      directories := fun above habove hne =>
        h.kept (fun root hroot hbelow => hinside root hroot (hbelow.trans habove))
          (hfile.reachable.directories above habove hne) }
  file := by
    obtain ⟨executable, hnode⟩ := hfile.file
    exact ⟨executable, h.kept hinside hnode⟩

theorem paved (h : Contained inside ways a b) (hinside : ∀ root ∈ inside, ¬ root <+: place)
    (hpaved : ∀ above, above <+: place → a.node? above = some .directory) :
    ∀ above, above <+: place → b.node? above = some .directory := fun above habove =>
  h.kept (fun root hroot hbelow => hinside root hroot (hbelow.trans habove)) (hpaved above habove)

theorem vacant (h : Contained inside ways a b) (hinside : ∀ root ∈ inside, Aside root place)
    (hways : ∀ goal ∈ ways, place <+: goal → goal = place) (hvacant : a.Vacant place) :
    b.Vacant place := by
  intro other hbelow hne
  rcases h.nodes other with hsame | ⟨root, hroot, hin⟩ | ⟨-, -, goal, hgoal, hway⟩
  · rw [hsame]
    exact hvacant other hbelow hne
  · rcases List.prefix_or_prefix_of_prefix hin hbelow with hover | hunder
    · exact absurd hover (hinside root hroot).1
    · exact absurd hunder (hinside root hroot).2
  · have heq := hways goal hgoal (hbelow.trans hway)
    subst heq
    exact absurd (hway.eq_of_length_le hbelow.length_le) hne

theorem laid (h : Contained inside ways a b) (hinside : ∀ root ∈ inside, Aside root place)
    (hways : ∀ goal ∈ ways, place <+: goal → goal = place) (hlaid : a.Laid place) :
    b.Laid place :=
  ⟨h.paved (fun root hroot => (hinside root hroot).1) hlaid.paved,
    h.vacant hinside hways hlaid.vacant⟩

/-- A way stays open unless something changed on it. -/
theorem openWay {p : Path} (h : Contained inside ways a b)
    (hinside : ∀ root ∈ inside, ¬ root <+: a.start p ++ p.names) (hopen : a.Open p) :
    b.Open p := by
  have hstart : b.start p = a.start p := by simp [FileSystem.start, h.cwd]
  refine { hopen with start := ?_, clear := fun front hfront content executable => ?_ }
  · rw [hstart]
    refine h.kept (fun root hroot hbelow => ?_) hopen.start
    exact hinside root hroot (hbelow.trans (List.prefix_append _ _))
  · rw [hstart]
    have hway : a.start p ++ front <+: a.start p ++ p.names :=
      (List.prefix_append_right_inj _).mpr hfront
    rcases h.nodes (a.start p ++ front) with hsame | ⟨root, hroot, hin⟩ | ⟨-, hdirectory, -⟩
    · rw [hsame]
      exact hopen.clear front hfront content executable
    · exact absurd (hin.trans hway) (hinside root hroot)
    · simp [hdirectory]

/-- What changed inside of places changed inside of all that is wider. -/
theorem widen {wide : Set Location} (h : Contained inside ways a b)
    (hinside : ∀ root ∈ inside, ∃ above ∈ wide, above <+: root)
    (hways : ∀ goal ∈ ways, ∃ above ∈ wide, above <+: goal) : Contained wide wide a b where
  cwd := h.cwd
  tidy := h.tidy
  nodes other := by
    rcases h.nodes other with hsame | ⟨root, hroot, hbelow⟩ | ⟨hnone, hdirectory, goal, hgoal, hway⟩
    · exact .inl hsame
    · obtain ⟨above, hin, hover⟩ := hinside root hroot
      exact .inr (.inl ⟨above, hin, hover.trans hbelow⟩)
    · obtain ⟨above, hin, hover⟩ := hways goal hgoal
      rcases List.prefix_or_prefix_of_prefix hway hover with hup | hdown
      · exact .inr (.inr ⟨hnone, hdirectory, above, hin, hup⟩)
      · exact .inr (.inl ⟨above, hin, hdown⟩)

/-- What was put where nothing was is taken away without a trace. -/
theorem prune (h : Contained (insert fresh inside) ways a b) (hroot : fresh ≠ [])
    (hfresh : ∀ other, fresh <+: other → a.node? other = none) :
    Contained inside ways a (b.prune fresh) where
  cwd := h.cwd
  tidy htidy := (h.tidy htidy).prune fresh
  nodes other := by
    by_cases hbelow : fresh <+: other
    · left
      have hother : other ≠ [] := by
        rintro rfl
        exact hroot (List.prefix_nil.mp hbelow)
      rw [node?_prune_of_below hbelow hother, hfresh other hbelow]
    · rw [node?_prune_of_not_below hbelow]
      rcases h.nodes other with hsame | ⟨root, hin, hover⟩ | hway
      · exact .inl hsame
      · rcases Set.mem_insert_iff.mp hin with rfl | hin
        · exact absurd hover hbelow
        · exact .inr (.inl ⟨root, hin, hover⟩)
      · exact .inr (.inr hway)

end Contained

end GroovyRounds
