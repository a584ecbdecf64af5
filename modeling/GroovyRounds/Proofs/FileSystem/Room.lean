import GroovyRounds.Build.CompilerRun
import GroovyRounds.Proofs.FileSystem.Carrying

/-!
# Room for files

Where there is room for a file, it can be written (`carried_of_writeDeep`) and
moved (`moveDeep_of_room`), with the directories it needs. Room for one file is
not lost to another one that is on no way to it (`Room.carried`).
-/

namespace GroovyRounds

open FileSystem Path

-- ---------------------------------------------------------------------------
-- Room
-- ---------------------------------------------------------------------------

/-- A file may be put at the place: a path leads there that the system takes, no file stands on
its way, and no directory in its place. -/
structure FileSystem.Room (fs : FileSystem) (place : Location) : Prop where
  leads : Leads place
  fits : ∀ above, above <+: place → (Path.below above).toString.utf8ByteSize < pathLimit
  short : ∀ name ∈ place, name.utf8ByteSize ≤ nameLimit
  clear : ∀ above, above <+: place → above ≠ place → ∀ content executable,
    fs.node? above ≠ some (.file content executable)
  free : fs.node? place ≠ some .directory

variable {fs : FileSystem} {place source target : Location} {content : List UInt8}

namespace FileSystem.Room

theorem open_parent (h : fs.Room place) : fs.Open (Path.below place.dropLast) where
  no_zero := hasZero_of_subset (List.dropLast_subset _) h.leads.no_zero
  no_dots hm := h.leads.no_dots (List.dropLast_subset _ hm)
  fits front hfront := h.fits front (hfront.trans (List.dropLast_prefix _))
  short name hm := h.short name (List.dropLast_subset _ hm)
  start := rfl
  clear front hfront := by
    refine h.clear front (hfront.trans (List.dropLast_prefix _)) ?_
    rintro rfl
    exact not_prefix_dropLast h.leads.ne_root hfront

/-- The directories above a place with room can be made, and then the place is reached. -/
theorem reach (h : fs.Room place) :
    ∃ fs', FileAction.makeDirectories true (Path.below place.dropLast) fs = (.ok (), fs') ∧
      Extends (Path.below place.dropLast) fs fs' ∧ fs'.Reachable place ∧
      fs'.node? place = fs.node? place := by
  obtain ⟨fs', hmade, hpaved⟩ := FileAction.makeDirectories_of_open h.open_parent (.inl rfl)
  have hextends := (FileAction.extends_makeDirectories true (Path.below place.dropLast)).of_eq hmade
  refine ⟨fs', hmade, hextends, ⟨h.fits place (List.prefix_refl _), h.short, ?_⟩, ?_⟩
  · intro above habove hne
    exact hpaved above (prefix_dropLast habove hne)
  · refine hextends.node?_of_not_visits fun hvisits => ?_
    have hplain : ∀ name ∈ place.dropLast, IsPlain name :=
      fun name hm => h.leads.plain name (List.dropLast_subset _ hm)
    exact not_prefix_dropLast h.leads.ne_root (prefix_of_visits hplain hvisits)

/-- Room is not lost to a file that is carried elsewhere. -/
theorem carried {fs' : FileSystem} {carriedContent : List UInt8} (h : fs.Room place)
    (hcarried : Carried source target carriedContent fs fs') (hsource : ¬ source <+: place)
    (htarget : ¬ target <+: place) (hway : ¬ place <+: target.dropLast) : fs'.Room place where
  leads := h.leads
  fits := h.fits
  short := h.short
  clear above habove hne := by
    intro content executable
    rcases hcarried.others above (fun hp => hsource (hp.trans habove))
      (fun hp => htarget (hp.trans habove)) with hsame | ⟨-, hdirectory, -⟩
    · rw [hsame]
      exact h.clear above habove hne content executable
    · rw [hdirectory]
      exact nofun
  free := by
    rw [(hcarried.untouched hsource htarget hway).node]
    exact h.free

end FileSystem.Room

-- ---------------------------------------------------------------------------
-- Putting files
-- ---------------------------------------------------------------------------

namespace FileAction

open Program

/-- A file is written where its place is reached. -/
theorem run_writeBytes_of_reachable (content : List UInt8) (hleads : Leads place)
    (hreach : fs.Reachable place) (hnode : fs.node? place ≠ some .directory) :
    ∃ executable, writeBytes (Path.below place) content fs =
      (.ok (), fs.put place (.file content executable)) := by
  have hslot : slot (Path.below place) fs = (.ok (place, fs.node? place), fs) := by
    rw [run_slot, run_place, hleads.no_zero,
      (locate_below_iff hleads.no_dots).mpr ⟨hreach, rfl⟩]
    rfl
  unfold writeBytes
  rw [run_bind_of_ok hslot]
  cases hthere : fs.node? place with
  | none => exact ⟨false, rfl⟩
  | some node =>
    cases node with
    | file old executable => exact ⟨executable, rfl⟩
    | directory => exact absurd hthere hnode

/-- A file is moved to where there is room for it. -/
theorem moveDeep_of_room (hsource : fs.HoldsFile source content) (h : fs.Room target) :
    ∃ fs', moveDeep (Path.below source) (Path.below target) fs = (.ok (), fs') ∧
      Carried source target content fs fs' := by
  obtain ⟨made, hmade, hextends, hreach, hnode⟩ := h.reach
  have hkept := hextends.holdsFile hsource
  obtain ⟨executable, hstat⟩ := hkept.stat
  have hdirectory : made.isDirectory (Path.below target) = false := by
    unfold isDirectory
    split
    · rename_i hfound
      obtain ⟨-, -, hfound⟩ := (stat_below_iff h.leads.no_dots).mp hfound
      exact absurd (hnode ▸ hfound) h.free
    · rfl
  obtain ⟨fs', hmoved, -⟩ := run_move_of_reachable hstat hkept.leads h.leads hdirectory hreach
  have hrun : moveDeep (Path.below source) (Path.below target) fs = (.ok (), fs') :=
    (run_bind_of_ok hmade).trans hmoved
  exact ⟨fs', hrun, carried_of_moveDeep hsource h.leads.plain h.leads.ne_root h.free hrun⟩

end FileAction

/-- A file that is written comes to lie in its place, for which directories may be made. -/
theorem carried_of_writeDeep (h : fs.Room place) :
    ∃ fs', Running.writeDeep (Path.below place) content fs = (.ok (), fs') ∧
      Carried place place content fs fs' := by
  obtain ⟨made, hmade, hextends, hreach, hnode⟩ := h.reach
  obtain ⟨executable, hwritten⟩ :=
    FileAction.run_writeBytes_of_reachable content h.leads hreach (hnode ▸ h.free)
  have hput {other : Location} (hne : other ≠ place) :
      (made.put place (.file content executable)).node? other = made.node? other := by
    rw [node?_put h.leads.ne_root, if_neg hne]
  refine ⟨_, (Program.run_bind_of_ok hmade).trans hwritten, hextends.cwd, ⟨h.leads, ?_, ?_⟩,
    fun hne => absurd rfl hne, ?_, fun htidy => ?_⟩
  · exact hreach.congr fun above _ hne => hput hne
  · exact ⟨executable, by rw [node?_put h.leads.ne_root, if_pos rfl]⟩
  · intro other hplace _
    have hne : other ≠ place := by
      rintro rfl
      exact hplace (List.prefix_refl _)
    rw [hput hne]
    rcases hextends.nodes other with hsame | ⟨hnone, hdirectory, hvisits⟩
    · exact .inl hsame
    · have hplain : ∀ name ∈ place.dropLast, IsPlain name :=
        fun name hm => h.leads.plain name (List.dropLast_subset _ hm)
      exact .inr ⟨hnone, hdirectory, prefix_of_visits hplain hvisits⟩
  · refine (htidy.makeDirectories h.open_parent (.inl rfl) hmade).put h.leads.ne_root ?_ ?_
    · refine hreach.directories _ (List.dropLast_prefix _) fun heq => ?_
      have hnot := not_prefix_dropLast h.leads.ne_root
      rw [heq] at hnot
      exact hnot (List.prefix_refl _)
    · exact fun hdirectory => absurd (hnode ▸ hdirectory) h.free

-- ---------------------------------------------------------------------------
-- Changes that are contained
-- ---------------------------------------------------------------------------

/-- What changed lies inside some of these places, or is a new directory on the way to one of
those. A tidy tree stays one. -/
structure Contained (inside ways : Set Location) (before after : FileSystem) : Prop where
  cwd : after.cwd = before.cwd
  nodes : ∀ place, after.node? place = before.node? place ∨ (∃ root ∈ inside, root <+: place) ∨
    before.node? place = none ∧ after.node? place = some .directory ∧ ∃ goal ∈ ways, place <+: goal
  tidy : before.Tidy → after.Tidy

namespace Contained

variable {inside ways inside' ways' : Set Location} {a b c : FileSystem}

theorem refl (inside ways : Set Location) (a : FileSystem) : Contained inside ways a a :=
  ⟨rfl, fun _ => .inl rfl, id⟩

theorem trans (h : Contained inside ways a b) (h' : Contained inside ways b c) :
    Contained inside ways a c where
  cwd := h'.cwd.trans h.cwd
  nodes place := by
    rcases h'.nodes place with hsame' | hinside | ⟨hnone', hdirectory', hway⟩
    · rw [hsame']
      exact h.nodes place
    · exact .inr (.inl hinside)
    · rcases h.nodes place with hsame | hinside | ⟨-, hdirectory, -⟩
      · exact .inr (.inr ⟨hsame ▸ hnone', hdirectory', hway⟩)
      · exact .inr (.inl hinside)
      · rw [hdirectory] at hnone'
        cases hnone'
  tidy htidy := h'.tidy (h.tidy htidy)

theorem mono (h : Contained inside ways a b) (hinside : inside ⊆ inside') (hways : ways ⊆ ways') :
    Contained inside' ways' a b where
  cwd := h.cwd
  nodes place := by
    rcases h.nodes place with hsame | ⟨root, hroot, hbelow⟩ | ⟨hnone, hdirectory, goal, hgoal, hway⟩
    · exact .inl hsame
    · exact .inr (.inl ⟨root, hinside hroot, hbelow⟩)
    · exact .inr (.inr ⟨hnone, hdirectory, goal, hways hgoal, hway⟩)
  tidy := h.tidy

/-- A file that is carried between two places changes nothing outside them. -/
theorem of_carried {rootSource rootTarget : Location} (h : Carried source target content a b)
    (hsource : rootSource ∈ inside) (htarget : rootTarget ∈ inside)
    (hways : rootTarget ∈ ways) (hbelow : rootSource <+: source) (hbelow' : rootTarget <+: target) :
    Contained inside ways a b where
  cwd := h.cwd
  nodes place := by
    by_cases hs : source <+: place
    · exact .inr (.inl ⟨rootSource, hsource, hbelow.trans hs⟩)
    by_cases ht : target <+: place
    · exact .inr (.inl ⟨rootTarget, htarget, hbelow'.trans ht⟩)
    rcases h.others place hs ht with hsame | ⟨hnone, hdirectory, hway⟩
    · exact .inl hsame
    · rcases List.prefix_or_prefix_of_prefix (hway.trans (List.dropLast_prefix _)) hbelow' with
        habove | hin
      · exact .inr (.inr ⟨hnone, hdirectory, rootTarget, hways, habove⟩)
      · exact .inr (.inl ⟨rootTarget, htarget, hin⟩)
  tidy := h.tidy

/-- Outside the roots, a place on no way was left as it was. -/
theorem same (h : Contained inside ways a b) (hinside : ∀ root ∈ inside, ¬ root <+: place)
    (hways : ∀ goal ∈ ways, ¬ place <+: goal) : b.node? place = a.node? place := by
  rcases h.nodes place with hsame | ⟨root, hroot, hbelow⟩ | ⟨-, -, goal, hgoal, hway⟩
  · exact hsame
  · exact absurd hbelow (hinside root hroot)
  · exact absurd hway (hways goal hgoal)

/-- What was at a place outside the roots is still there. -/
theorem kept (h : Contained inside ways a b) (hinside : ∀ root ∈ inside, ¬ root <+: place)
    {node : Node} (hnode : a.node? place = some node) : b.node? place = some node := by
  rcases h.nodes place with hsame | ⟨root, hroot, hbelow⟩ | ⟨hnone, -⟩
  · rw [hsame, hnode]
  · exact absurd hbelow (hinside root hroot)
  · rw [hnode] at hnone
    cases hnone

end Contained

/-- Room outside the roots, on the way to nothing, is not lost. -/
theorem FileSystem.Room.contained {inside ways : Set Location} {fs' : FileSystem}
    (h : fs.Room place) (hcontained : Contained inside ways fs fs')
    (hinside : ∀ root ∈ inside, ¬ root <+: place) (hways : ∀ goal ∈ ways, ¬ place <+: goal) :
    fs'.Room place where
  leads := h.leads
  fits := h.fits
  short := h.short
  clear above habove hne := by
    intro content executable
    rcases hcontained.nodes above with hsame | ⟨root, hroot, hbelow⟩ | ⟨-, hdirectory, -⟩
    · rw [hsame]
      exact h.clear above habove hne content executable
    · exact absurd (hbelow.trans habove) (hinside root hroot)
    · rw [hdirectory]
      exact nofun
  free := by
    rw [hcontained.same hinside hways]
    exact h.free

end GroovyRounds
