import GroovyRounds.Build.Reconcile
import GroovyRounds.Proofs.FileSystem.Moves

/-!
# Carrying files

A file that is moved into a directory that may have to be made comes to lie
there (`carried_of_moveDeep`). What lies neither at one of the two places, nor
below them, nor on the way to the new one is left alone (`Carried.untouched`).
-/

namespace GroovyRounds

open FileSystem Path

-- ---------------------------------------------------------------------------
-- Places that are left alone
-- ---------------------------------------------------------------------------

/-- What lies at the place, and whether it is reached, was left as it was. -/
structure Untouched (place : Location) (before after : FileSystem) : Prop where
  node : after.node? place = before.node? place
  reachable : before.Reachable place → after.Reachable place

namespace Untouched

variable {place : Location} {a b c : FileSystem} {content : List UInt8}

theorem refl (place : Location) (a : FileSystem) : Untouched place a a :=
  ⟨rfl, id⟩

theorem trans (h : Untouched place a b) (h' : Untouched place b c) : Untouched place a c :=
  ⟨h'.node.trans h.node, fun hreach => h'.reachable (h.reachable hreach)⟩

theorem holdsFile (h : Untouched place a b) (hfile : a.HoldsFile place content) :
    b.HoldsFile place content where
  leads := hfile.leads
  reachable := h.reachable hfile.reachable
  file := by
    rw [h.node]
    exact hfile.file

end Untouched

/-- A file that is there stays there while directories are made. -/
theorem Extends.holdsFile {p : Path} {a b : FileSystem} {place : Location} {content : List UInt8}
    (h : Extends p a b) (hfile : a.HoldsFile place content) : b.HoldsFile place content where
  leads := hfile.leads
  reachable :=
    { hfile.reachable with
      directories := fun above habove hne => h.kept (hfile.reachable.directories above habove hne) }
  file := by
    obtain ⟨executable, hnode⟩ := hfile.file
    exact ⟨executable, h.kept hnode⟩

theorem prefix_of_visits {fs : FileSystem} {names : List String} {place : Location}
    (hplain : ∀ name ∈ names, IsPlain name) (h : fs.Visits (below names) place) :
    place <+: names := by
  obtain ⟨front, hfront, rfl⟩ := h
  change walk [] front <+: names
  rw [walk_of_plain fun hm => (hplain _ (hfront.subset hm)).ne_dots rfl]
  exact hfront

-- ---------------------------------------------------------------------------
-- Carrying a file
-- ---------------------------------------------------------------------------

/-- A file was carried from one place to another, for which directories may have been made. -/
structure Carried (source target : Location) (content : List UInt8)
    (before after : FileSystem) : Prop where
  cwd : after.cwd = before.cwd
  there : after.HoldsFile target content
  gone : source ≠ target → after.node? source = none
  others : ∀ place, ¬ source <+: place → ¬ target <+: place →
    after.node? place = before.node? place ∨
      before.node? place = none ∧ after.node? place = some .directory ∧
        place <+: target.dropLast
  tidy : before.Tidy → after.Tidy

variable {source target place : Location} {content : List UInt8} {before after : FileSystem}

theorem carried_of_moveDeep (hsource : before.HoldsFile source content)
    (hplain : ∀ name ∈ target, IsPlain name) (hroot : target ≠ [])
    (hnode : before.node? target ≠ some .directory)
    (h : FileAction.moveDeep (below source) (below target) before = (.ok (), after)) :
    Carried source target content before after := by
  obtain ⟨_, made, hmake, hmove⟩ := Program.bind_eq_ok_iff.mp h
  have hextends : Extends (below target.dropLast) before made :=
    (FileAction.extends_makeDirectories true (below target).parent).of_eq hmake
  have hvisits {place : Location} (hv : before.Visits (below target.dropLast) place) :
      place <+: target.dropLast :=
    prefix_of_visits (fun name hm => hplain name ((List.dropLast_subset target) hm)) hv
  have hthere : made.node? target ≠ some .directory := by
    rcases hextends.nodes target with hsame | ⟨-, -, hv⟩
    · rwa [hsame]
    · exact absurd (hvisits hv) (not_prefix_dropLast hroot)
  have hkept := hextends.holdsFile hsource
  obtain ⟨executable, hstat⟩ := hkept.stat
  have hleads : Leads target :=
    ⟨hroot, hplain, FileAction.no_zero_of_move hstat hkept.leads hmove⟩
  have hdirectory : made.isDirectory (below target) = false := by
    unfold isDirectory
    split
    · rename_i hfound
      obtain ⟨-, -, hfound⟩ := (stat_below_iff hleads.no_dots).mp hfound
      exact absurd hfound hthere
    · rfl
  obtain ⟨hreach, hmoved⟩ := FileAction.moved_of_move hstat hkept.leads hleads hdirectory hmove
  have hmade (htidy : before.Tidy) : made.Tidy := by
    have hdots : ".." ∉ target.dropLast := fun hm => hleads.no_dots (List.dropLast_subset _ hm)
    refine ⟨htidy.rooted.of_extends hextends hdots (Option.some_ne_none _)
      fun front hfront => ?_,
      (FileAction.staysOnce_makeDirectories true (below target).parent).of_eq hmake htidy.once⟩
    change made.node? front = _
    refine hreach.directories front (hfront.trans (List.dropLast_prefix _)) ?_
    rintro rfl
    exact not_prefix_dropLast hroot hfront
  refine ⟨hmoved.cwd.trans hextends.cwd, ⟨hleads, ?_, executable, hmoved.there⟩, hmoved.gone, ?_,
    fun htidy => hmoved.tidy (hmade htidy) ?_⟩
  · refine hreach.congr fun above habove hne => hmoved.others above ?_ ?_
    · intro hbelow
      have hfile := ((stat_below_iff hkept.leads.no_dots).mp hstat).2.2
      by_cases heq : source = above
      · subst heq
        rw [hreach.directories source habove hne] at hfile
        cases hfile
      · have hne' : source ≠ target := by
          rintro rfl
          exact hne (habove.eq_of_length_le hbelow.length_le)
        exact FileAction.not_prefix_of_file hstat hkept.leads hreach hne' (hbelow.trans habove)
    · intro hbelow
      exact hne (habove.eq_of_length_le hbelow.length_le)
  · intro place hsource htarget
    rw [hmoved.others place hsource htarget]
    rcases hextends.nodes place with hsame | ⟨hnone, hthere, hv⟩
    · exact .inl hsame
    · exact .inr ⟨hnone, hthere, hvisits hv⟩
  · refine hreach.directories _ (List.dropLast_prefix _) fun heq => ?_
    have hnot := not_prefix_dropLast hroot
    rw [heq] at hnot
    exact hnot (List.prefix_refl _)

/-- What is on no way between the two places is left alone. -/
theorem Carried.untouched (h : Carried source target content before after)
    (hsource : ¬ source <+: place) (htarget : ¬ target <+: place)
    (hway : ¬ place <+: target.dropLast) : Untouched place before after where
  node := by
    rcases h.others place hsource htarget with hsame | ⟨-, -, hbelow⟩
    · exact hsame
    · exact absurd hbelow hway
  reachable hreach := by
    refine { hreach with directories := fun above habove hne => ?_ }
    have hdirectory := hreach.directories above habove hne
    rcases h.others above (fun hp => hsource (hp.trans habove))
      (fun hp => htarget (hp.trans habove)) with hsame | ⟨hnone, -, -⟩
    · rw [hsame, hdirectory]
    · rw [hdirectory] at hnone
      cases hnone

/-- A file that stays is carried nowhere. -/
theorem Carried.stay {fs : FileSystem} (h : fs.HoldsFile place content) :
    Carried place place content fs fs :=
  ⟨rfl, h, fun hne => absurd rfl hne, fun _ _ _ => .inl rfl, id⟩

end GroovyRounds
