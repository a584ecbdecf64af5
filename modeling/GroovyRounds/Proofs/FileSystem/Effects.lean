import GroovyRounds.Proofs.FileSystem.Vacancy

/-!
# Effects on trees

An effect says what is seen at some places, whatever was seen there before, and
leaves all others alone. Effects that come one after another are one effect
(`Effect.Turns.andThen`), and an effect that comes twice changes nothing the
second time (`Effect.Turns.again`). An effect that stays within some places leaves
what lies elsewhere as useful as it was (`Effect.Within`).
-/

namespace GroovyRounds

open FileSystem

/-- What is seen at a place. -/
inductive Sight where
  | nothing
  | directory
  | file (content : List UInt8)
deriving DecidableEq

/-- What is seen of what lies at a place. -/
def Sight.ofNode : Option Node → Sight
  | none => .nothing
  | some .directory => .directory
  | some (.file content _) => .file content

/-- What is seen at a place of a tree. -/
def FileSystem.sight (fs : FileSystem) (place : Location) : Sight :=
  .ofNode (fs.node? place)

/-- What is seen at some places afterwards. -/
abbrev Effect := Location → Sight → Prop

variable {fs : FileSystem} {place : Location} {content : List UInt8}

namespace FileSystem

@[simp] theorem sight_eq_nothing_iff : fs.sight place = .nothing ↔ fs.node? place = none := by
  rw [sight, Sight.ofNode.eq_def]
  split <;> simp_all

@[simp] theorem sight_eq_directory_iff :
    fs.sight place = .directory ↔ fs.node? place = some .directory := by
  rw [sight, Sight.ofNode.eq_def]
  split <;> simp_all

@[simp] theorem sight_eq_file_iff :
    fs.sight place = .file content ↔ ∃ executable, fs.node? place = some (.file content executable)
    := by
  rw [sight, Sight.ofNode.eq_def]
  split <;> simp_all

end FileSystem

namespace Effect

/-- What an effect leaves alone. -/
def Spares (e : Effect) (place : Location) : Prop :=
  ∀ sight, ¬ e place sight

/-- The effect turns one tree into another, which is tidy. -/
structure Turns (e : Effect) (before after : FileSystem) : Prop where
  cwd : after.cwd = before.cwd
  tidy : after.Tidy
  seen : ∀ place sight, e place sight → after.sight place = sight
  spared : ∀ place, e.Spares place → after.sight place = before.sight place

/-- An effect after another one. -/
def andThen (e f : Effect) : Effect :=
  fun place sight => f place sight ∨ f.Spares place ∧ e place sight

variable {e f : Effect} {a b c : FileSystem}

theorem spares_andThen (h : (e.andThen f).Spares place) : e.Spares place ∧ f.Spares place := by
  have hlater : f.Spares place := fun sight hsight => h sight (.inl hsight)
  exact ⟨fun sight hsight => h sight (.inr ⟨hlater, hsight⟩), hlater⟩

/-- The effect that leaves all alone. -/
def none : Effect :=
  fun _ _ => False

/-- Effects one after another. -/
def all (effects : List Effect) : Effect :=
  effects.foldr andThen none

namespace Turns

theorem refl (h : a.Tidy) : none.Turns a a :=
  ⟨rfl, h, nofun, fun _ _ => rfl⟩

theorem andThen (h : e.Turns a b) (h' : f.Turns b c) : (e.andThen f).Turns a c where
  cwd := h'.cwd.trans h.cwd
  tidy := h'.tidy
  seen place sight := by
    rintro (hlater | ⟨hspared, hfirst⟩)
    · exact h'.seen place sight hlater
    · rw [h'.spared place hspared, h.seen place sight hfirst]
  spared place hspares := by
    obtain ⟨hfirst, hlater⟩ := spares_andThen hspares
    rw [h'.spared place hlater, h.spared place hfirst]

/-- An effect that comes again changes nothing. -/
theorem again (h : e.Turns a b) (h' : e.Turns b c) (place : Location) :
    c.sight place = b.sight place := by
  by_cases hspares : e.Spares place
  · exact h'.spared place hspares
  · obtain ⟨sight, hsight⟩ := not_forall_not.mp hspares
    rw [h'.seen place sight hsight, h.seen place sight hsight]

/-- What is seen afterwards was seen before, or is what the effect says. -/
theorem cases (h : e.Turns a b) (place : Location) :
    b.sight place = a.sight place ∨ e place (b.sight place) := by
  by_cases hspares : e.Spares place
  · exact .inl (h.spared place hspares)
  · obtain ⟨sight, hsight⟩ := not_forall_not.mp hspares
    exact .inr (h.seen place sight hsight ▸ hsight)

end Turns

-- ---------------------------------------------------------------------------
-- Effects within places
-- ---------------------------------------------------------------------------

/-- How deep the directories lie in which there may be files below the root of an effect. -/
def fileDepth : Nat := 2

/-- The effect stays within a root and some folders: below the root nothing is safe, but files come
to lie deep below only; beside it directories come to lie on the ways to folders only, and files
at some places only. -/
structure Within (root : Location) (folders files : Set Location) (e : Effect) : Prop where
  directory : ∀ place, e place .directory →
    (∃ folder ∈ folders, place <+: folder) ∨ place <+: root ∨ root <+: place
  file : ∀ place content, e place (.file content) →
    place ∈ files ∨ root <+: place ∧ root.length + fileDepth < place.length
  nothing : ∀ place, e place .nothing → place ∈ files ∨ root <+: place

variable {root : Location} {folders files : Set Location} {names : List String}

theorem within_none : none.Within root folders files :=
  ⟨nofun, nofun, nofun⟩

theorem Within.andThen (h : e.Within root folders files) (h' : f.Within root folders files) :
    (e.andThen f).Within root folders files where
  directory place := by
    rintro (hlater | ⟨-, hfirst⟩)
    · exact h'.directory place hlater
    · exact h.directory place hfirst
  file place content := by
    rintro (hlater | ⟨-, hfirst⟩)
    · exact h'.file place content hlater
    · exact h.file place content hfirst
  nothing place := by
    rintro (hlater | ⟨-, hfirst⟩)
    · exact h'.nothing place hlater
    · exact h.nothing place hfirst

namespace Within

variable (h : e.Within root folders files) (hturns : e.Turns a b)
include h hturns

/-- No file comes to lie at a place for none. -/
theorem not_file (hfiles : place ∉ files)
    (hdeep : root <+: place → place.length ≤ root.length + fileDepth)
    (hnode : ∀ content executable, a.node? place ≠ some (.file content executable)) :
    ∀ content executable, b.node? place ≠ some (.file content executable) := by
  intro content executable hfile
  have hseen : b.sight place = .file content := sight_eq_file_iff.mpr ⟨executable, hfile⟩
  rcases hturns.cases place with hsame | hthere
  · obtain ⟨_, hfile'⟩ := sight_eq_file_iff.mp (hsame.symm.trans hseen)
    exact hnode _ _ hfile'
  · rw [hseen] at hthere
    rcases h.file place content hthere with hin | ⟨hbelow, hlong⟩
    · exact hfiles hin
    · exact absurd (hdeep hbelow) (Nat.not_le_of_lt hlong)

/-- No directory comes to lie at a place on no way. -/
theorem not_directory (hfolders : ∀ folder ∈ folders, ¬ place <+: folder)
    (hroot : Aside place root) (hnode : a.node? place ≠ some .directory) :
    b.node? place ≠ some .directory := by
  intro hdirectory
  have hseen := sight_eq_directory_iff.mpr hdirectory
  rcases hturns.cases place with hsame | hthere
  · exact hnode (sight_eq_directory_iff.mp (hsame.symm.trans hseen))
  · rw [hseen] at hthere
    rcases h.directory place hthere with ⟨folder, hfolder, hway⟩ | hup | hdown
    · exact hfolders folder hfolder hway
    · exact hroot.1 hup
    · exact hroot.2 hdown

/-- A directory that is no file and lies outside of the root stays. -/
theorem kept (hfiles : place ∉ files) (hroot : ¬ root <+: place)
    (hnode : a.node? place = some .directory) : b.node? place = some .directory := by
  rw [← sight_eq_directory_iff] at hnode ⊢
  rcases hturns.cases place with hsame | hthere
  · rw [hsame, hnode]
  · cases hsight : b.sight place with
    | directory => rfl
    | nothing =>
      rw [hsight] at hthere
      exact ((h.nothing place hthere).elim hfiles hroot).elim
    | file content =>
      rw [hsight] at hthere
      exact ((h.file place content hthere).elim hfiles fun hbelow => hroot hbelow.1).elim

/-- A place that is on no way, no file and outside of the root is left alone. -/
theorem same (hfolders : ∀ folder ∈ folders, ¬ place <+: folder) (hroot : Aside place root)
    (hfiles : place ∉ files) : b.sight place = a.sight place := by
  refine (hturns.cases place).resolve_right fun hthere => ?_
  cases hsight : b.sight place with
  | directory =>
    rw [hsight] at hthere
    rcases h.directory place hthere with ⟨folder, hfolder, hway⟩ | hup | hdown
    · exact hfolders folder hfolder hway
    · exact hroot.1 hup
    · exact hroot.2 hdown
  | nothing =>
    rw [hsight] at hthere
    exact (h.nothing place hthere).elim hfiles hroot.2
  | file content =>
    rw [hsight] at hthere
    exact (h.file place content hthere).elim hfiles fun hbelow => hroot.2 hbelow.1

/-- A way on which no files may come to lie stays open. -/
theorem openWay {p : Path} (hopen : a.Open p) (hstart : a.start p ∉ files)
    (hroot : ¬ root <+: a.start p)
    (hway : ∀ place, place <+: a.start p ++ p.names →
      place ∉ files ∧ (root <+: place → place.length ≤ root.length + fileDepth)) : b.Open p := by
  have hsame : b.start p = a.start p := by simp [FileSystem.start, hturns.cwd]
  refine { hopen with start := ?_, clear := fun front hfront => ?_ }
  · rw [hsame]
    exact h.kept hturns hstart hroot hopen.start
  · obtain ⟨hfiles, hdeep⟩ := hway (a.start p ++ front)
      ((List.prefix_append_right_inj _).mpr hfront)
    rw [hsame]
    exact h.not_file hturns hfiles hdeep (hopen.clear front hfront)

/-- Room for a file is not lost to other files. -/
theorem room (hroom : a.Room place) (hfolders : ∀ folder ∈ folders, ¬ place <+: folder)
    (hroot : Aside place root) (habove : ∀ above, above <+: place → above ≠ place → above ∉ files) :
    b.Room place :=
  { hroom with
    clear := fun above hup hne => h.not_file hturns (habove above hup hne)
      (fun hdown => absurd (hdown.trans hup) hroot.2) (hroom.clear above hup hne)
    free := h.not_directory hturns hfolders hroot hroom.free }

end Within

end Effect

end GroovyRounds
