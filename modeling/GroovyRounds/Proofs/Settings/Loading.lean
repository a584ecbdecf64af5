import GroovyRounds.Proofs.Results
import GroovyRounds.Settings.Layers

/-!
# Settings that load

Loaded settings give a process memory and keep a threshold that is not negative,
whatever the file and the environment say. A mistake in the file is reported as
one if the file is a text, no line continues an option without a value, numbers
and truth values have values, and the references in values can be replaced
(`ends_load`).
-/

namespace GroovyRounds

-- ---------------------------------------------------------------------------
-- What is asked of a file
-- ---------------------------------------------------------------------------

/-- The options that hold a number or a truth value. -/
def valuedOptions : List String :=
  ["heap_size", "invoke_dynamic", "in_process", "optimize_threshold"]

/-- The options that hold a text, or a list of texts. -/
def textOptions : List String :=
  ["stub_excludes", "runtime_support", "bootstrap_classpath", "main_class", "in_process_runner",
    "java_home", "host_runtime_version", "grape_root", "encoding"]

/-- The references in all values that are read can be replaced, and numbers and truth values are
not left out. -/
structure Lookup.Complete (lookup : Lookup) : Prop where
  found : ∀ name ∈ valuedOptions ++ textOptions, ∃ value, lookup name = .ok value
  valued : ∀ name ∈ valuedOptions, lookup name ≠ .ok (some none)

/-- The content is a text in which no line continues an option without a value, and whose section
is complete. -/
def SoundIni (content : List UInt8) : Prop :=
  ∃ text, Text.Utf8.decodeText content = some text ∧ Ini.read text ≠ .error .continuesNothing ∧
    ∀ file options, Ini.read text = .ok file →
      file.sections.find? settingsSection = some options →
      Lookup.Complete (file.value? options)

/-- The path can be looked up, and a file at it is sound. -/
structure SoundConfig (files : FileSystem) (path : Path) : Prop where
  probed : ∃ node?, files.probe path = .ok node?
  content : ∀ content executable, files.probe path = .ok (some (.file content executable)) →
    SoundIni content

/-- A process gets some memory, and the threshold is not negative. -/
structure Settings.Positive (settings : Settings) : Prop where
  heap : 0 < settings.heapSize
  threshold : 0 ≤ settings.optimizeThreshold

-- ---------------------------------------------------------------------------
-- The section
-- ---------------------------------------------------------------------------

namespace Lookup

variable {lookup : Lookup} {path : Path} {name : String}

/-- The fault of a section is reported if the section is complete. -/
def Reports (lookup : Lookup) (fault : SettingsFault) : Prop :=
  lookup.Complete → fault.isReported = true

theorem reports_value {fault : Ini.ValueFault} (hname : name ∈ valuedOptions ++ textOptions)
    (h : lookup name = .error fault) : lookup.Reports (.value fault) := by
  intro hcomplete
  obtain ⟨value, hvalue⟩ := hcomplete.found name hname
  rw [h] at hvalue
  cases hvalue

theorem ends_integer (hname : name ∈ valuedOptions) (path : Path) (default : Int) :
    Ends (fun _ => True) lookup.Reports (lookup.integer path name default) := by
  unfold integer
  split
  · rename_i h
    exact reports_value (List.mem_append_left _ hname) h
  · trivial
  · rename_i h
    exact fun hcomplete => absurd h (hcomplete.valued name hname)
  · split
    · trivial
    · exact fun _ => rfl

theorem ends_boolean (hname : name ∈ valuedOptions) (path : Path) (default : Bool) :
    Ends (fun _ => True) lookup.Reports (lookup.boolean path name default) := by
  unfold boolean
  split
  · rename_i h
    exact reports_value (List.mem_append_left _ hname) h
  · trivial
  · rename_i h
    exact fun hcomplete => absurd h (hcomplete.valued name hname)
  · split
    · trivial
    · exact fun _ => rfl

theorem ends_text? (hname : name ∈ textOptions) :
    Ends (fun _ => True) lookup.Reports (lookup.text? name) := by
  unfold text?
  split
  · rename_i h
    exact reports_value (List.mem_append_right _ hname) h
  · trivial

theorem ends_filled? (hname : name ∈ textOptions) :
    Ends (fun _ => True) lookup.Reports (lookup.filled? name) :=
  (ends_text? hname).bind fun _ _ => .pure trivial

theorem ends_items (hname : name ∈ textOptions) :
    Ends (fun _ => True) lookup.Reports (lookup.items name) :=
  (ends_text? hname).bind fun _ _ => .pure trivial

end Lookup

namespace Settings

variable {settings : Settings} {path : Path}

theorem ends_readSection (settings : Settings) (path : Path) (lookup : Lookup) :
    Ends Positive lookup.Reports (settings.readSection path lookup) := by
  unfold readSection
  refine .bind (Lookup.ends_integer (by decide) _ _) fun heapSize _ => ?_
  refine .bind (Lookup.ends_boolean (by decide) _ _) fun _ _ => ?_
  refine .bind (Lookup.ends_boolean (by decide) _ _) fun _ _ => ?_
  refine .bind (Lookup.ends_integer (by decide) _ _) fun threshold _ => ?_
  refine .bind (Lookup.ends_items (by decide)) fun _ _ => ?_
  refine .bind (Lookup.ends_filled? (by decide)) fun _ _ => ?_
  refine .bind (Lookup.ends_items (by decide)) fun _ _ => ?_
  refine .bind (Lookup.ends_filled? (by decide)) fun _ _ => ?_
  refine .bind (Lookup.ends_filled? (by decide)) fun _ _ => ?_
  refine .bind (Lookup.ends_filled? (by decide)) fun _ _ => ?_
  refine .bind (Lookup.ends_filled? (by decide)) fun _ _ => ?_
  refine .bind (Lookup.ends_filled? (by decide)) fun _ _ => ?_
  refine .bind (Lookup.ends_filled? (by decide)) fun _ _ => ?_
  dsimp only
  split
  · exact fun _ => rfl
  · rename_i hheap
    split
    · exact fun _ => rfl
    · rename_i hthreshold
      exact ⟨Int.not_le.mp hheap, Int.not_lt.mp hthreshold⟩

-- ---------------------------------------------------------------------------
-- The file and the environment
-- ---------------------------------------------------------------------------

theorem ends_readIni (h : settings.Positive) (path : Path) (content : List UInt8) :
    Ends Positive (fun fault => SoundIni content → fault.isReported = true)
      (settings.readIni path content) := by
  unfold readIni
  split
  · rename_i hdecode
    rintro ⟨text, htext, -⟩
    rw [hdecode] at htext
    cases htext
  · rename_i text hdecode
    split
    · rename_i fault hread
      rintro ⟨other, htext, hcontinues, -⟩
      rw [hdecode] at htext
      cases htext
      cases fault with
      | continuesNothing => exact absurd hread hcontinues
      | _ => rfl
    · rename_i file hread
      split
      · exact h
      · rename_i options hsection
        refine (ends_readSection settings path _).mono (fun _ h => h) fun fault hreports => ?_
        rintro ⟨other, htext, -, hcomplete⟩
        rw [hdecode] at htext
        cases htext
        exact hreports (hcomplete file options hread hsection)

theorem ends_readFile (h : settings.Positive) (files : FileSystem) (path : Path) :
    Ends Positive (fun fault => SoundConfig files path → fault.isReported = true)
      (settings.readFile files path) := by
  unfold readFile
  split
  · rename_i hprobe
    rintro ⟨⟨node?, hfound⟩, -⟩
    rw [hprobe] at hfound
    cases hfound
  · exact fun _ => rfl
  · exact h
  · rename_i content executable hprobe
    exact (ends_readIni h path content).mono (fun _ h => h)
      fun fault hreports hsound => hreports (hsound.content content executable hprobe)

theorem positive_initial (runtimeSupport : Path) (env : Environment) :
    (initial runtimeSupport env).Positive where
  heap := (by decide : (0 : Int) < 400)
  threshold := (by decide : (0 : Int) ≤ 10)

theorem ends_readThreshold (text : String) :
    Ends (0 ≤ ·) (fun fault => fault.isReported = true) (readThreshold text) := by
  unfold readThreshold
  split
  · rfl
  · split
    · rfl
    · rename_i hnegative
      exact Int.not_lt.mp hnegative

theorem ends_override (h : settings.Positive) (env : Environment) :
    Ends Positive (fun fault => fault.isReported = true) (settings.override env) := by
  unfold override
  dsimp only
  split
  · exact (ends_readThreshold _).bind fun _ hthreshold => .pure ⟨h.heap, hthreshold⟩
  · exact .pure ⟨h.heap, h.threshold⟩

/-- Loaded settings are positive. A fault is reported, unless a file that was given is not
sound. -/
theorem ends_load (files : FileSystem) (runtimeSupport : Path) (ini : Option Path)
    (env : Environment) :
    Ends Positive (fun fault => (∀ path ∈ ini, SoundConfig files path) → fault.isReported = true)
      (load files runtimeSupport ini env) := by
  have hinitial := positive_initial runtimeSupport env
  have hoverride {settings : Settings} (hsettings : settings.Positive) :
      Ends Positive (fun fault => (∀ path ∈ ini, SoundConfig files path) → fault.isReported = true)
        (settings.override env) :=
    (ends_override hsettings env).mono (fun _ h => h) fun _ hreported _ => hreported
  cases ini with
  | none => exact hoverride hinitial
  | some path =>
    refine .bind (Q := Positive) ?_ fun settings => hoverride
    exact (ends_readFile hinitial files path).mono (fun _ h => h)
      fun _ hreports hsound => hreports (hsound path rfl)

end Settings

end GroovyRounds
