import GroovyRounds.Proofs.OrderedMap
import GroovyRounds.Proofs.Program
import GroovyRounds.Proofs.Results
import GroovyRounds.Proofs.Text.Utf8
import GroovyRounds.Settings.Layers

/-!
# Which layer decides

Two variables override the file, wherever they are set. The two that name homes
stand in for what the file leaves out, and a home in the file comes before them.
All else is what loads without an environment (`load_eq_ok_iff`).
-/

namespace GroovyRounds

-- ---------------------------------------------------------------------------
-- What a file says
-- ---------------------------------------------------------------------------

namespace Lookup

/-- What is said of an option, unless it is nothing or empty. -/
def said? (lookup : Lookup) (name : String) : Option String :=
  (lookup.filled? name).toOption.join

theorem said?_of_ok {lookup : Lookup} {name : String} {value : Option String}
    (h : lookup.filled? name = .ok value) : lookup.said? name = value := by
  rw [said?, h]
  rfl

/-- The options of the section in a file with this content, if there is such a section. -/
def ofIni? (content : List UInt8) : Option Lookup :=
  (Text.Utf8.decodeText content).bind fun text =>
    (Ini.read text).toOption.bind fun file =>
      (file.sections.find? settingsSection).map file.value?

theorem ofIni?_eq {content : List UInt8} {text : List Char} {file : Ini.File}
    (hdecode : Text.Utf8.decodeText content = some text) (hread : Ini.read text = .ok file) :
    ofIni? content = (file.sections.find? settingsSection).map file.value? := by
  simp only [ofIni?, hdecode, hread, Except.toOption, Option.bind_some]

/-- The options of the section in the file at the path. -/
def ofFile? (files : FileSystem) (path : Path) : Option Lookup :=
  match files.probe path with
  | .ok (some (.file content _)) => ofIni? content
  | _ => none

end Lookup

namespace Settings

/-- What the file says of an option, if a file is given. -/
def fileOption? (files : FileSystem) (ini : Option Path) (name : String) : Option String :=
  (ini.bind (Lookup.ofFile? files)).bind (·.said? name)

-- ---------------------------------------------------------------------------
-- What the environment says
-- ---------------------------------------------------------------------------

/-- The settings, with variables in the place of homes that are missing. -/
def filledIn (settings : Settings) (env : Environment) : Settings :=
  { settings with
    javaHome := settings.javaHome <|> (filledVariable? env javaHomeVariable).map Path.ofString
    grapeRoot := settings.grapeRoot <|> filledVariable? env grapeRootVariable }

/-- Two of the settings are what variables say, where these are set. Nothing else has changed. -/
structure Overridden (env : Environment) (settings result : Settings) : Prop where
  inProcess : ∀ text, env.lookup inProcessVariable = some text →
    (result.inProcess = true ↔ Text.lower (Text.trim text.toList) = "true".toList)
  inProcess_unset : env.lookup inProcessVariable = none → result.inProcess = settings.inProcess
  threshold : ∀ text, env.lookup thresholdVariable = some text →
    Text.readInteger text = .ok result.optimizeThreshold ∧ 0 ≤ result.optimizeThreshold
  threshold_unset : env.lookup thresholdVariable = none →
    result.optimizeThreshold = settings.optimizeThreshold
  others : result = { settings with
    inProcess := result.inProcess, optimizeThreshold := result.optimizeThreshold }

/-- The two homes are what is said of them, or else as before. -/
structure Homed (said : String → Option String) (settings result : Settings) : Prop where
  javaHome : result.javaHome = ((said "java_home").map Path.ofString <|> settings.javaHome)
  grapeRoot : result.grapeRoot = (said "grape_root" <|> settings.grapeRoot)

theorem Homed.silent (settings : Settings) : Homed (fun _ => none) settings settings :=
  ⟨rfl, rfl⟩

variable {files : FileSystem} {runtimeSupport path : Path} {ini : Option Path} {env : Environment}
variable {settings result : Settings} {lookup : Lookup} {content : List UInt8}

-- ---------------------------------------------------------------------------
-- Over the file
-- ---------------------------------------------------------------------------

theorem readThreshold_eq_ok_iff {text : String} {threshold : Int} :
    readThreshold text = .ok threshold ↔
      Text.readInteger text = .ok threshold ∧ 0 ≤ threshold := by
  unfold readThreshold
  cases Text.readInteger text with
  | error fault => simp
  | ok n =>
    dsimp only
    split
    · rename_i hnegative
      simp only [reduceCtorEq, Except.ok.injEq, false_iff, not_and, Int.not_le]
      rintro rfl
      exact hnegative
    · rename_i hnegative
      simp only [Except.ok.injEq, iff_self_and]
      rintro rfl
      exact Int.not_lt.mp hnegative

theorem inProcess_eq_iff (settings : Settings) {chosen : Bool} :
    (match env.lookup inProcessVariable with
        | some text => decide (Text.lower (Text.trim text.toList) = "true".toList)
        | none => settings.inProcess) = chosen ↔
      (∀ text, env.lookup inProcessVariable = some text →
        (chosen = true ↔ Text.lower (Text.trim text.toList) = "true".toList)) ∧
      (env.lookup inProcessVariable = none → chosen = settings.inProcess) := by
  cases env.lookup inProcessVariable with
  | none => simp [eq_comm]
  | some text =>
    simp only [Option.some.injEq, forall_eq', reduceCtorEq, false_implies, and_true]
    constructor
    · rintro rfl
      exact decide_eq_true_iff
    · intro h
      exact Bool.eq_iff_iff.mpr (decide_eq_true_iff.trans h.symm)

theorem yields_override : Yields (Overridden env settings) (settings.override env) := by
  obtain ⟨hset, hunset⟩ := (inProcess_eq_iff settings).mp rfl
  unfold override
  dsimp only
  split
  · rename_i text hvariable
    refine (Ends.given _).bind fun threshold hread => .pure ⟨hset, hunset, ?_, ?_, rfl⟩
    · intro other hother
      cases hvariable.symm.trans hother
      exact readThreshold_eq_ok_iff.mp hread
    · simp [hvariable]
  · rename_i hvariable
    exact .pure ⟨hset, hunset, by simp [hvariable], fun _ => rfl, rfl⟩

theorem Overridden.override_eq (h : Overridden env settings result) :
    settings.override env = .ok result := by
  have hothers := h.others
  rw [← (inProcess_eq_iff settings).mpr ⟨h.inProcess, h.inProcess_unset⟩] at hothers
  unfold override
  dsimp only
  split
  · rename_i text hvariable
    rw [readThreshold_eq_ok_iff.mpr (h.threshold text hvariable)]
    exact congrArg Except.ok hothers.symm
  · rename_i hvariable
    rw [h.threshold_unset hvariable] at hothers
    exact congrArg Except.ok hothers.symm

-- ---------------------------------------------------------------------------
-- Under the file
-- ---------------------------------------------------------------------------

theorem readSection_filledIn :
    (settings.filledIn env).readSection path lookup =
      (·.filledIn env) <$> settings.readSection path lookup := by
  unfold readSection
  simp only [map_bind]
  iterate 13 refine bind_congr fun _ => ?_
  split
  · rfl
  split
  · rfl
  -- What the section says comes before the settings, and these before the variables.
  · simp only [filledIn, map_pure, Option.orElse_eq_orElse, Option.orElse_eq_or, Option.or_assoc]

theorem readIni_filledIn :
    (settings.filledIn env).readIni path content =
      (·.filledIn env) <$> settings.readIni path content := by
  unfold readIni
  split
  · rfl
  split
  · rfl
  split
  · rfl
  · exact readSection_filledIn

theorem readFile_filledIn :
    (settings.filledIn env).readFile files path =
      (·.filledIn env) <$> settings.readFile files path := by
  unfold readFile
  split
  · rfl
  · rfl
  · rfl
  · exact readIni_filledIn

theorem initial_eq (runtimeSupport : Path) (env : Environment) :
    initial runtimeSupport env = (initial runtimeSupport []).filledIn env :=
  rfl

/-- What an environment adds comes after all that is read without it. -/
theorem load_eq :
    load files runtimeSupport ini env =
      load files runtimeSupport ini [] >>= fun base => (base.filledIn env).override env := by
  cases ini with
  | none => rfl
  | some path =>
    simp only [load, initial_eq runtimeSupport env, readFile_filledIn]
    cases (initial runtimeSupport []).readFile files path with
    | error fault => rfl
    | ok base => rfl

-- ---------------------------------------------------------------------------
-- The file
-- ---------------------------------------------------------------------------

theorem homed_readSection :
    Yields (Homed lookup.said? settings) (settings.readSection path lookup) := by
  unfold readSection
  iterate 9 refine .bind (Ends.given _) fun _ _ => ?_
  refine .bind (Ends.given _) fun javaHome hjavaHome => ?_
  refine .bind (Ends.given _) fun _ _ => ?_
  refine .bind (Ends.given _) fun grapeRoot hgrapeRoot => ?_
  refine .bind (Ends.given _) fun _ _ => ?_
  dsimp only
  split
  · trivial
  split
  · trivial
  · rw [← Lookup.said?_of_ok hjavaHome, ← Lookup.said?_of_ok hgrapeRoot]
    exact .pure ⟨rfl, rfl⟩

theorem homed_readIni :
    Yields (Homed (fun name => (Lookup.ofIni? content).bind (·.said? name)) settings)
      (settings.readIni path content) := by
  unfold readIni
  cases hdecode : Text.Utf8.decodeText content with
  | none => trivial
  | some text =>
    dsimp only
    cases hread : Ini.read text with
    | error fault => trivial
    | ok file =>
      dsimp only
      rw [Lookup.ofIni?_eq hdecode hread]
      cases file.sections.find? settingsSection with
      | none => exact Homed.silent settings
      | some options => exact homed_readSection

theorem homed_readFile :
    Yields (Homed (fileOption? files (some path)) settings) (settings.readFile files path) := by
  change Yields (Homed (fun name => (Lookup.ofFile? files path).bind (·.said? name)) settings) _
  unfold readFile Lookup.ofFile?
  match files.probe path with
  | .error fault => trivial
  | .ok none => trivial
  | .ok (some .directory) => exact Homed.silent settings
  | .ok (some (.file content _)) => exact homed_readIni

theorem homed_load :
    Yields (Homed (fileOption? files ini) (initial runtimeSupport []))
      (load files runtimeSupport ini []) := by
  cases ini with
  | none => exact Homed.silent _
  | some path => exact homed_readFile.bind fun base hbase => .pure hbase

-- ---------------------------------------------------------------------------
-- All layers
-- ---------------------------------------------------------------------------

/-- Before it is filled in, a home is what the file says and nothing else. -/
theorem homes_filledIn {said : String → Option String} {base : Settings}
    (h : Homed said (initial runtimeSupport []) base) (env : Environment) :
    (base.filledIn env).javaHome =
        (said "java_home" <|> filledVariable? env javaHomeVariable).map Path.ofString ∧
      (base.filledIn env).grapeRoot =
        (said "grape_root" <|> filledVariable? env grapeRootVariable) := by
  constructor
  · rw [filledIn, h.javaHome]
    cases said "java_home" <;> rfl
  · rw [filledIn, h.grapeRoot]
    cases said "grape_root" <;> rfl

/-- Settings load in an environment exactly if they load without one and the variables that override
them can be read. These variables decide where they are set; a home is what the file says of it, or
else what its variable says; the rest is what loads without an environment. -/
theorem load_eq_ok_iff :
    load files runtimeSupport ini env = .ok settings ↔
      ∃ base, load files runtimeSupport ini [] = .ok base ∧
        Overridden env (base.filledIn env) settings ∧
        settings.javaHome = (fileOption? files ini "java_home" <|>
          filledVariable? env javaHomeVariable).map Path.ofString ∧
        settings.grapeRoot =
          (fileOption? files ini "grape_root" <|> filledVariable? env grapeRootVariable) := by
  rw [load_eq]
  constructor
  · intro h
    cases hbase : load files runtimeSupport ini [] with
    | error fault =>
      rw [hbase] at h
      cases h
    | ok base =>
      rw [hbase] at h
      have hoverridden : Overridden env (base.filledIn env) settings := yields_override.of_ok h
      obtain ⟨hjavaHome, hgrapeRoot⟩ := homes_filledIn (homed_load.of_ok hbase) env
      refine ⟨base, rfl, hoverridden, ?_, ?_⟩
      · exact (congrArg (·.javaHome) hoverridden.others).trans hjavaHome
      · exact (congrArg (·.grapeRoot) hoverridden.others).trans hgrapeRoot
  · rintro ⟨base, hbase, hoverridden, -⟩
    rw [hbase]
    exact hoverridden.override_eq

end Settings

-- ---------------------------------------------------------------------------
-- A home in the file
-- ---------------------------------------------------------------------------

namespace Ini

/-- A text without percent signs stands for itself. -/
theorem interpolate_of_not_mem {value? : String → Option (Option String)} {depth : Nat}
    {cs : List Char} (h : '%' ∉ cs) : interpolate value? depth cs = .ok cs := by
  induction cs with
  | nil => rw [interpolate]
  | cons c cs ih =>
    obtain ⟨hc, hcs⟩ := List.ne_and_not_mem_of_not_mem_cons h
    rw [interpolate, ih hcs]
    · rfl
    · exact fun _ hpercent => absurd hpercent.symm hc
    · exact fun _ hpercent => absurd hpercent.symm hc
    · exact fun hpercent => hc hpercent.symm

/-- Values without percent signs are given as they are written. -/
theorem File.value?_of_plain {file : File} {options : Options}
    (h : ∀ entry ∈ options.entries ++ file.defaults.entries, ∀ s ∈ entry.2, '%' ∉ s.toList) :
    file.value? options = fun name => .ok (file.raw? options name) := by
  funext name
  unfold value?
  cases hraw : file.raw? options name with
  | none => rfl
  | some value =>
    cases value with
    | none => rfl
    | some s =>
      have hentry : (name, some s) ∈ options.entries ++ file.defaults.entries := by
        unfold raw? at hraw
        split at hraw
        · rename_i found hfound
          exact List.mem_append_left _ (mem_of_lookup (hfound.trans hraw))
        · exact List.mem_append_right _ (mem_of_lookup hraw)
      dsimp only
      rw [interpolate_of_not_mem (h _ hentry s rfl)]
      exact congrArg (fun s => Except.ok (some (some s))) String.ofList_toList

end Ini

namespace Settings

/-- An INI file that names both homes. -/
def homesText : String :=
  "[groovyc]\njava_home = /opt/jdk\ngrape_root = /var/grapes\n"

def homesOptions : Ini.Options where
  entries := [("java_home", some "/opt/jdk"), ("grape_root", some "/var/grapes")]

def homesFile : Ini.File where
  defaults := .empty
  sections := { entries := [(settingsSection, homesOptions)] }

def homesPath : Path where
  anchor := .root
  names := ["gbuild.ini"]

def homesTree : FileSystem where
  nodes := [(["gbuild.ini"], .file (Text.Utf8.encodeText homesText) false)]
  cwd := []

def homesEnvironment : Environment :=
  [(javaHomeVariable, "/usr/lib/jvm"), (grapeRootVariable, "/home/grapes")]

theorem load_homes :
    load homesTree homesPath (some homesPath) homesEnvironment =
      (initial homesPath homesEnvironment).readSection homesPath
        fun name => .ok (homesFile.raw? homesOptions name) := by
  have hprobe : homesTree.probe homesPath =
      .ok (some (.file (Text.Utf8.encodeText homesText) false)) := rfl
  have hread : Ini.read homesText.toList = .ok homesFile :=
    Program.ok_of_toOption (by decide +kernel)
  have hsection : homesFile.sections.find? settingsSection = some homesOptions := rfl
  have hvalue : homesFile.value? homesOptions =
      fun name => .ok (homesFile.raw? homesOptions name) :=
    Ini.File.value?_of_plain (by decide +kernel)
  simp only [load, readFile, hprobe, readIni, Text.Utf8.decodeText_encodeText, hread, hsection,
    hvalue]
  rfl

/-- Both variables are set, and neither overrides the file. -/
theorem homes_not_overridden : ∃ settings,
    load homesTree homesPath (some homesPath) homesEnvironment = .ok settings ∧
      filledVariable? homesEnvironment javaHomeVariable = some "/usr/lib/jvm" ∧
      settings.javaHome ≠ some (Path.ofString "/usr/lib/jvm") ∧
      filledVariable? homesEnvironment grapeRootVariable = some "/home/grapes" ∧
      settings.grapeRoot ≠ some "/home/grapes" := by
  rw [load_homes]
  refine ⟨_, Program.ok_of_toOption rfl, ?_⟩
  decide +kernel

end Settings

end GroovyRounds
