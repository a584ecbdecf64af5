import GroovyRounds.Proofs.CommandLine.Success
import GroovyRounds.Proofs.Project.Loading
import GroovyRounds.Proofs.Settings.Loading
import GroovyRounds.Proofs.Text.Utf8

/-!
# Configurations that a command reports

A `compile` command loads its settings and its project before it builds. It
comes to its build with settings that are positive, or says what is wrong with
the configuration, or ends in another failure, and then the file at fault is not
sound (`compile_loads_or_reports`).
-/

namespace GroovyRounds

/-- The file system finds no mistakes in a configuration. -/
theorem FileFault.label_ne (fault : FileFault) :
    fault.label ≠ "SettingsError" ∧ fault.label ≠ "ProjectLoadError" := by
  cases fault with
  | refused refusal path => cases refusal <;> simp [label, Refusal.label]
  | _ => simp [label]

/-- Just the reported faults are mistakes in the settings. -/
theorem SettingsFault.isReported_iff (fault : SettingsFault) :
    fault.isReported = true ↔ fault.label = "SettingsError" := by
  cases fault with
  | value fault => cases fault <;> decide
  | files fault => simp [isReported, label, fault.label_ne]
  | _ => simp [isReported, label]

/-- Just the reported faults are mistakes in the project file. -/
theorem ProjectFault.isReported_iff (fault : ProjectFault) :
    fault.isReported = true ↔ fault.label = "ProjectLoadError" := by
  cases fault with
  | files fault => simp [isReported, label, fault.label_ne]
  | _ => simp [isReported, label]

namespace CommandLine

open Build Program

-- ---------------------------------------------------------------------------
-- The parts of the command
-- ---------------------------------------------------------------------------

/-- The world in which a command has said what it is. -/
def greeted (w : World) : World :=
  { w with console := w.console ++ [Console.line ("gbuild v" ++ version) ++ Console.line ""] }

/-- What a command does once its configuration is loaded. -/
def buildPhase (site : Site) (args : CompileArguments) (settings : Settings)
    (description : ProjectDescription) : Build Ending := do
  let ctx := { site.context with project := description.project, echo := some args.verbose }
  finishBuild args.verbose (← Build.attempt (buildProject ctx settings description.chunks))

/-- What a command does depends on what its files and the environment say. -/
theorem run_compile (site : Site) (args : CompileArguments) (w : World) :
    compile site args w =
      (match Settings.load w.files site.runtimeSupport args.config site.environment with
        | .error fault => refuse fault.isReported fault.label fault.message
        | .ok settings =>
          match ProjectDescription.load w.files w.cwd args.projectFile with
          | .error fault => refuse fault.isReported fault.label fault.message
          | .ok description => buildPhase site args settings description) (greeted w) :=
  rfl

/-- The mistake was reported as one in the configuration, and the command ended with code 1. -/
def Refused (message : String) (w : World) (ended : Except Failure Ending × World) : Prop :=
  ended = (.ok (.exit 1),
    { w with console := w.console ++ [Console.error "Configuration error" message] })

/-- A configuration that is refused is reported, or its fault escapes. -/
theorem refuse_cases (isReported : Bool) (label message : String) (w : World) :
    (isReported = true ∧ Refused message w (refuse isReported label message w)) ∨
      (isReported = false ∧ refuse isReported label message w = (.ok (.escaped label), w)) := by
  cases isReported with
  | true => exact .inl ⟨rfl, rfl⟩
  | false => exact .inr ⟨rfl, rfl⟩

/-- The files that a command loads are sound. -/
structure SoundFiles (files : FileSystem) (args : CompileArguments) : Prop where
  config : ∀ path ∈ args.config, SoundConfig files path
  project : SoundProject files args.projectFile

/-- What the sole project says of its module. -/
def soleModuleEntries : ProjectFile.Entries :=
  [("name", .text "core"), ("sources", .array [.text "src"]), ("output", .text "out")]

theorem read_soleProject : Json.read soleProjectText.toList =
    .ok (.object [("modules", .array [.object soleModuleEntries])]) := by
  cbv

theorem soundModule_sole : ProjectFile.SoundModule soleModuleEntries where
  name := trivial
  sdk := .inl rfl
  output := .inr trivial
  sources := List.forall_mem_singleton.mpr trivial
  classpath := List.forall_mem_nil _

/-- The files of the sole project are sound, though no settings are given. -/
theorem soundFiles_sole : SoundFiles soleProjectWorld.files soleProjectArguments where
  config := nofun
  project := by
    have hprobe : soleProjectWorld.files.probe soleProjectArguments.projectFile =
        .ok (some (.file (Text.Utf8.encodeText soleProjectText) false)) := rfl
    refine ⟨⟨_, hprobe⟩, fun content executable hfound => ?_⟩
    cases hprobe.symm.trans hfound
    refine ⟨_, Text.Utf8.decodeText_encodeText _, fun entries hread => ?_, fun fault hread => ?_⟩
    · cases read_soleProject.symm.trans hread
      refine ⟨fun items hitems module hmodule _ => ?_, .inl rfl, trivial⟩
      cases hitems
      cases List.mem_singleton.mp hmodule
      exact soundModule_sole
    · cases read_soleProject.symm.trans hread

-- ---------------------------------------------------------------------------
-- The command
-- ---------------------------------------------------------------------------

/-- Loaded settings are positive, and the faults of sound files are mistakes in the settings or in
the project file. A command builds what it loaded, or it reports what is wrong with its
configuration and ends with code 1, or it ends in another failure, and then its files are not
sound. -/
theorem compile_loads_or_reports (site : Site) (args : CompileArguments) (w : World) :
    Ends Settings.Positive
        (fun fault => (∀ path ∈ args.config, SoundConfig w.files path) →
          fault.label = "SettingsError")
        (Settings.load w.files site.runtimeSupport args.config site.environment) ∧
      Ends (fun _ => True)
        (fun fault => SoundProject w.files args.projectFile → fault.label = "ProjectLoadError")
        (ProjectDescription.load w.files w.cwd args.projectFile) ∧
      ((∃ settings description,
          Settings.load w.files site.runtimeSupport args.config site.environment = .ok settings ∧
          ProjectDescription.load w.files w.cwd args.projectFile = .ok description ∧
          compile site args w = buildPhase site args settings description (greeted w)) ∨
        (∃ message, Refused message (greeted w) (compile site args w)) ∨
        ∃ label, compile site args w = (.ok (.escaped label), greeted w) ∧
          ¬ SoundFiles w.files args) := by
  have hsettings := Settings.ends_load w.files site.runtimeSupport args.config site.environment
  have hproject := ProjectDescription.ends_load w.files w.cwd args.projectFile
  refine ⟨hsettings.mono (fun _ h => h) fun fault h hsound => fault.isReported_iff.mp (h hsound),
    hproject.mono (fun _ h => h) fun fault h hsound => fault.isReported_iff.mp (h hsound), ?_⟩
  rw [run_compile]
  cases hload : Settings.load w.files site.runtimeSupport args.config site.environment with
  | error fault =>
    obtain ⟨-, hrefused⟩ | ⟨hescaped, hrefused⟩ :=
      refuse_cases fault.isReported fault.label fault.message (greeted w)
    · exact .inr (.inl ⟨fault.message, hrefused⟩)
    · refine .inr (.inr ⟨fault.label, hrefused, fun hsound => ?_⟩)
      exact Bool.eq_false_iff.mp hescaped (hsettings.of_error hload hsound.config)
  | ok settings =>
    cases hdescribed : ProjectDescription.load w.files w.cwd args.projectFile with
    | error fault =>
      obtain ⟨-, hrefused⟩ | ⟨hescaped, hrefused⟩ :=
        refuse_cases fault.isReported fault.label fault.message (greeted w)
      · exact .inr (.inl ⟨fault.message, hrefused⟩)
      · refine .inr (.inr ⟨fault.label, hrefused, fun hsound => ?_⟩)
        exact Bool.eq_false_iff.mp hescaped (hproject.of_error hdescribed hsound.project)
    | ok description => exact .inl ⟨settings, description, rfl, rfl, rfl⟩

-- ---------------------------------------------------------------------------
-- Configurations that no command reports
-- ---------------------------------------------------------------------------

/-- A project file beside an INI file. -/
def configuredWorld (project : List UInt8) (config : String) : World where
  files := {
    nodes := [(["project.json"], .file project false),
      (["gbuild.ini"], .file (Text.Utf8.encodeText config) false)]
    cwd := [] }

def configuredArguments : CompileArguments where
  projectFile := { anchor := .root, names := ["project.json"] }
  config := some { anchor := .root, names := ["gbuild.ini"] }

def sourcelessProjectText : String :=
  "\x7b\"modules\": [\x7b\"name\": \"core\", \"sources\": 5\x7d]\x7d"

/-- A project file that is no text, a number in the place of sources, and an option without a
value. -/
theorem compile_fault_escapes :
    (compile retryingSite configuredArguments (configuredWorld [0xff] "")).1.toOption =
        some (.escaped "UnicodeDecodeError") ∧
      (compile retryingSite configuredArguments
        (configuredWorld (Text.Utf8.encodeText sourcelessProjectText) "")).1.toOption =
        some (.escaped "TypeError") ∧
      (compile retryingSite configuredArguments
        (configuredWorld (Text.Utf8.encodeText soleProjectText)
          "[groovyc]\nheap_size\n")).1.toOption =
        some (.escaped "TypeError") := by
  decide +kernel

end CommandLine

end GroovyRounds
