import GroovyRounds.FileSystem.Action
import GroovyRounds.Ini.Interpolation
import GroovyRounds.Settings.Basic
import GroovyRounds.Text.Numeral
import GroovyRounds.Text.Utf8

/-!
# Layers of settings

Settings come from the defaults, the section `groovyc` of an INI file, and the
environment. Relative paths in the file start at its directory.
-/

namespace GroovyRounds

-- ---------------------------------------------------------------------------
-- Faults
-- ---------------------------------------------------------------------------

inductive SettingsFault where
  | missing (path : Path)
  | malformed (path : Path) (fault : Ini.Fault)
  | badValue (path : Path)
  | heapNotPositive (size : Int)
  | thresholdNegative (threshold : Int)
  | environmentNoInteger (text : String)
  | environmentNegative (text : String)
  /-- A line continues an option that has no value. -/
  | continuesNothing
  /-- A number is asked of an option that has no value. -/
  | noNumber
  /-- A truth value is asked of an option that has no value. -/
  | noTruthValue
  | value (fault : Ini.ValueFault)
  | notUtf8
  | files (fault : FileFault)
deriving Repr

def settingsSection : String := "groovyc"

def inProcessVariable : String := "GROOVYC_IN_PROCESS"

def thresholdVariable : String := "GROOVYC_OPTIMIZED_CLASS_LOADING_THRESHOLD"

def grapeRootVariable : String := "GRAPE_ROOT"

def javaHomeVariable : String := "JAVA_HOME"

namespace SettingsFault

/-- The fault is reported as a mistake in the settings. -/
def isReported : SettingsFault → Bool
  | .continuesNothing | .noNumber | .noTruthValue | .value _ | .notUtf8 | .files _ => false
  | _ => true

def label : SettingsFault → String
  | .continuesNothing | .noTruthValue => "AttributeError"
  | .noNumber | .value .noValue => "TypeError"
  | .value .badReference => "InterpolationSyntaxError"
  | .value .unknownOption => "InterpolationMissingOptionError"
  | .value .tooDeep => "InterpolationDepthError"
  | .notUtf8 => "UnicodeDecodeError"
  | .files fault => fault.label
  | _ => "SettingsError"

def message : SettingsFault → String
  | .missing path => "Configuration file not found: " ++ path.toString
  | .malformed path _ => "Failed to parse " ++ path.toString ++ ": malformed settings"
  | .badValue path =>
    "Invalid value in [" ++ settingsSection ++ "] of " ++ path.toString ++ ": malformed value"
  | .heapNotPositive size => "heap_size must be positive, got " ++ toString size
  | .thresholdNegative threshold =>
    "optimize_threshold must not be negative, got " ++ toString threshold
  | .environmentNoInteger text =>
    thresholdVariable ++ " must be an integer, got '" ++ text ++ "'"
  | .environmentNegative text => thresholdVariable ++ " must not be negative, got " ++ text
  | .continuesNothing => "a line continues an option without a value"
  | .noNumber | .noTruthValue | .value .noValue => "an option has no value"
  | .value .badReference => "malformed reference"
  | .value .unknownOption => "reference to an unknown option"
  | .value .tooDeep => "references nested too deeply"
  | .notUtf8 => "malformed UTF-8"
  | .files fault => fault.message

end SettingsFault

-- ---------------------------------------------------------------------------
-- The section
-- ---------------------------------------------------------------------------

/-- Looks up options of the section. -/
abbrev Lookup := String → Except Ini.ValueFault (Option (Option String))

namespace Lookup

/-- The value of an option: `none` if it is absent or has no value. -/
def text? (lookup : Lookup) (name : String) : Except SettingsFault (Option String) :=
  match lookup name with
  | .error fault => .error (.value fault)
  | .ok value => .ok value.join

/-- The value of an option, unless it is empty. -/
def filled? (lookup : Lookup) (name : String) : Except SettingsFault (Option String) := do
  return (← lookup.text? name).filter (!·.isEmpty)

def integer (lookup : Lookup) (path : Path) (name : String) (default : Int) :
    Except SettingsFault Int :=
  match lookup name with
  | .error fault => .error (.value fault)
  | .ok none => .ok default
  | .ok (some none) => .error .noNumber
  | .ok (some (some s)) =>
    match Text.readInteger s with
    | .ok n => .ok n
    | .error _ => .error (.badValue path)

/-- The truth value that a word stands for, in any case of letters. -/
def truthValue? (s : String) : Option Bool :=
  let word := Text.lowerString s
  if ["1", "yes", "true", "on"].contains word then some true
  else if ["0", "no", "false", "off"].contains word then some false
  else none

def boolean (lookup : Lookup) (path : Path) (name : String) (default : Bool) :
    Except SettingsFault Bool :=
  match lookup name with
  | .error fault => .error (.value fault)
  | .ok none => .ok default
  | .ok (some none) => .error .noTruthValue
  | .ok (some (some s)) =>
    match truthValue? s with
    | some b => .ok b
    | none => .error (.badValue path)

/-- The lines of an option that holds a list. -/
def items (lookup : Lookup) (name : String) : Except SettingsFault (List String) := do
  return Text.listItems ((← lookup.text? name).getD "")

end Lookup

namespace Settings

/-- Reads the options of the section over given settings. -/
def readSection (settings : Settings) (path : Path) (lookup : Lookup) :
    Except SettingsFault Settings := do
  let heapSize ← lookup.integer path "heap_size" settings.heapSize
  let invokeDynamic ← lookup.boolean path "invoke_dynamic" settings.invokeDynamic
  let inProcess ← lookup.boolean path "in_process" settings.inProcess
  let optimizeThreshold ← lookup.integer path "optimize_threshold" settings.optimizeThreshold
  let directory := path.parent
  let stubExcludes ← lookup.items "stub_excludes"
  let runtimeSupport ← lookup.filled? "runtime_support"
  let bootstrap ← lookup.items "bootstrap_classpath"
  let mainClass ← lookup.filled? "main_class"
  let inProcessRunner ← lookup.filled? "in_process_runner"
  let javaHome ← lookup.filled? "java_home"
  let hostRuntimeVersion ← lookup.filled? "host_runtime_version"
  let grapeRoot ← lookup.filled? "grape_root"
  let encoding ← lookup.filled? "encoding"
  if heapSize ≤ 0 then throw (.heapNotPositive heapSize)
  if optimizeThreshold < 0 then throw (.thresholdNegative optimizeThreshold)
  return {
    heapSize, invokeDynamic, inProcess, optimizeThreshold, stubExcludes
    runtimeSupport := (runtimeSupport.map directory.child).getD settings.runtimeSupport
    bootstrapClasspath := bootstrap.map directory.child
    mainClass := mainClass.getD settings.mainClass
    inProcessRunner := inProcessRunner <|> settings.inProcessRunner
    javaHome := (javaHome.map Path.ofString) <|> settings.javaHome
    hostRuntimeVersion := hostRuntimeVersion <|> settings.hostRuntimeVersion
    grapeRoot := grapeRoot <|> settings.grapeRoot
    encoding := encoding.getD settings.encoding }

def ofIniFault (path : Path) : Ini.Fault → SettingsFault
  | .continuesNothing => .continuesNothing
  | fault => .malformed path fault

/-- Reads the content of an INI file over given settings. -/
def readIni (settings : Settings) (path : Path) (content : List UInt8) :
    Except SettingsFault Settings :=
  match Text.Utf8.decodeText content with
  | none => .error .notUtf8
  | some text =>
    match Ini.read text with
    | .error fault => .error (ofIniFault path fault)
    | .ok file =>
      match file.sections.find? settingsSection with
      | none => .ok settings
      | some options => settings.readSection path (file.value? options)

/-- Reads an INI file. A directory in its place says nothing. -/
def readFile (settings : Settings) (files : FileSystem) (path : Path) :
    Except SettingsFault Settings :=
  match files.probe path with
  | .error fault => .error (.files fault)
  | .ok none => .error (.missing path)
  | .ok (some .directory) => .ok settings
  | .ok (some (.file content _)) => settings.readIni path content

-- ---------------------------------------------------------------------------
-- The environment
-- ---------------------------------------------------------------------------

abbrev Environment := List (String × String)

def filledVariable? (env : Environment) (name : String) : Option String :=
  (env.lookup name).filter (!·.isEmpty)

/-- The default settings in an environment. -/
def initial (runtimeSupport : Path) (env : Environment) : Settings where
  runtimeSupport
  javaHome := (filledVariable? env javaHomeVariable).map Path.ofString
  grapeRoot := filledVariable? env grapeRootVariable

def readThreshold (text : String) : Except SettingsFault Int :=
  match Text.readInteger text with
  | .error _ => .error (.environmentNoInteger text)
  | .ok threshold =>
    if threshold < 0 then .error (.environmentNegative text) else .ok threshold

/-- Applies the variables that override a file. -/
def override (settings : Settings) (env : Environment) : Except SettingsFault Settings := do
  let inProcess := match env.lookup inProcessVariable with
    | some text => Text.lower (Text.trim text.toList) = "true".toList
    | none => settings.inProcess
  let optimizeThreshold ← match env.lookup thresholdVariable with
    | some text => readThreshold text
    | none => pure settings.optimizeThreshold
  return { settings with inProcess, optimizeThreshold }

/-- Loads settings from an INI file, if one is given, and the environment. -/
def load (files : FileSystem) (runtimeSupport : Path) (ini : Option Path) (env : Environment) :
    Except SettingsFault Settings := do
  let settings := initial runtimeSupport env
  let settings ← match ini with
    | some path => settings.readFile files path
    | none => pure settings
  settings.override env

end Settings

end GroovyRounds
