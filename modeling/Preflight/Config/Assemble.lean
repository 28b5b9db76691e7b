import Preflight.Config.File
import Preflight.Log.Level

/-!
# Assembling the configuration of a run

A run's configuration is built layer by layer. The defaults come first; before anything is
read the installation directory is made if nothing is there yet. Then come the settings of
the configuration files, then those of the environment, then the saved cloud token and the
command being run. The finished layers are checked last: the telemetry level, the log level
and the diagnostics level must be among the known ones.

The first step that fails stops the assembly, and its error is the report's error. The
warnings gathered before it are kept. A failure that is not a configuration error (bytes of
a token file that are not UTF-8) ends the whole assembly as a failure.
-/

set_option autoImplicit false

namespace Preflight.Config

/-- How the text of an environment variable becomes a setting. -/
inductive Reading where
  /-- The text itself. -/
  | text
  /-- A truth value. -/
  | truth
  /-- An integer. -/
  | count
  deriving DecidableEq

/-- Reads the text of a variable. -/
def Reading.read : Reading → String → Except CoerceFault Value
  | .text, s => .ok (.str s)
  | .truth, s => (coerceBool (.str s)).map .bool
  | .count, s => (coerceInt (.str s)).map .int

/-- The variables that set settings, with the setting each sets and how it is read, in the
order they are read. -/
def variableSettings : List (String × String × Reading) :=
  [("CHECKPIPE_INSTALL_DIR", "install_dir", .text),
   ("CHECKPIPE_MOD_LOCATION", "mod_location", .text),
   ("CHECKPIPE_UPDATE_CHECK", "update_check", .truth),
   ("CHECKPIPE_TELEMETRY", "telemetry", .text),
   ("CHECKPIPE_MEMORY_MAX_MB", "memory_max_mb", .count),
   ("CHECKPIPE_CLOUD_HOST", "cloud_host", .text)]

/-- The variable that sets the diagnostics level. -/
def diagnosticsVariable : String := "CHECKPIPE_DIAGNOSTIC_LEVEL"

/-- The older name of the diagnostics variable, still read. -/
def oldDiagnosticsVariable : String := "CHECKPIPE_DIAGNOSTICS_LEVEL"

/-- The variable that holds a cloud token. -/
def tokenVariable : String := "CHECKPIPE_CLOUD_TOKEN"

/-- The cloud host used when no setting names one. -/
def defaultCloudHost : String := "cloud.checkpipe.io"

/-- The telemetry levels. -/
def telemetryLevels : List String := ["none", "info"]

/-- The diagnostics levels. -/
def diagnosticsLevels : List String := ["all", "none"]

/-- A list of names as messages write it, separated by commas. -/
def namesText (names : List String) : String := ", ".intercalate names

/-- The settings the environment gives: each variable of `variableSettings` that is present,
read as its setting says, then the log level asked for and the diagnostics level. The first
variable that cannot be read is the error. -/
def environmentSettings (env : Environ) : Except String Table := do
  let t ← variableSettings.foldlM (fun (t : Table) (name, key, how) =>
    match env.get? name with
    | none => .ok t
    | some raw =>
      match how.read raw with
      | .ok v => .ok (t.putText key v)
      | .error f => .error s!"invalid value of environment variable {name} ({raw}): {f.message}")
    Table.empty
  let t := match env.logLevel? with
    | some l => t.putText "log_level" (.str l)
    | none => t
  match env.get? diagnosticsVariable <|> env.get? oldDiagnosticsVariable with
  | some d => return t.putText "diagnostics_level" (.str d)
  | none => return t

/-- The default settings of a run in an installation directory and a workspace. -/
def defaultSettings (inst : Install) (workspace : String) : Table :=
  Table.ofTexts
    [("install_dir", .str inst.dir), ("mod_location", .str workspace),
     ("log_level", .str LogLevel.standard.name), ("update_check", .bool true),
     ("telemetry", .str "info"), ("memory_max_mb", .int 0), ("cloud_host", .str defaultCloudHost)]

/-- Makes the installation directory, with the directories on the way, unless something is
already at its path. -/
def ensureInstall (fs : Files.Tree) (inst : Install) : Except String Files.Tree :=
  if fs.exists? inst.dir then .ok fs
  else
    match fs.makeDirs inst.dir true true with
    | .ok t => .ok t
    | .error f => .error s!"could not create installation directory: {inst.dir}: {f.toFailure.message}"

/-- The file that holds the saved token of a cloud host. -/
def tokenPath (inst : Install) (host : String) : String :=
  Files.join inst.internalDir (host ++ ".token")

/-- The saved token of a cloud host: the file's text without blanks around it, or the empty
text when no file is there. -/
def loadToken (fs : Files.Tree) (inst : Install) (host : String) : Except Failure String :=
  let p := tokenPath inst host
  if !fs.exists? p then .ok ""
  else
    match fs.read p with
    | .error f => .error f.toFailure
    | .ok bs =>
      match Text.readText bs with
      | .ok t => .ok (Text.strip t)
      | .error f => .error ⟨.undecodable, f.message⟩

/-- Adds the cloud token to the resolved settings: a saved token for the host the settings
name, overridden by a token in the environment. A token file that cannot be read is a
configuration error; one that is not text fails the whole assembly. -/
def resolveToken (fs : Files.Tree) (inst : Install) (env : Environ) (b : Builder) :
    Except Failure (Except String Builder) :=
  let host := ((b.peek? (.str "cloud_host")).getD (.str defaultCloudHost)).text
  match loadToken fs inst host with
  | .error f =>
    if f.kind.isSystem then .ok (.error s!"failed to load saved token for {host}: {f.message}")
    else .error f
  | .ok saved =>
    let b := if saved.isEmpty then b else b.set .resolved "cloud_token" (.str saved)
    match env.nonEmpty? tokenVariable with
    | some t => .ok (.ok (b.set .resolved "cloud_token" (.str t)))
    | none => .ok (.ok b)

/-- Checks the levels of collected settings: the telemetry level exactly, the log level in
lower case, then the diagnostics level in lower case. A failed telemetry or log level check
ends the checking. The older diagnostics variable gives a warning when present. -/
def validate (b : Builder) (env : Environ) : Report :=
  let telemetry := ((b.peek? (.str "telemetry")).getD (.str "")).text
  if !telemetryLevels.contains telemetry then
    Report.ofError s!"invalid value of 'telemetry' ({telemetry}), must be one of: {namesText telemetryLevels}"
  else
    let level := Text.lower ((b.peek? (.str "log_level")).getD (.str "")).text
    if (LogLevel.ofName? level).isNone then
      Report.ofError s!"invalid value of 'log_level' ({level}), must be one of: {LogLevel.namesText}"
    else
      let r : Report :=
        if env.has oldDiagnosticsVariable then
          ({} : Report).addWarning
            s!"Environment variable {oldDiagnosticsVariable} is deprecated - use {diagnosticsVariable}"
        else {}
      match b.peek? (.str "diagnostics_level") with
      | none | some .null => r
      | some d =>
        if diagnosticsLevels.contains (Text.lower d.text) then r
        else r.withError
          s!"invalid value of {diagnosticsVariable} ({d.text}), must be one of: {namesText diagnosticsLevels}"

/-- The command a run carries out. -/
structure Command where
  /-- The command's name. -/
  name : String
  /-- The words of the command line. -/
  args : List String := []
  /-- Whether standard output is a terminal. -/
  tty : Bool := false
  deriving Inhabited

/-- The settings that describe the command being run. -/
def Command.settings (c : Command) : Table :=
  Table.ofTexts
    [("active_command", .str c.name), ("active_command_args", .list (c.args.map .str)),
     ("is_terminal_tty", .bool c.tty)]

/-- What assembling gave: the files afterwards, the configuration unless a step failed, and
the report. -/
structure Assembled where
  /-- The files, with the installation directory made. -/
  tree : Files.Tree
  /-- The configuration, unless a step failed. -/
  config : Option Config
  /-- The error and warnings. -/
  report : Report

/-- Assembles the configuration of a run of `cmd` in an installation directory, with the
workspace (or the working directory `cwd` when there is none) and the environment. -/
def assemble (fs : Files.Tree) (inst : Install) (workspace : Option String) (cwd : String)
    (env : Environ) (cmd : Command) : Except Failure Assembled := do
  let b := ({} : Builder).put .defaults (defaultSettings inst (workspace.getD cwd))
  match ensureInstall fs inst with
  | .error e => return ⟨fs, none, Report.ofError e⟩
  | .ok fs =>
    let (loaded, r) ← loadFiles fs inst workspace
    if r.failed then return ⟨fs, none, r⟩
    let b := b.put .file loaded.options
    match environmentSettings env with
    | .error e => return ⟨fs, none, r.withError e⟩
    | .ok t =>
      match ← resolveToken fs inst env (b.put .environment t) with
      | .error e => return ⟨fs, none, r.withError e⟩
      | .ok b =>
        let b := b.put .resolved cmd.settings
        let r := r.merge (some (validate b env))
        if r.failed then return ⟨fs, none, r⟩
        return ⟨fs, some b.build, r⟩

/-- Whether the log level of the configuration files must be handed to the environment: no
level variable is present, not even an empty one, and a configuration file sets a level. -/
def needsLevelReset (c : Config) (env : Environ) : Bool :=
  !env.logLevelSet && c.layers.file.has (.str "log_level")

/-- Whether telemetry is recorded: the telemetry setting is not `none`. -/
def telemetryOn (c : Config) : Bool :=
  c.getText "telemetry" "info" != "none"

end Preflight.Config
