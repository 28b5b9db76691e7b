import Preflight.Config.Assemble
import Preflight.Log.Sink
import Preflight.Memory
import Preflight.Notice
import Preflight.Tasks
import Preflight.Telemetry

/-!
# Before and after a command

Every command but `completion` is prepared the same way. Unless the command is the
service, which keeps its own log, the program's log is set up on a buffer first. Then the
installation directory is found, the configuration assembled, and a failed assembly prints
its warnings and error and ends the run with status 1. The warnings of a good assembly are
logged; a log level set only by the configuration files is handed to the environment; the
log moves to the day's file in the log directory and is set up again at the level now in
force. Then the housekeeping jobs start (not for the service): first showing the
deprecations, then the update check when the configuration asks for it, then the pruning
of old logs. Last the address space is capped as the configuration says.

After the command, housekeeping still running is cancelled, and the command is recorded
in the telemetry with its exit status and duration. A record that cannot be written is
only logged.

A failure of any step while preparing ends the preparation; what was done before it stays.
-/

set_option autoImplicit false

namespace Preflight.Startup

open Config (Command)

/-- The command that prints completion scripts, which needs no preparation. -/
def completionCommand : String := "completion"

/-- The logger of the preparation. -/
def loggerName : String := "checkpipe.app.startup"

/-- The variable a log level set by the configuration files is handed to. -/
def levelVariable : String := "CHECKPIPE_LOG_LEVEL"

/-- The variable naming the workspace. -/
def modLocationVariable : String := "CHECKPIPE_MOD_LOCATION"

/-- Every environment variable a run reads. -/
def variablesRead : List String :=
  (levelVariables ++ Config.variableSettings.map (·.1) ++
    [Config.diagnosticsVariable, Config.oldDiagnosticsVariable, Config.tokenVariable,
     installDirVariable, modLocationVariable]).eraseDups

/-- How long the end of a run waits for housekeeping before cancelling it, as logged. -/
def waitText : String := "0.10"

/-- What the machine provides to a run. -/
structure Machine where
  /-- The home directories. -/
  homes : Homes
  /-- The working directory. -/
  cwd : String
  /-- The clock of the log. -/
  clock : Log.Clock
  /-- The time now. -/
  now : Time.Moment
  /-- The identifier of the run. -/
  execution : String
  /-- The body the release index answers with, when it can be reached. -/
  releases : Option String := none
  /-- The current hard limit of the address space. -/
  hardLimit : Int := Memory.unlimited
  /-- Whether the system refuses new limits. -/
  refusal : Option Memory.Refusal := none
  /-- Whether the first housekeeping job waits until the run is cancelled. -/
  holdHousekeeping : Bool := false

/-- How housekeeping was asked to run. -/
structure RunnerCall where
  /-- Whether the update check runs. -/
  updateCheck : Bool
  /-- Whether a newer release is announced. -/
  notify : Bool
  /-- Whether a job runs before the others. -/
  preHook : Bool

/-- What a run changes: its log (with the files and the process's error stream), its
environment, the error stream of the preparation, how housekeeping was asked to run and
the limits asked of the system. -/
structure State where
  /-- The log, the files and the process's error stream. -/
  log : Log.Logging
  /-- The environment. -/
  env : Environ
  /-- What the preparation printed to its error stream. -/
  stream : String := ""
  /-- How housekeeping was asked to run. -/
  runnerCalls : List RunnerCall := []
  /-- The soft and hard limits asked of the system. -/
  limits : List (Memory.Amount × Int) := []

/-- Why the preparation ended early: an exit with a status, or a failure. -/
inductive Halt where
  /-- The run exits with a status. -/
  | exit (status : Nat)
  /-- A step failed. -/
  | failure (f : Failure)

/-- A step of a run: it may end the preparation, and keeps its changes either way. -/
abbrev StartM := ExceptT Halt (StateM State)

/-- The world of housekeeping: the files, the process's error stream, and what the jobs
print to the preparation's error stream. -/
abbrev Chores := Tasks.World String

/-- What the preparation gives the command. -/
structure Prepared where
  /-- The command. -/
  command : Command
  /-- The installation directory, once found. -/
  install : Option Install := none
  /-- The configuration, once assembled. -/
  config : Option Config := none
  /-- The warnings of the assembly. -/
  report : Report := {}
  /-- Whether the program's log is used. -/
  logged : Bool := false
  /-- The housekeeping run, when it started. -/
  tasks : Option (Tasks.Run Chores) := none

/-- Writes a record through a named logger. -/
def log (m : Machine) (logger : String) (severity : Nat) (msg : String) : StartM Unit :=
  modify fun s => { s with log := s.log.emit m.clock logger severity msg }

/-- Sets up the program's log at the level the environment asks for. -/
def setUpLog (m : Machine) : StartM Unit :=
  modify fun s =>
    { s with log := (s.log.configure m.clock s.env.resolvedLevel.name m.execution).1 }

/-- Ends the preparation with a failure. -/
def fail {α : Type} (f : Failure) : StartM α := throw (.failure f)

/-- The result of a step that may fail, or the end of the preparation. -/
def orFail {α : Type} : Except Failure α → StartM α
  | .ok a => pure a
  | .error f => fail f

/-- The workspace: the one given, else the one the environment names, else the working
directory. -/
def workspace (m : Machine) (env : Environ) (given : Option String) : Except Failure String :=
  let raw := match given with
    | some g => if g.isEmpty then env.get? modLocationVariable else some g
    | none => env.get? modLocationVariable
  match raw with
  | some r => if r.isEmpty then .ok m.cwd else expandHome m.homes r
  | none => .ok m.cwd

/-- The job shown first: it prints the deprecations among the warnings, waiting first for
the run to be cancelled when the machine holds housekeeping. -/
def showDeprecations (m : Machine) (warnings : List String) : Tasks.Job Chores :=
  let display (w : Chores) : Chores := { w with extra := w.extra ++ Notice.deprecations warnings }
  ⟨"pre-hook", fun w _ => if m.holdHousekeeping then .waiting display else .finished (display w)⟩

/-- Takes the effects of housekeeping into the state of the run. -/
def absorb (r : Tasks.Run Chores) : StartM Unit :=
  modify fun s =>
    { s with log := { s.log with tree := r.world.tree, stream := s.log.stream ++ r.world.stream },
             stream := s.stream ++ r.world.extra }

/-- Starts housekeeping on the current files. -/
def startHousekeeping (m : Machine) (inst : Install) (c : Config) (cmd : Command)
    (warnings : List String) : StartM (Tasks.Run Chores) := do
  let updateCheck ← orFail ((c.getBool "update_check" true).mapError Config.ConfigFault.toFailure)
  modify fun s => { s with runnerCalls := s.runnerCalls ++ [⟨updateCheck, cmd.tty, true⟩] }
  let jobs := Tasks.housekeeping inst m.now updateCheck cmd.tty m.releases
    (some (showDeprecations m warnings))
  let tree := (← get).log.tree
  let r := Tasks.Run.start jobs { tree, extra := "" }
  absorb r
  return { r with world := { r.world with stream := "", extra := "" } }

/-- Caps the address space as the configuration says, logging the outcome. -/
def capMemory (m : Machine) (c : Config) : StartM Unit := do
  let mb ← orFail ((c.getInt "memory_max_mb").mapError Config.ConfigFault.toFailure)
  let o := Memory.cap (.whole mb) m.hardLimit m.refusal
  modify fun s => { s with limits := s.limits ++ o.asked }
  if let some w := o.warning then log m loggerName 30 w
  if o.capped then log m loggerName 20 s!"memory limit set to {mb} MB"

/-- Prepares a run of a command, given the installation directory and workspace asked for
on the command line. -/
def prepare (m : Machine) (installDir modLocation : Option String) (cmd : Command) :
    StartM Prepared := do
  let p : Prepared := { command := cmd }
  if cmd.name == completionCommand then return p
  let logged := !Notice.isService cmd.name
  if logged then setUpLog m
  let p := { p with logged }
  let env := (← get).env
  let inst ← orFail (resolveInstall m.homes env installDir)
  let ws ← orFail (workspace m env modLocation)
  let a ← orFail (Config.assemble (← get).log.tree inst (some ws) m.cwd env cmd)
  modify fun s => { s with log := { s.log with tree := a.tree } }
  let p := { p with install := some inst, report := a.report }
  if let some (text, status) := Notice.failure? a.report then
    modify fun s => { s with stream := s.stream ++ text }
    throw (.exit status)
  let some c := a.config | throw (.exit Notice.failureStatus)
  for w in a.report.warnings do log m loggerName 30 w
  if c.needsLevelReset env then
    modify fun s => { s with env := s.env.set levelVariable (c.getText "log_level") }
  if logged then
    let s ← get
    match (Log.attach m.clock inst.logDir).run.run s.log with
    | (.error f, l) =>
      set { s with log := l }
      fail f
    | (.ok _, l) => set { s with log := l }
    setUpLog m
  let tasks ←
    if Notice.isService cmd.name then pure none
    else some <$> startHousekeeping m inst c cmd a.report.warnings
  capMemory m c
  return { p with config := some c, tasks }

/-- Finishes a run after its command ended with an exit status: cancels housekeeping that
is still running and records the command in the telemetry, at a time and with a duration
in milliseconds. The result is the housekeeping run as it ended. -/
def conclude (m : Machine) (p : Prepared) (exitCode : Int) (ts durationMs : Float) :
    StartM (Option (Tasks.Run Chores)) := do
  let tasks ← match p.tasks with
    | some r =>
      if r.wait then pure (some r)
      else do
        log m loggerName 10
          s!"background tasks still running after {waitText}s - cancelling"
        let tree := (← get).log.tree
        let r := ({ r with world := { r.world with tree } } : Tasks.Run Chores).cancel
        absorb r
        pure (some r)
    | none => pure none
  if let (some inst, some c) := (p.install, p.config) then
    let event : Telemetry.Event :=
      { name := .str "command",
        payload := .dict [(.str "name", .str p.command.name), (.str "exit_code", .int exitCode)],
        status := .str (if exitCode == 0 then "ok" else "failed"),
        executionId := .str m.execution, durationMs := some (.float durationMs) }
    let s ← get
    match (Telemetry.record inst.logDir c ts event).run s.log.tree with
    | (.ok _, t) => set { s with log := { s.log with tree := t } }
    | (.error f, t) =>
      set { s with log := { s.log with tree := t } }
      if f.kind.isSystem then log m loggerName 10 "failed to record command telemetry"
      else fail f
  return tasks

/-- The files a run reaches by name: the workspace's configuration file; in the
installation, the saved token of the cloud host the environment names (or the default
one), the update state, the telemetry, the day's log and the files of the shipped
templates. -/
def pathsReached (inst : Option Install) (workspace : Option String) (env : Environ)
    (clock : Log.Clock) (shipped : List String) : List String :=
  let fromWorkspace := match workspace with
    | some w => [Files.join w Config.workspaceFile]
    | none => []
  let fromInstall := match inst with
    | some i =>
      let host := (env.nonEmpty? "CHECKPIPE_CLOUD_HOST").getD Config.defaultCloudHost
      [Config.tokenPath i host, Update.statePath i,
       Files.join i.logDir Telemetry.fileName, Files.join i.logDir (Log.fileName clock.today)] ++
        shipped.map (Files.join i.templateDir)
    | none => []
  fromWorkspace ++ fromInstall

end Preflight.Startup
