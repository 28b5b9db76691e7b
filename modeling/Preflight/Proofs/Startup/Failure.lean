import Preflight.Proofs.Config.Assemble
import Preflight.Proofs.Files.Made
import Preflight.Proofs.Log.Delivery
import Preflight.Proofs.Startup.Run

/-!
# A preparation that stops on a failed assembly

Before a command runs, the preparation sets the program's log up on a buffer, finds the
installation directory and the workspace, and assembles the configuration. An assembly that
reports an error ends the preparation there: the warnings and the error are printed on the
preparation's error stream, `Warning: ` and `Error: ` before each, and the run exits with
status 1. Nothing that comes later happens: no housekeeping starts, no limit is asked of the
system, no log level is handed to the environment, and the log is not moved to its file.

What the files show of such a run is what the assembly did to them: it makes the
installation directory when nothing is there, with the directories on its path as the path
is written (`Config.assemble_madeOn`). Setting the log up on its buffer writes no file
(`Log.Logging.configure_unseen`). So the files after the run hold what they held, and besides
only directories on the installation directory's written path (`prepare_stops_on_failed_assembly`).
That path can pass through the log directory: given as `inst/logs/..`, the installation
directory is `inst`, and making it makes `inst/logs`, the log directory, on the way
(`prepare_failure_makes_log_directory`).

The completion command is not prepared at all: its preparation reads nothing and changes
nothing (`prepare_completion`).
-/

set_option autoImplicit false

namespace Preflight

namespace Config

section Tree

open Files.Tree (MadeOn)

variable {fs fs' : Files.Tree} {inst : Install} {ws : Option String} {cwd : String}
  {env : Environ} {cmd : Command} {a : Assembled}

/-- Making the installation directory makes directories on its written path and nothing
else. -/
theorem ensureInstall_madeOn (h : ensureInstall fs inst = .ok fs') :
    MadeOn fs fs' (fs.wayTo inst.dir) := by
  unfold ensureInstall at h
  split at h
  · cases h
    exact MadeOn.refl fs _
  · split at h
    · rename_i t hmake
      cases h
      exact Files.Tree.makeDirs_madeOn hmake
    · cases h

/-- Once the installation directory is made, every later step of an assembly only reads, so
the files it gives are those the directory was made in. -/
theorem tree_of_assemble (h₁ : ensureInstall fs inst = .ok fs')
    (h : assemble fs inst ws cwd env cmd = .ok a) : a.tree = fs' := by
  cases h₂ : loadFiles fs' inst ws with
  | error f =>
    rw [assemble_of_files_failure h₁ h₂] at h
    cases h
  | ok lr =>
    rcases lr with ⟨loaded, r⟩
    cases hr : r.failed
    case true =>
      rw [assemble_of_files_failed h₁ h₂ hr] at h
      cases h
      rfl
    case false =>
      cases h₃ : environmentSettings env with
      | error e =>
        rw [assemble_of_env_error h₁ h₂ hr h₃] at h
        cases h
        rfl
      | ok t =>
        cases h₄ : resolveToken fs' inst env (baseBuilder inst (ws.getD cwd) loaded.options t) with
        | error f =>
          rw [assemble_of_token_failure h₁ h₂ hr h₃ h₄] at h
          cases h
        | ok res =>
          cases res with
          | error e =>
            rw [assemble_of_token_error h₁ h₂ hr h₃ h₄] at h
            cases h
            rfl
          | ok b =>
            rw [assemble_of_token h₁ h₂ hr h₃ h₄] at h
            cases h
            rfl

/-- An assembly changes the files only by making the installation directory on its written
path, whether it gives a configuration or reports an error. -/
theorem assemble_madeOn (h : assemble fs inst ws cwd env cmd = .ok a) :
    MadeOn fs a.tree (fs.wayTo inst.dir) := by
  cases h₁ : ensureInstall fs inst with
  | error e =>
    rw [assemble_of_install_error h₁] at h
    cases h
    exact MadeOn.refl fs _
  | ok fs' =>
    rw [tree_of_assemble h₁ h]
    exact ensureInstall_madeOn h₁

end Tree

end Config

namespace Log.Logging

/-- A record of the program's logger, while the logger writes into a buffer, reaches neither
the files nor the error stream. -/
theorem emit_own_of_buffer {l : Logging} {logger : String} {id : Nat} {execution : String}
    (hown : ownLogger logger = true) (hh : l.handler = some ⟨.buffer id, execution⟩)
    (clock : Clock) (severity : Nat) (msg : String) :
    (l.emit clock logger severity msg).tree = l.tree ∧
      (l.emit clock logger severity msg).stream = l.stream := by
  unfold emit
  simp only [hown, if_true, hh]
  split_ifs <;> exact ⟨rfl, rfl⟩

theorem foldl_emit_own_of_buffer {logger : String} {id : Nat} {execution : String}
    (hown : ownLogger logger = true) (clock : Clock) (severity : Nat) :
    ∀ (texts : List String) (l : Logging), l.handler = some ⟨.buffer id, execution⟩ →
      (texts.foldl (fun acc text => acc.emit clock logger severity text) l).tree = l.tree ∧
        (texts.foldl (fun acc text => acc.emit clock logger severity text) l).stream = l.stream
  | [], _, _ => ⟨rfl, rfl⟩
  | text :: rest, l, hh => by
    have hrest := foldl_emit_own_of_buffer hown clock severity rest (l.emit clock logger severity text)
      (by rw [emit_handler]; exact hh)
    have hone := emit_own_of_buffer hown hh clock severity text
    rw [List.foldl_cons]
    exact ⟨hrest.1.trans hone.1, hrest.2.trans hone.2⟩

/-- Setting the program's logger up on a sink that is not attached shows nothing: the banner,
if it is written, goes to the sink's buffer, not to a file or the error stream. -/
theorem configure_unseen {l : Logging} (hs : l.sink.logFile = none) (clock : Clock)
    (level execution : String) :
    (l.configure clock level execution).1.tree = l.tree ∧
      (l.configure clock level execution).1.stream = l.stream := by
  have htarget : l.sink.target = .buffer l.sink.buffer := by simp [Sink.target, hs]
  unfold configure
  dsimp only
  split
  · exact ⟨rfl, rfl⟩
  · dsimp only
    exact foldl_emit_own_of_buffer (by simp [ownLogger]) clock 20 _ _ (by rw [htarget])

end Log.Logging

namespace Startup

open Config (Command)
open Files.Tree (MadeOn)
open StartM

theorem exec_orFail_ok_bind {α β : Type} (a : α) (f : α → StartM β) (s : State) :
    (orFail (.ok a) >>= f).exec s = (f a).exec s := rfl

/-- Setting the log up, or not, and going on from there. -/
theorem exec_ite_setUpLog {α : Type} (m : Machine) (b : Bool) (x : StartM α) (s : State) :
    (if b = true then (setUpLog m >>= fun _ => x) else x).exec s =
      x.exec (if b = true then
        { s with log := (s.log.configure m.clock s.env.resolvedLevel.name m.execution).1 } else s) := by
  cases b <;> rfl

/-- The completion command is not prepared: whatever the state, its preparation reads nothing,
changes nothing and gives the command alone. -/
theorem prepare_completion (m : Machine) (dir ws : Option String) {cmd : Command}
    (hcmd : cmd.name = completionCommand) (s : State) :
    (prepare m dir ws cmd).exec s = (.ok { command := cmd }, s) := by
  unfold prepare
  rw [if_pos (by simp [hcmd])]
  rfl

/-- What a preparation stopped by a failed assembly leaves, from the state `s` it started in:
its error stream gains `Warning: w` for each warning, in order, then `Error: ` and the error;
no housekeeping was asked for and no limit; the environment is as it was; and the files hold
what they held and besides only directories on the installation directory's written path. -/
structure StopsCleanly (s s' : State) (warnings : List String) (error : String) (inst : Install) :
    Prop where
  stream : s'.stream = s.stream ++
    String.join (warnings.map fun w => "Warning: " ++ w ++ "\n") ++ "Error: " ++ error ++ "\n"
  logStream : s'.log.stream = s.log.stream
  env : s'.env = s.env
  runnerCalls : s'.runnerCalls = s.runnerCalls
  limits : s'.limits = s.limits
  files : MadeOn s.log.tree s'.log.tree (s.log.tree.wayTo inst.dir)

section Failed

variable {m : Machine} {dir ws : Option String} {cmd : Command} {s : State} {inst : Install}
  {w : String} {a : Config.Assembled} {e : String}

/-- A preparation whose assembly reports an error exits with status 1 after printing the
warnings and the error, and does nothing after the assembly. The log is set up on the sink
the run starts with, which must not be attached yet. -/
theorem prepare_stops_on_failed_assembly (hcmd : cmd.name ≠ completionCommand)
    (hsink : s.log.sink.logFile = none) (hinst : resolveInstall m.homes s.env dir = .ok inst)
    (hw : workspace m s.env ws = .ok w)
    (ha : Config.assemble s.log.tree inst (some w) m.cwd s.env cmd = .ok a)
    (he : a.report.error = some e) :
    ∃ s', (prepare m dir ws cmd).exec s = (.error (.exit 1), s') ∧
      StopsCleanly s s' a.report.warnings e inst := by
  have hfail : Notice.failure? a.report = some (Notice.failureText a.report.warnings e, 1) := by
    simp [Notice.failure?, he, Notice.failureStatus]
  have hconf := Log.Logging.configure_unseen hsink m.clock s.env.resolvedLevel.name m.execution
  -- the log is set up on its buffer, or not at all for the service: nothing shows yet
  let s₁ : State := if (!Notice.isService cmd.name) = true then
      { s with log := (s.log.configure m.clock s.env.resolvedLevel.name m.execution).1 } else s
  have htree₁ : s₁.log.tree = s.log.tree := by
    by_cases hsvc : Notice.isService cmd.name = true <;> simp [s₁, hsvc, hconf.1]
  have henv₁ : s₁.env = s.env := by
    by_cases hsvc : Notice.isService cmd.name = true <;> simp [s₁, hsvc]
  have hinst₁ : resolveInstall m.homes s₁.env dir = .ok inst := henv₁ ▸ hinst
  have hw₁ : workspace m s₁.env ws = .ok w := henv₁ ▸ hw
  have ha₁ : Config.assemble s₁.log.tree inst (some w) m.cwd s₁.env cmd = .ok a :=
    henv₁ ▸ htree₁ ▸ ha
  -- the steps are taken one by one; the failure ends the run before the log is moved
  have hrun : (prepare m dir ws cmd).exec s =
      (.error (.exit 1),
        { s₁ with log := { s₁.log with tree := a.tree },
                  stream := s₁.stream ++ Notice.failureText a.report.warnings e }) := by
    unfold prepare
    rw [if_neg (by simpa using hcmd)]
    dsimp only
    rw [exec_ite_setUpLog, exec_get_bind, hinst₁, exec_orFail_ok_bind, hw₁, exec_orFail_ok_bind,
      exec_get_bind, ha₁, exec_orFail_ok_bind, exec_modify_bind, hfail]
    dsimp only
    rw [exec_modify_bind, exec_throw_bind]
  have h₁ : s₁.log.stream = s.log.stream ∧ s₁.stream = s.stream ∧ s₁.env = s.env ∧
      s₁.runnerCalls = s.runnerCalls ∧ s₁.limits = s.limits := by
    by_cases hsvc : Notice.isService cmd.name = true <;> simp [s₁, hsvc, hconf.2]
  obtain ⟨hlog₁, hstream₁, henv₁, hcalls₁, hlimits₁⟩ := h₁
  refine ⟨_, hrun, ⟨?_, hlog₁, henv₁, hcalls₁, hlimits₁, Config.assemble_madeOn ha⟩⟩
  simp only [hstream₁, Notice.failureText, String.append_assoc]
  rfl

end Failed

/-- Startup fails cleanly. The completion command is not prepared: the state is left as it
is and nothing is read. Any other command whose configuration assembly reports an error
stops there: the warnings, each after `Warning: `, then `Error: ` and the error are printed,
the run exits with status 1, no housekeeping starts, no limit is asked, no level is handed to
the environment, and the files change only by the making of the installation directory with
the directories on its written path. -/
theorem prepare_fails_cleanly (m : Machine) (dir ws : Option String) (cmd : Command) (s : State)
    (hsink : s.log.sink.logFile = none) :
    (cmd.name = completionCommand → (prepare m dir ws cmd).exec s = (.ok { command := cmd }, s)) ∧
    (cmd.name ≠ completionCommand → ∀ (inst : Install) (w : String) (a : Config.Assembled) (e : String),
      resolveInstall m.homes s.env dir = .ok inst → workspace m s.env ws = .ok w →
      Config.assemble s.log.tree inst (some w) m.cwd s.env cmd = .ok a → a.report.error = some e →
      ∃ s', (prepare m dir ws cmd).exec s = (.error (.exit 1), s') ∧
        StopsCleanly s s' a.report.warnings e inst) :=
  ⟨prepare_completion m dir ws (s := s),
    fun hcmd _ _ _ _ hinst hw ha he => prepare_stops_on_failed_assembly hcmd hsink hinst hw ha he⟩

/-! ## Directories given as written

A directory given on the command line that is already written the way paths are written, and
does not start at a home directory, is used as it is. -/

section Given

variable {p : String} (hn : Files.normalize p = p) (ht : p.startsWith "~" = false)
include hn ht

theorem expandHome_of_plain (homes : Homes) : expandHome homes p = .ok p := by
  simp [expandHome, hn, ht]

theorem resolveInstall_given (hp : p.isEmpty = false) (homes : Homes) (env : Environ) :
    resolveInstall homes env (some p) = .ok ⟨p⟩ := by
  simp [resolveInstall, hp, expandHome_of_plain hn ht, Except.map]

theorem workspace_given (hp : p.isEmpty = false) (m : Machine) (env : Environ) :
    workspace m env (some p) = .ok p := by
  simp [workspace, hp, expandHome_of_plain hn ht]

end Given

/-- The environment of a run with an unknown telemetry level. -/
def badTelemetry : Environ := ⟨[("CHECKPIPE_TELEMETRY", "bad")]⟩

/-- The error the assembly reports on that level. -/
def badTelemetryError : String := "invalid value of 'telemetry' (bad), must be one of: none, info"

/-- The state a run in `/w` starts in, with an unknown telemetry level. -/
def badTelemetryStart : State := { log := { tree := Files.Tree.atDir "/w" }, env := badTelemetry }

theorem prepare_fails_cleanly_sample :
    ∃ a, Config.assemble (Files.Tree.atDir "/w") ⟨"/w/install"⟩ (some "/w/workspace") "/w"
        badTelemetry ⟨"version", [], false⟩ = .ok a ∧
      ∃ s', (prepare sampleMachine (some "/w/install") (some "/w/workspace")
          ⟨"version", [], false⟩).exec badTelemetryStart = (.error (.exit 1), s') ∧
        StopsCleanly badTelemetryStart s' a.report.warnings badTelemetryError ⟨"/w/install"⟩ := by
  have hinst := resolveInstall_given (p := "/w/install") (by decide +kernel) (by decide +kernel)
    (by decide) sampleMachine.homes badTelemetry
  have hw := workspace_given (p := "/w/workspace") (by decide +kernel) (by decide +kernel)
    (by decide) sampleMachine badTelemetry
  have ha := Config.eq_ok_of_isOk ⟨Files.Tree.atDir "/w", none, {}⟩
    (x := Config.assemble (Files.Tree.atDir "/w") ⟨"/w/install"⟩ (some "/w/workspace") "/w"
      badTelemetry ⟨"version", [], false⟩) (by decide +kernel)
  exact ⟨_, ha, (prepare_fails_cleanly sampleMachine _ _ _ badTelemetryStart rfl).2 (by decide)
    _ _ _ _ hinst hw ha (by decide +kernel)⟩

/-- The installation directory given as `/w/inst/logs/..`, that is `/w/inst`. -/
def throughLogs : Install := ⟨"/w/inst/logs/.."⟩

/-- A preparation of `version` in the installation `/w/inst/logs/..`, with an unknown
telemetry level. -/
def throughLogsRun : Except Halt Prepared × State :=
  (prepare sampleMachine (some throughLogs.dir) (some "/w/workspace") ⟨"version", [], false⟩).exec
    badTelemetryStart

/-- The preparation stops on the unknown telemetry level, and yet the log directory, which was
not there before, is there afterwards: it was made on the way to the installation
directory. -/
theorem prepare_failure_makes_log_directory :
    ∃ s', throughLogsRun = (.error (.exit 1), s') ∧
      badTelemetryStart.log.tree.isDir throughLogs.logDir = false ∧
      s'.log.tree.isDir throughLogs.logDir = true := by
  have hinst := resolveInstall_given (p := throughLogs.dir) (by decide +kernel) (by decide +kernel)
    (by decide) sampleMachine.homes badTelemetry
  have hw := workspace_given (p := "/w/workspace") (by decide +kernel) (by decide +kernel)
    (by decide) sampleMachine badTelemetry
  have ha := Config.eq_ok_of_isOk ⟨Files.Tree.atDir "/w", none, {}⟩
    (x := Config.assemble (Files.Tree.atDir "/w") throughLogs (some "/w/workspace") "/w"
      badTelemetry ⟨"version", [], false⟩) (by decide +kernel)
  obtain ⟨s', hrun, -⟩ := prepare_stops_on_failed_assembly (m := sampleMachine)
    (s := badTelemetryStart) (by decide) rfl hinst hw ha (e := badTelemetryError) (by decide +kernel)
  have hs' : s' = throughLogsRun.2 := by rw [throughLogsRun, hrun]
  refine ⟨s', hrun, by decide +kernel, ?_⟩
  rw [hs']
  decide +kernel

end Startup

end Preflight
