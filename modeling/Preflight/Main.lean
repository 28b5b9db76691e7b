import Preflight.Cli.Commands
import Preflight.Files.Changes
import Preflight.Startup
import Preflight.Template.Shipped
import Std.Time

/-!
# The command line

`checkpipe` parses its arguments; help, the version and errors of the command line are
printed at once. `completion` prints its script. Every other command is prepared, run and
finished as the startup sequence says, on a tree of the files it may touch: the files it
reaches by name are read from the disk before the run (the workspace's configuration
file, the saved token, the update state, the installed templates, the telemetry and the
day's log), and the changes the run made to them are written back after it. The templates
shipped with the program come from the program itself.

The update check finds the release index unreachable, and the address space is left as
it is: the shell has no network and no limits to set.
-/

set_option autoImplicit false

namespace Preflight.Launch

open Preflight.Cli

/-- Where the shipped templates sit in the tree of a run; nothing is written there. -/
def shippedRoot : String := "/usr/share/checkpipe/templates"

/-- The bytes of a file, if it can be read. -/
def readFile? (path : String) : IO (Option (List UInt8)) := do
  try
    return some (← IO.FS.readBinFile path).toList
  catch _ =>
    return none

/-- The process's environment, as far as the program reads it. -/
def readEnviron : IO Environ := do
  let mut vars : List (String × String) := []
  for name in Startup.variablesRead do
    if let some v ← IO.getEnv name then vars := vars ++ [(name, v)]
  return ⟨vars⟩

/-- The home directories: the current user's from `HOME`, the others' from the user
database. -/
def readHomes : IO Homes := do
  let own := (← IO.getEnv "HOME").getD "/"
  let db ← readFile? "/etc/passwd"
  let text := match db with
    | some bs => match Text.decodeUtf8 bs with
      | .ok s => s
      | .error _ => ""
    | none => ""
  return Homes.ofPasswd own text

/-- Microseconds since the start of 1970 in UTC, now. -/
def unixMicros : IO Int := do
  let t ← Std.Time.Timestamp.now
  return t.toNanosecondsSinceUnixEpoch.val / 1000

/-- The identifier of this run: eight random hexadecimal digits and the process number. -/
def executionId : IO String := do
  let bytes ← IO.getRandomBytes 4
  let hex := String.join (bytes.toList.map (fun b =>
    String.ofList [Nat.digitChar (b.toNat / 16), Nat.digitChar (b.toNat % 16)]))
  let stat ← readFile? "/proc/self/stat"
  let pid := match stat.map (fun bs => String.fromUTF8? (ByteArray.mk bs.toArray)) with
    | some (some s) => (s.splitOn " ").headD "0"
    | _ => "0"
  return hex ++ "-" ++ pid

/-- The tree of a run: the directories on the way to the working directory, the files
reached by name as they are on the disk, and the shipped templates. -/
def loadTree (cwd : String) (paths : List String) : IO Files.Tree := do
  let mut t := Files.Tree.atDir cwd
  for p in paths do
    if let some bs ← readFile? p then t := t.plant p (.file bs)
  for (p, text) in Template.shippedFiles do
    t := t.plant (Files.join shippedRoot p) (.file text.toUTF8.toList)
  return t

/-- Writes the changes from one tree to another to the disk, leaving the shipped
templates alone. -/
def writeBack (before after : Files.Tree) : IO Unit := do
  let shipped := Files.components shippedRoot
  for c in before.changesTo after (fun abs => !shipped.isPrefixOf abs) do
    try
      match c with
      | .makeDir p => IO.FS.createDirAll p
      | .write p bs => IO.FS.writeBinFile p (ByteArray.mk bs.toArray)
      | .removeFile p => IO.FS.removeFile p
      | .removeDir p => IO.FS.removeDirAll p
    catch _ => pure ()

/-- Prints what a failure that ends the program prints. -/
def reportFailure (f : Failure) : IO Unit :=
  IO.eprintln s!"{f.kind.name}: {f.message}"

/-- Sleeps for a number of seconds; without one, for ever. -/
partial def pause (seconds : Option Float) : IO Unit := do
  match seconds with
  | some s =>
    if s > 0 && s < 4.0e6 then IO.sleep (s * 1000).toUInt32
  | none =>
    IO.sleep 3600000
    pause none

/-- Runs the service until its time is up, logging to the error stream at the level the
environment asks for. -/
def serve (clock : Log.Clock) (env : Environ) (execution : String) (timeout : Option Float) :
    IO UInt32 := do
  let level := env.resolvedLevel.severity
  let say (msg : String) : IO Unit :=
    if level ≤ 20 then IO.eprint (Log.Logging.serviceLine clock execution 20 msg) else pure ()
  let pid := (execution.splitOn "-").getLastD "0"
  say s!"daemon started pid={pid}"
  pause timeout
  say "daemon stopped"
  return 0

/-- Runs a parsed command: prepares the run, runs the command and finishes the run. -/
def runCommand (inv : Invocation) (args : List String) : IO UInt32 := do
  let env ← readEnviron
  let homes ← readHomes
  let cwd := (← IO.currentDir).toString
  let started ← IO.monoNanosNow
  let micros ← unixMicros
  let now := Time.Moment.ofUnixMicros micros
  let clock := Log.Clock.ofMoment now
  let tty ← (← IO.getStdout).isTty
  let execution ← executionId
  let m : Startup.Machine := { homes, cwd, clock, now, execution }
  let installDir := inv.ns.text? "install_dir"
  let modLocation := inv.ns.text? "mod_location"
  let cmd : Config.Command := ⟨(inv.ns.text? "command").getD "", args, tty⟩
  let inst := (resolveInstall homes env installDir).toOption
  let ws := (Startup.workspace m env modLocation).toOption
  let before ← loadTree cwd
    (Startup.pathsReached inst ws env clock (Template.shippedFiles.map (·.1)))
  let (res, st) := ((Startup.prepare m installDir modLocation cmd).run).run
    { log := { tree := before }, env }
  IO.eprint st.stream
  IO.eprint st.log.stream
  let st := { st with stream := "", log := { st.log with stream := "" } }
  match res with
  | .error (.exit n) =>
    writeBack before st.log.tree
    return n.toUInt32
  | .error (.failure f) =>
    writeBack before st.log.tree
    reportFailure f
    return 1
  | .ok p =>
    let ctx : Context :=
      { install := p.install, config := p.config, shipped := ⟨shippedRoot, []⟩,
        clock := micros.toNat.toFloat / 1000000 }
    let (code, failed, st) ← match inv.handler with
      | .daemon => do
        let timeout := match inv.ns.lookup "timeout" with
          | some (.float x) => some x
          | _ => none
        pure ((← serve clock st.env execution timeout), none, st)
      | _ => do
        let work := inv.work ctx
        let (r, console) := (work.run).run { tree := st.log.tree }
        IO.print console.out
        IO.eprint console.err
        let st := { st with log := { st.log with tree := console.tree } }
        match r with
        | .ok n => pure (n.toUInt32, none, st)
        | .error f => pure (1, some f, st)
    let finished ← IO.monoNanosNow
    let duration := (finished - started).toFloat / 1000000
    let (_, st) := ((Startup.conclude m p code.toNat ctx.clock duration).run).run st
    IO.eprint st.stream
    IO.eprint st.log.stream
    writeBack before st.log.tree
    if let some f := failed then reportFailure f
    return code

end Preflight.Launch

/-- Runs the program on its command line. -/
def main (args : List String) : IO UInt32 := do
  match Preflight.Cli.parseCommandLine args with
  | .error s =>
    IO.print s.out
    IO.eprint s.err
    return s.status.toUInt32
  | .ok inv =>
    match inv.handler with
    | .completion =>
      match Preflight.Cli.completionScript ((inv.ns.text? "shell").getD "bash") with
      | some script =>
        IO.print script
        return 0
      | none => return 1
    | _ => Preflight.Launch.runCommand inv args
