import Preflight.Files.Action
import Preflight.Install
import Preflight.Log.Daily
import Preflight.Log.Level

/-!
# The program's log and where it goes

Records of the program's log are written by named loggers. The loggers form a tree under
`checkpipe`, the program's own logger; other names belong to other parts of the process.
A record is written when its severity reaches the level that applies to its logger: the
program's logger's level once it is set, the process-wide `WARNING` otherwise. It goes to
the handler of the program's logger, if that has one, and otherwise on to the process-wide
handlers. When no handler takes it at all, a record of severity `WARNING` or more is
written bare to the error stream.

Until the log directory is known, the program's handler writes into a buffer held by a log
sink. Attaching the sink to a directory makes the directory, opens the day's log file for
appending, moves the buffered lines into it and gives the sink a fresh buffer; only the
sink changes, so the logger keeps writing where it wrote until it is set up again. Setting
up the logger gives it the sink's current handler, its level and a line format naming the
run, and writes a banner the first time for each sink.
-/

set_option autoImplicit false

namespace Preflight.Log

open Preflight.Time
open Files (Action)

/-- The name of the program's own logger. -/
def programLogger : String := "checkpipe"

/-- The level of the process-wide logger. -/
def processLevel : Nat := 30

/-- The least severity written to the error stream when no handler takes a record. -/
def lastResortLevel : Nat := 30

/-- The severities of records by name. -/
def severities : List (String × Nat) :=
  [("trace", 5), ("debug", 10), ("info", 20), ("warning", 30), ("error", 40), ("critical", 50)]

/-- The label of a severity in a log line. -/
def severityLabel (n : Nat) : String :=
  match n with
  | 5 => "TRACE"
  | 10 => "DEBUG"
  | 20 => "INFO"
  | 30 => "WARNING"
  | 40 => "ERROR"
  | 50 => "CRITICAL"
  | _ => s!"Level {n}"

/-- The severity a level name sets for the program's logger: that of a known level,
otherwise that of the standard level. -/
def levelSeverity (name : String) : Nat :=
  ((LogLevel.ofName? name).getD LogLevel.standard).severity

/-- Where a handler writes. -/
inductive Target where
  /-- A buffer, by number. -/
  | buffer (id : Nat)
  /-- A file, appended to. -/
  | file (path : String)
  deriving DecidableEq

/-- A handler of the program's logger: where it writes and the run its lines name. -/
structure Handler where
  /-- Where lines go. -/
  target : Target
  /-- The run named in each line. -/
  execution : String

/-- A log sink: its buffer, the log file once attached, and whether its banner was written. -/
structure Sink where
  /-- The number of the sink's buffer. -/
  buffer : Nat
  /-- The log file, once attached. -/
  logFile : Option String := none
  /-- Whether the banner was written through this sink. -/
  bannerWritten : Bool := false

/-- Where the sink's handler writes now. -/
def Sink.target (s : Sink) : Target :=
  match s.logFile with
  | some p => .file p
  | none => .buffer s.buffer

/-- The log of a process: the files, the buffers, the current sink, the program's logger
and the error stream. -/
structure Logging where
  /-- The files. -/
  tree : Files.Tree
  /-- The contents of the buffers, by number. -/
  buffers : List (Nat × String) := [(0, "")]
  /-- The current sink. -/
  sink : Sink := { buffer := 0 }
  /-- The number of the next new buffer. -/
  nextBuffer : Nat := 1
  /-- The handler of the program's logger, once set up. -/
  handler : Option Handler := none
  /-- The level of the program's logger; 0 until it is set. -/
  level : Nat := 0
  /-- Whether the program's logger passes records on to the process-wide handlers. -/
  propagate : Bool := true
  /-- What was written to the error stream. -/
  stream : String := ""

/-- The time of the log: the UTC date and the text of the time stamped on each line. -/
structure Clock where
  /-- Today, in UTC. -/
  today : Date
  /-- The time stamped on lines, `YYYY-MM-DD HH:MM:SS.mmm`. -/
  stamp : String

/-- The clock of the log at a moment: its UTC date, and its time to the millisecond. -/
def Clock.ofMoment (t : Moment) : Clock :=
  let u := t.toUTC
  ⟨u.date, s!"{u.date.iso} {padNat 2 u.hour}:{padNat 2 u.minute}:{padNat 2 u.second}." ++
    padNat 3 (u.micro / 1000)⟩

/-- An action on the log that may fail, keeping the changes made before a failure. -/
abbrev LogM := ExceptT Failure (StateM Logging)

namespace Logging

/-- The contents of a buffer. -/
def bufferText (l : Logging) (id : Nat) : String :=
  (l.buffers.lookup id).getD ""

/-- Writes a line to a target. A file that cannot be written to takes nothing. -/
def writeTo (l : Logging) (t : Target) (text : String) : Logging :=
  match t with
  | .buffer id =>
    { l with buffers := l.buffers.map (fun (k, s) => if k == id then (k, s ++ text) else (k, s)) }
  | .file p =>
    match l.tree.write p text.toUTF8.toList true with
    | .ok t' => { l with tree := t' }
    | .error _ => l

/-- Whether a logger name is the program's logger or below it. -/
def ownLogger (name : String) : Bool :=
  name == programLogger || name.startsWith (programLogger ++ ".")

/-- The line a handler writes for a record. -/
def line (clock : Clock) (h : Handler) (severity : Nat) (msg : String) : String :=
  s!"{clock.stamp} UTC [{severityLabel severity}] {programLogger} [{h.execution}]: {msg}\n"

/-- Writes a record of a severity through a named logger. -/
def emit (l : Logging) (clock : Clock) (logger : String) (severity : Nat) (msg : String) :
    Logging :=
  let own := ownLogger logger
  let level := if own && l.level != 0 then l.level else processLevel
  if severity < level then l
  else
    match (if own then l.handler else none) with
    | some h => l.writeTo h.target (line clock h severity msg)
    | none =>
      if severity ≥ lastResortLevel then { l with stream := l.stream ++ msg ++ "\n" } else l

/-- The line the service's own log writes to the error stream for a record: the time to
the second, the severity, and the run. -/
def serviceLine (clock : Clock) (execution : String) (severity : Nat) (msg : String) : String :=
  let time := String.ofList (clock.stamp.toList.take 19)
  let label := severityLabel severity
  s!"{time} [{label}] {programLogger} daemon [{execution}]: {msg}\n"

/-- Centres a text in a field of a width, the odd space going to the right. -/
def centred (s : String) (width : Nat) : String :=
  let pad := width - s.length
  let left := pad / 2
  String.ofList (List.replicate left ' ') ++ s ++ String.ofList (List.replicate (pad - left) ' ')

/-- The lines of the banner of a run at a log level. -/
def banner (clock : Clock) (level execution : String) : List String :=
  let rule := String.ofList (List.replicate 56 '*')
  [rule, "**" ++ centred s!"{programLogger} [{execution}]" 52 ++ "**", rule,
   s!"Version:   v{cliVersion}", s!"Log level: {level}", s!"Log date: {clock.today.dayStamp}"]

/-- Sets up the program's logger on the current sink at a level, naming a run, and writes
the banner if this sink has not written it. The result is the logger's severity level. -/
def configure (l : Logging) (clock : Clock) (level execution : String) : Logging × Nat :=
  let sev := levelSeverity level
  let l := { l with handler := some ⟨l.sink.target, execution⟩, level := sev, propagate := false }
  if l.sink.bannerWritten then (l, sev)
  else
    let l := (banner clock level execution).foldl
      (fun acc text => acc.emit clock programLogger 20 text) l
    ({ l with sink := { l.sink with bannerWritten := true } }, sev)

/-- Starts a new sink with an empty buffer; the logger keeps its handler. -/
def newSink (l : Logging) : Logging :=
  let sink : Sink := { buffer := l.nextBuffer }
  let buffers := l.buffers ++ [(l.nextBuffer, "")]
  { l with buffers, sink, nextBuffer := l.nextBuffer + 1 }

/-- The text buffered by the current sink. -/
def buffered (l : Logging) : String := l.bufferText l.sink.buffer

end Logging

/-- Attaches the current sink to a log directory: makes the directory, opens the day's log
file, moves the buffered text into it and starts a fresh buffer. An attached sink keeps its
file. The result is the log file. -/
def attach (clock : Clock) (dir : String) : LogM String := do
  let l ← get
  if let some p := l.sink.logFile then return p
  let act : Action String := do
    Action.makeDirs dir true true
    let path := Files.join dir (fileName clock.today)
    Action.write path (l.buffered.toUTF8.toList) true
    return path
  match act.run l.tree with
  | (.error f, t) =>
    set { l with tree := t }
    throw f
  | (.ok path, t) =>
    let fresh := l.nextBuffer
    let sink : Sink := { l.sink with buffer := fresh, logFile := some path }
    set { l with tree := t, buffers := l.buffers ++ [(fresh, "")], nextBuffer := fresh + 1, sink }
    return path

end Preflight.Log
