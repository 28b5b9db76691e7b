import Preflight.Files.Action
import Preflight.Time.Civil
import Preflight.Text.Digit

/-!
# Daily log files

The program writes one log file a day, named `checkpipe-YYYY-MM-DD.log` after the UTC date.
Old log files are pruned: every entry of the log directory whose name has that shape and
whose date lies more than seven days before today is removed, in the order of the names.
A name whose date cannot be read is kept. Before each such name the pruning looks whether it
was cancelled, and stops there if it was.

Dates are read as the C library's `%Y-%m-%d` pattern reads them: four decimal digits of any
script for the year, a month of one or two digits and a day of one or two digits (a blank
may stand for a leading zero of the day), and nothing after the day.
-/

set_option autoImplicit false

namespace Preflight.Log

open Preflight.Time
open Files (Action)

/-- The start of every log file name. -/
def filePrefix : String := "checkpipe-"

/-- The end of every log file name. -/
def fileSuffix : String := ".log"

/-- How many days a log file is kept after its date. -/
def retentionDays : Nat := 7

/-- The name of the log file of a day. -/
def fileName (d : Date) : String := filePrefix ++ d.dayStamp ++ fileSuffix

/-- Whether a character is an ASCII digit from `lo` to `hi`. -/
def digitIn (lo hi : Char) (c : Char) : Bool := lo ≤ c && c ≤ hi

/-- The value of an ASCII digit. -/
def asciiValue (c : Char) : Nat := c.toNat - '0'.toNat

/-- Reads the month at the head of the text, followed by a dash: the month and what follows
the dash. -/
def readMonth : List Char → Option (Nat × List Char)
  | '1' :: b :: '-' :: rest => if digitIn '0' '2' b then some (10 + asciiValue b, rest) else none
  | '0' :: b :: '-' :: rest => if digitIn '1' '9' b then some (asciiValue b, rest) else none
  | a :: '-' :: rest => if digitIn '1' '9' a then some (asciiValue a, rest) else none
  | _ => none

/-- Reads the day, which must end the text. -/
def readDayOfMonth : List Char → Option Nat
  | ['3', b] => if digitIn '0' '1' b then some (30 + asciiValue b) else none
  | [a, b] =>
    if digitIn '1' '2' a then (Text.digitValue? b).map (fun v => 10 * asciiValue a + v)
    else if a == '0' && digitIn '1' '9' b then some (asciiValue b)
    else if a == ' ' && digitIn '1' '9' b then some (asciiValue b)
    else none
  | [a] => if digitIn '1' '9' a then some (asciiValue a) else none
  | _ => none

/-- Reads a date written `%Y-%m-%d`. -/
def readDay (s : String) : Option Date := do
  let cs := s.toList
  let ys ← (cs.take 4).mapM Text.digitValue?
  if ys.length != 4 then none
  let year := ys.foldl (fun n d => 10 * n + d) 0
  let rest ← match cs.drop 4 with
    | '-' :: rest => some rest
    | _ => none
  let (month, rest) ← readMonth rest
  let day ← readDayOfMonth rest
  match Date.make year month day with
  | .ok d => some d
  | .error _ => none

/-- Whether a name has the shape of a log file name. -/
def isLogName (name : String) : Bool :=
  name.startsWith filePrefix && name.endsWith fileSuffix &&
    name.length ≥ filePrefix.length + fileSuffix.length

/-- The date in a log file name, if it can be read. -/
def dayOfName (name : String) : Option Date :=
  readDay (String.ofList ((name.toList.drop filePrefix.length).take
    (name.length - filePrefix.length - fileSuffix.length)))

/-- Whether a log file of a day has outlived its retention on `today`. -/
def expired (today day : Date) : Bool :=
  (today.ordinal : Int) - day.ordinal > retentionDays

/-- Whether a name is that of a log file whose day has outlived its retention on `today`. -/
def expiredName (today : Date) (name : String) : Bool :=
  match dayOfName name with
  | some d => expired today d
  | none => false

/-- Removes the expired log files among `names` of a directory, in order, up to the first
name at which the pruning finds itself cancelled: `cancelledAt i` says whether it is when it
comes to the `i`-th name. The result names the files removed. -/
def pruneNames (dir : String) (today : Date) (cancelledAt : Nat → Bool) :
    List String → Action (List String)
  | [] => return []
  | name :: rest => do
    if cancelledAt 0 then return []
    let here ← if expiredName today name then do
        Action.unlink (Files.join dir name)
        pure [name]
      else pure []
    return here ++ (← pruneNames dir today (fun i => cancelledAt (i + 1)) rest)

/-- Removes the expired log files of a directory and names them, in order of their names,
looking before each log file name whether the pruning was cancelled (`cancelledAt i` for the
`i`-th). Nothing is removed when the directory is missing. -/
def pruneWatching (dir : String) (today : Date) (cancelledAt : Nat → Bool) :
    Action (List String) := do
  if !(← Action.isDir dir) then return []
  let names := (← Action.list dir).filter isLogName
  pruneNames dir today cancelledAt names

/-- Prunes a directory with a cancellation that does not change while the pruning runs. -/
def prune (dir : String) (today : Date) (cancelled : Bool) : Action (List String) :=
  pruneWatching dir today (fun _ => cancelled)

end Preflight.Log
