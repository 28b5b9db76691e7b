import Preflight.Files.Action
import Preflight.Install
import Preflight.Json.Read
import Preflight.Json.Write
import Preflight.Time.Iso
import Preflight.Version

/-!
# Checking for a newer release

At most once a day the program asks the package index for its releases and tells the user
when one is newer than the running version. What the last check found is kept in a state
file in the installation's internal directory: when it ran, the newest version it saw and
whether it succeeded.

A state file that is missing, unreadable, malformed or not an object is an empty state; a
time that cannot be read is no time, and a time without offset is UTC. A check is due when
no time is known or a day has passed since it. The newest release is the greatest version
among the releases that have files, leaving out pre-releases and development releases.
-/

set_option autoImplicit false

namespace Preflight.Update

open Preflight.Time
open Files (Action)

/-- The name of the state file. -/
def stateFileName : String := "update-check.json"

/-- How long a check is trusted, in microseconds: one day. -/
def checkInterval : Int := 24 * 3600 * 1000000

/-- What the last check found. The version and status are kept as the file holds them. -/
structure State where
  /-- When the last check ran. -/
  lastChecked : Option Moment := none
  /-- The newest version the last check saw. -/
  latestVersion : Value := .null
  /-- Whether the last check succeeded. -/
  status : Value := .null

namespace State

/-- The state a read document describes. -/
def ofDocument (v : Value) : State :=
  match v with
  | .dict es =>
    let field (k : String) : Value := (Entries.get? es (.str k)).getD .null
    let lastChecked := match field "last_checked" with
      | .str s => (Iso.parseMoment s).map Moment.assumeUTC
      | .codeStr ps => (Iso.parsePoints ps).map Moment.assumeUTC
      | _ => none
    { lastChecked, latestVersion := field "latest_version", status := field "status" }
  | _ => {}

/-- The state as a document. -/
def toValue (s : State) : Value :=
  .dict [(.str "last_checked", s.lastChecked.elim .null (fun t => .str t.iso)),
    (.str "latest_version", s.latestVersion), (.str "status", s.status)]

/-- The text a state is stored as. -/
def text (s : State) : String := Json.write .indented s.toValue ++ "\n"

/-- Whether a check is due at `now`. -/
def due (s : State) (now : Moment) : Bool :=
  match s.lastChecked with
  | none => true
  | some t => now.instant - t.instant ≥ checkInterval

end State

/-- The state file of an installation. -/
def statePath (inst : Install) : String := Files.join inst.internalDir stateFileName

/-- Reads the state file. Only bytes that are not UTF-8 text fail. -/
def loadState (path : String) : Action State := do
  if !(← Action.exists? path) then return {}
  match (← get).read path with
  | .error _ => return {}
  | .ok bs =>
    match Text.readText bs with
    | .error f => throw ⟨.undecodable, f.message⟩
    | .ok text =>
      match Json.parse text with
      | .ok v => return State.ofDocument v
      | .error (.malformed _) => return {}
      | .error e => throw e.toFailure

/-- Writes the state file, making its directory. -/
def storeState (path : String) (s : State) : Action Unit := do
  Action.makeDirs (Files.Tree.parentText path) true true
  Action.write path (s.text.toUTF8.toList)

/-- The newest release named by an index answer, if it is a document. An answer that is not
an object, or whose `releases` is not an object, is a failure, and so is a release name
with a number too long to read. -/
def latestRelease (body : String) : Except Failure (Option String) :=
  match Json.parse body with
  | .error (.malformed _) => .ok none
  | .error e => .error e.toFailure
  | .ok (.dict es) =>
    match (Entries.get? es (.str "releases")).getD (.dict []) with
    | .dict rs =>
      let names := rs.filterMap (fun (k, files) =>
        match k with
        | .str s => if files.truthy then some s else none
        | _ => none)
      (names.mapM Version.read).map fun read =>
        let versions := (read.filterMap id).filter (fun v => !v.isPrerelease)
        (Version.greatest? versions).map Version.toText
    | other =>
      let kind := other.kindName
      .error ⟨.missingAttribute, s!"'{kind}' object has no attribute 'items'"⟩
  | .ok other =>
    let kind := other.kindName
    .error ⟨.missingAttribute, s!"'{kind}' object has no attribute 'get'"⟩

/-- The notice of a newer release. -/
def notice (current latest : String) : String :=
  s!"\nA new version of checkpipe is available! {current} -> {latest}\n" ++
    "You can update by running: pip install --upgrade checkpipe\n\n"

/-- Why a check does not look for a newer release. -/
structure Circumstances where
  /-- The program runs from a source checkout, where checks are skipped. -/
  inCheckout : Bool := false
  /-- The check was cancelled while the index was asked. -/
  cancelledDuringFetch : Bool := false

/-- Checks for a newer release than `current` at `now`, given the index's answer (none when
it could not be reached). When a check is due and not cancelled, its finding is stored,
the time in UTC. The result is the newer release, if there is one, and the notice shown
(only when `notify` is set). -/
def check (inst : Install) (now : Moment) (current : String) (notify : Bool)
    (answer : Option String) (how : Circumstances := {}) : Action (Option String × String) := do
  if how.inCheckout then return (none, "")
  let path := statePath inst
  let state ← loadState path
  let now := now.toUTC
  if !state.due now then return (none, "")
  let remote ← match answer with
    | none => pure none
    | some body =>
      match latestRelease body with
      | .ok r => pure r
      | .error f => throw f
  if how.cancelledDuringFetch then return (none, "")
  storeState path { lastChecked := some now, latestVersion := remote.elim .null .str,
                    status := .str (if remote.isSome then "ok" else "error") }
  match remote with
  | none => return (none, "")
  | some r =>
    let c? ← MonadExcept.ofExcept (Version.read current)
    let v? ← MonadExcept.ofExcept (Version.read r)
    match c?, v? with
    | some c, some v =>
      if v.le c then return (none, "")
      else return (some r, if notify then notice current r else "")
    | _, _ => return (none, "")

end Preflight.Update
