import Preflight.Config.Assemble
import Preflight.Files.Action
import Preflight.Json.Write
import Preflight.Schema

/-!
# Telemetry records

When telemetry is on, the program appends one record per event to `telemetry.jsonl` in
the log directory: a line holding an object with the time, the event's name, its payload
(an empty object when none is given), its level and, when given, its status, the run's
identifier and its duration in milliseconds. A status or identifier that is empty is left
out.

Before it is written a record is checked against the record schema, and the first
violation, in the schema's order, is the failure.
-/

set_option autoImplicit false

namespace Preflight.Telemetry

open Files (Action)

/-- The name of the telemetry file in the log directory. -/
def fileName : String := "telemetry.jsonl"

/-- The schema of a record. -/
def recordSchema : Schema :=
  .mk [.object] ["ts", "event", "payload", "level"]
    [("ts", Schema.ofKind .number),
     ("event", .mk [.string] [] [] false (some 1) (some showsNonBlank) none none),
     ("payload", Schema.ofKind .object),
     ("level", .mk [] [] [] false none none (some [.str "info", .str "warn", .str "error"]) none),
     ("status", Schema.ofKind .string),
     ("executionId", Schema.ofKind .string),
     ("durationMs", .mk [.number] [] [] false none none none (some 0))]
    true none none none none

/-- An event to record, with its fields as given. -/
structure Event where
  /-- The event's name. -/
  name : Value
  /-- The payload; an empty one becomes an empty object. -/
  payload : Value := .null
  /-- The level. -/
  level : Value := .str "info"
  /-- The status; an empty one is left out. -/
  status : Value := .null
  /-- The identifier of the run; an empty one is left out. -/
  executionId : Value := .null
  /-- The duration in milliseconds, when given. -/
  durationMs : Option Value := none

/-- The record of an event at a time (seconds since the epoch). -/
def Event.record (e : Event) (ts : Float) : Value :=
  let base : List (Value × Value) :=
    [(.str "ts", .float ts), (.str "event", e.name),
     (.str "payload", if e.payload.truthy then e.payload else .dict []), (.str "level", e.level)]
  let status := if e.status.truthy then [(.str "status", e.status)] else []
  let ident := if e.executionId.truthy then [(.str "executionId", e.executionId)] else []
  let duration := match e.durationMs with
    | some .null | none => []
    | some d => [(.str "durationMs", d)]
  .dict (base ++ status ++ ident ++ duration)

/-- Records an event at a time in the log directory, when the configuration has telemetry
on. -/
def record (logDir : String) (c : Config) (ts : Float) (e : Event) : Action Unit := do
  if !c.telemetryOn then return
  let r := e.record ts
  match (recordSchema.violationsOf r).head? with
  | some v => throw ⟨.invalidDocument, v.message⟩
  | none =>
    let path := Files.join logDir fileName
    Action.makeDirs (Files.Tree.parentText path) true true
    Action.write path ((Json.write .line r ++ "\n").toUTF8.toList) true

end Preflight.Telemetry
