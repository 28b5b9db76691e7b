import Preflight.Config.Layers
import Preflight.Yaml.Load
import Preflight.Schema
import Preflight.Install
import Preflight.Report
import Preflight.Text.Encoding
import Preflight.Text.Order

/-!
# Configuration files

Settings are read from YAML files: every regular file of the installation's `config`
directory whose name ends in `.yaml`, in order of path, then `checkpipe.yaml` in the
workspace, if it is a file. Later files override earlier ones.

A file must be a mapping with at most an `options` mapping, holding at most a `general`
mapping of known settings of known kinds; among several violations the one at the first
path (compared as lists of texts) is reported. Two settings have old names, which still
work with a warning; the new name wins when both are given. An empty document sets
nothing. The first file that cannot be read as YAML, or does not fit, stops the reading
with an error; the files read before it still count. Bytes that are not UTF-8 are a
failure of the whole reading.
-/

set_option autoImplicit false

namespace Preflight.Config

open Preflight.Yaml

/-- The name of the workspace's configuration file. -/
def workspaceFile : String := "checkpipe.yaml"

/-- The suffix of configuration files. -/
def configSuffix : String := ".yaml"

/-- Old setting names and the names that replace them. -/
def renamedSettings : List (String × String) :=
  [("max_memory_mb", "memory_max_mb"), ("check_updates", "update_check")]

/-- The settings a configuration file may give, each with its schema. -/
def generalFields : List (String × Schema) :=
  [("log_level", Schema.ofKind .string),
   ("update_check", Schema.ofKind .boolean),
   ("telemetry", Schema.ofKind .string),
   ("memory_max_mb", Schema.ofKind .integer),
   ("cloud_host", .mk [.string] [] [] false (some 1) none none none),
   ("cloud_token", Schema.ofKind .string),
   ("max_memory_mb", Schema.ofKind .integer),
   ("check_updates", Schema.ofKind .boolean)]

/-- The schema of a configuration file. -/
def fileSchema : Schema :=
  Schema.closedObject [("options", Schema.closedObject [("general", Schema.closedObject generalFields)])]

/-- The configuration files in the order they are read. -/
def configFiles (fs : Files.Tree) (inst : Install) (workspace : Option String) : List String :=
  let dir := inst.configDir
  let fromDir :=
    if fs.isDir dir then
      let names := match fs.list dir with
        | .ok ns => ns
        | .error _ => []
      (names.map (Files.join dir)).filter (fun p => fs.isFile p && Files.suffix (Files.baseName p) == configSuffix)
    else []
  let fromWorkspace := match workspace with
    | some w =>
      let p := Files.join w workspaceFile
      if fs.isFile p then [p] else []
    | none => []
  fromDir ++ fromWorkspace

/-- What reading the configuration files gave: the settings and the files they came from. -/
structure Loaded where
  /-- The settings, later files overriding earlier ones. -/
  options : Table := {}
  /-- The files read, in order. -/
  sources : List String := []

/-- The first violation of a document, by path. -/
def firstViolation (vs : List Violation) : Option Violation :=
  let keyed := vs.map (fun v => (v.path.map keyText, v))
  let sorted := keyed.mergeSort (fun a b => Text.textsLe a.1 b.1)
  (sorted.head?).map (·.2)

/-- Takes the settings of a document that fits the schema, renaming old names with a
warning. -/
def generalSettings (path : String) (doc : Value) (r : Report) : Table × Report :=
  let general := match doc.field? "options" with
    | some opts => match opts.field? "general" with
      | some (.dict es) => es
      | _ => []
    | none => []
  let table : Table := general.foldl (fun t e => match e.1 with
    | .str k => t.putText k e.2
    | _ => t) {}
  renamedSettings.foldl (fun (acc : Table × Report) (old, new) =>
    let (t, r) := acc
    match t.find? (.str old) with
    | some v =>
      let r := r.addWarning s!"{path}: option '{old}' is deprecated - use '{new}'"
      let t := t.remove (.str old)
      (if t.has (.str new) then t else t.putText new v, r)
    | none => (t, r)) (table, r)

/-- Reads one configuration file: its settings, a configuration error, or a failure of the
whole reading. -/
def readFile (fs : Files.Tree) (path : String) (r : Report) :
    Except Failure (Except String (Table × Report)) := do
  let bytes ← match fs.read path with
    | .ok bs => pure bs
    | .error f => return .error s!"failed to read config file {path}: {f.toFailure.message}"
  let text ← match Text.readText bytes with
    | .ok t => pure t
    | .error f => throw ⟨.undecodable, f.message⟩
  let doc? ← match loadDocument text with
    | .ok d => pure d
    | .error (.malformed m) => return .error s!"failed to parse config file {path}: {m}"
    | .error (.failed f) => throw f
  let some doc := doc? | return .ok ({}, r)
  if doc.value matches .null then return .ok ({}, r)
  match firstViolation (fileSchema.violations ⟨doc.valueAt, doc.field?⟩ doc.root) with
  | some v =>
    let location := if v.path.isEmpty then "<root>" else "/".intercalate (v.path.map keyText)
    return .error s!"invalid config file {path}: {location}: {v.message}"
  | none => return .ok (generalSettings path doc.value r)

/-- Reads the configuration files in order, stopping at the first error. -/
def loadFiles (fs : Files.Tree) (inst : Install) (workspace : Option String) :
    Except Failure (Loaded × Report) :=
  (configFiles fs inst workspace).foldlM (fun (acc : Loaded × Report) path => do
    let (loaded, r) := acc
    if r.failed then return acc
    match ← readFile fs path r with
    | .error e => return (loaded, r.withError e)
    | .ok (t, r') => return ({ options := loaded.options.putAll t, sources := loaded.sources ++ [path] }, r'))
    ({}, {})

end Preflight.Config
