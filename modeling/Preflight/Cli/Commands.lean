import Preflight.Cli.Program
import Preflight.Cli.Show
import Preflight.Template.Sync
import Preflight.Telemetry

/-!
# What the commands do

`version` prints the program's version. `templates list` and `templates sync` first
install every shipped template bundle whose installed version differs; a failure of the
system while installing is printed as an error and gives status 1. Then `sync` names the
bundles updated, or says all are up to date, and `list` names every shipped bundle with its
installed version (`unknown` when it has none), or fails with status 1 when there is none.
Both record a telemetry event. `config show` prints the configuration and `completion` a
completion script.

A command sees the files and prints to the output and error streams; what it printed
before a failure stays printed.
-/

set_option autoImplicit false

namespace Preflight.Cli

/-- What a command sees and changes: the files and what it printed to each stream. -/
structure Console where
  /-- The files. -/
  tree : Files.Tree
  /-- What was printed to the output stream. -/
  out : String := ""
  /-- What was printed to the error stream. -/
  err : String := ""

/-- A command's work: it may fail, keeping what it did and printed before. -/
abbrev CommandM := ExceptT Failure (StateM Console)

/-- Prints a line to the output stream. -/
def say (line : String) : CommandM Unit :=
  modify fun c => { c with out := c.out ++ line ++ "\n" }

/-- Prints a line to the error stream. -/
def complain (line : String) : CommandM Unit :=
  modify fun c => { c with err := c.err ++ line ++ "\n" }

/-- Carries out an action on the files, keeping its changes when it fails. -/
def onFiles {α : Type} (a : Files.Action α) : CommandM α := do
  let c ← get
  let (r, t) := a.run c.tree
  set { c with tree := t }
  match r with
  | .ok v => pure v
  | .error f => throw f

/-- What a command runs with: the installation once known, the configuration, the
templates shipped with the program, and the time stamped on telemetry. -/
structure Context where
  /-- The installation directory, when the settings are known. -/
  install : Option Install
  /-- The configuration, when it was assembled. -/
  config : Option Config
  /-- The templates shipped with the program. -/
  shipped : Template.Source
  /-- The time stamped on telemetry records, in seconds since the epoch. -/
  clock : Float

/-- Prints the program's name and version. -/
def versionCommand : CommandM Nat := do
  say s!"{programName} v{cliVersion}"
  return 0

/-- The text shown for an installed version. -/
def versionShown (v : Value) : String := if v.truthy then v.text else "unknown"

/-- Installs outdated templates, then reports the updated ones (`sync`) or lists the
installed ones (otherwise). -/
def templatesCommand (ctx : Context) (sync : Bool) : CommandM Nat := do
  let (some inst, some c) := (ctx.install, ctx.config) | throw ⟨.broken, ""⟩
  let dir := inst.templateDir
  let before ← get
  let (r, t) := (Template.ensureTemplates ctx.shipped dir).run before.tree
  set { before with tree := t }
  match r with
  | .error f =>
    if f.kind.isSystem then
      complain s!"Error: failed to install check templates: {f.message}"
      return 1
    else throw f
  | .ok updated =>
    if sync then
      if updated.isEmpty then say "Check templates are up to date"
      for n in updated do say s!"Updated {n}"
      onFiles (Telemetry.record inst.logDir c ctx.clock
        { name := .str "templates.sync",
          payload := .dict [(.str "updated", .list (updated.map .str))] })
      return 0
    let installed ← onFiles (Template.installedVersions ctx.shipped dir)
    if installed.isEmpty then
      complain "No templates installed"
      return 1
    for (n, v) in installed do say s!"{n} (version {versionShown v})"
    onFiles (Telemetry.record inst.logDir c ctx.clock
      { name := .str "templates.list",
        payload := .dict [(.str "count", .int installed.length)] })
    return 0

/-- Prints the configuration. -/
def configShowCommand (ctx : Context) (json sources : Bool) : CommandM Nat := do
  let some c := ctx.config | throw ⟨.broken, ""⟩
  modify fun k => { k with out := k.out ++ showConfig c json sources }
  return 0

/-- Prints the completion script for a shell. -/
def completionCommand (shell : String) : CommandM Nat := do
  match completionScript shell with
  | some script =>
    modify fun k => { k with out := k.out ++ script }
    return 0
  | none => throw ⟨.missingKey, displayText shell⟩

/-- The work of a parsed command other than the service, which runs outside it. -/
def Invocation.work (inv : Invocation) (ctx : Context) : CommandM Nat :=
  match inv.handler with
  | .version => versionCommand
  | .templates => templatesCommand ctx (inv.ns.text? "templates_command" == some "sync")
  | .configShow => configShowCommand ctx (inv.ns.flag "json") (inv.ns.flag "sources")
  | .completion => completionCommand ((inv.ns.text? "shell").getD "bash")
  | .daemon => pure 0

end Preflight.Cli
