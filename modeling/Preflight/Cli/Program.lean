import Preflight.Cli.Parse
import Preflight.Install
import Preflight.Text.Order

/-!
# The program's command line

`checkpipe [--install-dir DIR] [--mod-location DIR] COMMAND ...` with the commands
`completion [bash|zsh]`, `templates list|sync`, `config show [--json] [--sources]`,
`version` and `daemon [--timeout SECONDS]`. Each command line that parses names the
handler that runs it in the attribute `func`.

The top-level help text is laid out as written, with an overview of the housekeeping
commands; the commands' own help texts are refilled.
-/

set_option autoImplicit false

namespace Preflight.Cli

/-- The handlers commands run. -/
inductive Handler where
  /-- Prints a shell completion script. -/
  | completion
  /-- Installs outdated templates and lists or reports them. -/
  | templates
  /-- Prints the effective configuration. -/
  | configShow
  /-- Prints the version. -/
  | version
  /-- Runs as a background service. -/
  | daemon
  deriving DecidableEq, Repr

namespace Handler

/-- Every handler. -/
def all : List Handler := [.completion, .templates, .configShow, .version, .daemon]

/-- The key naming a handler in a parsed namespace. -/
def key : Handler → String
  | .completion => "completion"
  | .templates => "templates"
  | .configShow => "config show"
  | .version => "version"
  | .daemon => "daemon"

/-- The handler a key names. -/
def ofKey? (k : String) : Option Handler := all.find? (·.key == k)

theorem ofKey?_key (h : Handler) : ofKey? h.key = some h := by
  cases h <;> rfl

end Handler

/-- The attribute naming the handler of a command. -/
def handlerAttribute : String := "func"

/-- A grammar's defaults naming its handler. -/
def runs (h : Handler) : List (String × Value) := [(handlerAttribute, .str h.key)]

/-- The shells completion scripts are written for. -/
def shells : List String := ["bash", "zsh"]

/-- The overview shown in the top-level help text. -/
def overview : String :=
  "\nHousekeeping:\n" ++
  "  - checkpipe templates list   - install outdated check templates and list them\n" ++
  "  - checkpipe config show      - print the effective configuration\n" ++
  "  - checkpipe completion bash  - print a shell completion script\n\n" ++
  "Configuration is read from <install-dir>/config/*.yaml and\n" ++
  "<mod-location>/checkpipe.yaml; CHECKPIPE_* environment variables win.\n"

/-- A command's grammar with only the help option. -/
def leaf (prog : String) (h : Handler) (options : List OptionSpec := [])
    (arguments : List ArgumentSpec := []) : Grammar :=
  { prog, options := helpOption :: options, arguments, defaults := runs h }

/-- The grammar of the program's command line. -/
def program : Grammar :=
  let prog := programName
  let templates : Grammar :=
    { prog := prog ++ " templates", options := [helpOption],
      commandDest := "templates_command",
      commands := [
        ("list", "Install outdated templates and list them",
          leaf (prog ++ " templates list") .templates),
        ("sync", "Install outdated templates", leaf (prog ++ " templates sync") .templates)] }
  let config : Grammar :=
    { prog := prog ++ " config", options := [helpOption],
      commandDest := "config_command",
      commands := [
        ("show", "Print the effective configuration",
          leaf (prog ++ " config show") .configShow
            [{ names := ["--json"], dest := "json", kind := .flag,
               help := some "Emit JSON instead of YAML" },
             { names := ["--sources"], dest := "sources", kind := .flag,
               help := some "Include the layer each value came from" }])] }
  { prog, description := some overview, rawText := true,
    options := [helpOption,
      { names := ["--version"], dest := "version", kind := .version s!"{prog} {cliVersion}",
        help := some "show program's version number and exit" },
      { names := ["--install-dir"], dest := "install_dir", kind := .value .text,
        help := some "Install directory (default: $CHECKPIPE_INSTALL_DIR or ~/.checkpipe)" },
      { names := ["--mod-location"], dest := "mod_location", kind := .value .text,
        help := some "Workspace directory (default: current directory)" }],
    commandDest := "command",
    commands := [
      ("completion", "Print a shell completion script",
        leaf (prog ++ " completion") .completion []
          [{ dest := "shell", count := .optional, choices := some shells,
             default := .str "bash" }]),
      ("templates", "Manage check output templates", templates),
      ("config", "Inspect configuration", config),
      ("version", "Print the checkpipe version", leaf (prog ++ " version") .version),
      ("daemon", "Run as a long-lived background service",
        leaf (prog ++ " daemon") .daemon
          [{ names := ["--timeout"], dest := "timeout", kind := .value .real,
             help := some "Stop after this many seconds" }])] }

/-- The commands of the program, sorted. -/
def commandList : List String :=
  program.commandNames.mergeSort Text.textLe

/-- The completion script for a shell, offering the program's commands. -/
def completionScript (shell : String) : Option String :=
  let commands := " ".intercalate commandList
  let prog := programName
  if shell == "bash" then
    some (s!"_{prog}_completion() \x7b\n" ++
      "    local cur=\"$\x7bCOMP_WORDS[COMP_CWORD]\x7d\"\n" ++
      "    if [ \"$COMP_CWORD\" -eq 1 ]; then\n" ++
      s!"        COMPREPLY=( $(compgen -W \"{commands}\" -- \"$cur\") )\n" ++
      "    fi\n" ++
      "\x7d\n" ++
      s!"complete -F _{prog}_completion {prog}\n")
  else if shell == "zsh" then
    some (s!"#compdef {prog}\n" ++
      s!"_arguments '1: :({commands})' '*:: :_files'\n")
  else none

/-- What a parsed command line asks for: the handler and the namespace. -/
structure Invocation where
  /-- The handler to run. -/
  handler : Handler
  /-- The parsed attributes. -/
  ns : Namespace

/-- A text attribute of a namespace. -/
def Namespace.text? (ns : Namespace) (key : String) : Option String :=
  match ns.lookup key with
  | some (.str s) => some s
  | _ => none

/-- A truth attribute of a namespace. -/
def Namespace.flag (ns : Namespace) (key : String) : Bool :=
  match ns.lookup key with
  | some (.bool b) => b
  | _ => false

/-- Parses the program's command line. -/
def parseCommandLine (args : List String) : Except Stop Invocation := do
  let ns ← program.parse args
  match (ns.text? handlerAttribute).bind Handler.ofKey? with
  | some h => return ⟨h, ns⟩
  | none => throw (program.failure "no command")

end Preflight.Cli
