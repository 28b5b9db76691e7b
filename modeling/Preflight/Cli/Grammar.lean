import Preflight.Value

/-!
# Command-line grammars

A grammar says which words a command line may hold: options, which start with a dash and
may take a value, positional arguments, and a choice of subcommands, each with a grammar of
its own for the words after it. Parsing a command line fills a namespace, a list of
attributes and their values, starting from each argument's default.

Every grammar knows its program name as shown in its messages (the parent's name followed
by the subcommand's) and whether its help text is laid out as written or refilled.
-/

set_option autoImplicit false

namespace Preflight.Cli

/-- How the text given to an option becomes its value. -/
inductive Reader where
  /-- The text itself. -/
  | text
  /-- A floating-point number, read as decimal text, `inf` or `nan` in any case. -/
  | real
  deriving DecidableEq

/-- What giving an option does. -/
inductive OptionKind where
  /-- Prints the grammar's help text and stops with status 0. -/
  | help
  /-- Prints a version text and stops with status 0. -/
  | version (text : String)
  /-- Sets its attribute to true; the attribute is false when the option is absent. -/
  | flag
  /-- Takes one value; the attribute is null when the option is absent. -/
  | value (reader : Reader)
  deriving DecidableEq

/-- An option: its spellings, the attribute it sets, what it does and its help text. -/
structure OptionSpec where
  /-- The spellings, first the one shown in usage lines. -/
  names : List String
  /-- The attribute set. -/
  dest : String
  /-- What giving it does. -/
  kind : OptionKind
  /-- The help text. -/
  help : Option String := none

/-- How many words a positional argument takes. -/
inductive Count where
  /-- Exactly one. -/
  | one
  /-- One if there is one to take, otherwise none and the default. -/
  | optional
  deriving DecidableEq

/-- A positional argument: its attribute, how many words it takes, the values allowed and
its default. -/
structure ArgumentSpec where
  /-- The attribute set. -/
  dest : String
  /-- How many words it takes. -/
  count : Count
  /-- The values allowed, when they are limited. -/
  choices : Option (List String) := none
  /-- The value when no word is given. -/
  default : Value := .null
  /-- The help text. -/
  help : Option String := none

/-- A grammar: the program name shown in its messages, a description, its options and
positional arguments, and its subcommands with their help texts. When there are
subcommands, one must be named after the positional arguments; the name goes into the
attribute `commandDest` and the rest of the line is parsed by that subcommand's grammar.
`defaults` are attributes set whatever the line holds. -/
structure Grammar where
  /-- The program name shown in usage lines and messages. -/
  prog : String
  /-- The text shown between the usage line and the arguments. -/
  description : Option String := none
  /-- Whether help texts keep their lines as written instead of being refilled. -/
  rawText : Bool := false
  /-- The options, in the order they are shown. -/
  options : List OptionSpec := []
  /-- The positional arguments, in the order they are taken. -/
  arguments : List ArgumentSpec := []
  /-- The attribute naming the subcommand chosen. -/
  commandDest : String := "command"
  /-- The subcommands: name, help text and grammar. -/
  commands : List (String × String × Grammar) := []
  /-- Attributes set whatever the line holds. -/
  defaults : List (String × Value) := []

/-- A parsed namespace: attributes and their values, each attribute once. -/
abbrev Namespace := List (String × Value)

/-- Sets an attribute, replacing its value if it is already there. -/
def Namespace.assign (ns : Namespace) (key : String) (v : Value) : Namespace :=
  if ns.any (·.1 == key) then ns.map (fun (k, w) => if k == key then (k, v) else (k, w))
  else ns ++ [(key, v)]

/-- One positional slot of a grammar: an argument, or the choice of subcommand. -/
inductive Slot where
  /-- A positional argument. -/
  | argument (a : ArgumentSpec)
  /-- The choice of subcommand, with the rest of the line. -/
  | commands
  deriving Inhabited

namespace Grammar

/-- The positional slots in the order they are taken. -/
def slots (g : Grammar) : List Slot :=
  g.arguments.map .argument ++ (if g.commands.isEmpty then [] else [.commands])

/-- The names of the subcommands. -/
def commandNames (g : Grammar) : List String := g.commands.map (·.1)

/-- The option with a spelling. -/
def findOption? (g : Grammar) (name : String) : Option OptionSpec :=
  g.options.find? (·.names.contains name)

/-- Every spelling of every option, in the order the options are given, with its option. -/
def spellings (g : Grammar) : List (String × OptionSpec) :=
  g.options.flatMap (fun o => o.names.map (fun n => (n, o)))

/-- The grammar of a subcommand. -/
def command? (g : Grammar) (name : String) : Option Grammar :=
  (g.commands.find? (·.1 == name)).map (·.2.2)

/-- The attributes and values a parse starts from: each option's and argument's default,
the subcommand attribute null, then the grammar's own defaults. -/
def initial (g : Grammar) : Namespace :=
  let fromOptions := g.options.filterMap (fun o =>
    match o.kind with
    | .help | .version _ => none
    | .flag => some (o.dest, Value.bool false)
    | .value _ => some (o.dest, Value.null))
  let fromArguments := g.arguments.map (fun a => (a.dest, a.default))
  let fromCommands := if g.commands.isEmpty then [] else [(g.commandDest, Value.null)]
  (fromOptions ++ fromArguments ++ fromCommands ++ g.defaults).foldl
    (fun ns (k, v) => if ns.any (·.1 == k) then ns else ns ++ [(k, v)]) []

end Grammar

/-- The standard help option, `-h` and `--help`. -/
def helpOption : OptionSpec :=
  { names := ["-h", "--help"], dest := "help", kind := .help,
    help := some "show this help message and exit" }

/-- The name of an option's attribute when it is not given: its first long spelling
without the dashes, or else its first spelling without the dash, with `-` read as `_`. -/
def destOf (names : List String) : String :=
  let long := names.find? (·.startsWith "--")
  let base := match long with
    | some n => String.ofList (n.toList.drop 2)
    | none => String.ofList ((names.headD "").toList.drop 1)
  base.map (fun c => if c == '-' then '_' else c)

end Preflight.Cli
