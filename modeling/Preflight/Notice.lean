import Preflight.Report

/-!
# Notices to the user

What the program tells the user on its error stream before a command runs: the deprecation
warnings that reading the settings gave, and, when the settings are unusable, the warnings
and the error followed by an exit with status 1.
-/

set_option autoImplicit false

namespace Preflight.Notice

/-- A word for a count: itself for exactly one, else with an `s` added. -/
def plural (word : String) (count : Int) : String :=
  if count == 1 then word else word ++ "s"

/-- The block of deprecation warnings: a heading after an empty line, then each warning
followed by an empty line; nothing when there is no warning. -/
def deprecations (warnings : List String) : String :=
  if warnings.isEmpty then ""
  else
    let heading := plural "warning" warnings.length
    s!"\nDeprecation {heading}:\n" ++
      String.join (warnings.map (fun w => w ++ "\n\n"))

/-- The exit status of a run whose settings failed. -/
def failureStatus : Nat := 1

/-- What a failed report prints before the program exits: each warning, then the error. -/
def failureText (warnings : List String) (error : String) : String :=
  String.join (warnings.map (fun w => s!"Warning: {w}\n")) ++ s!"Error: {error}\n"

/-- The text printed and the exit status, when a report carries an error. -/
def failure? (r : Report) : Option (String × Nat) :=
  r.error.map (fun e => (failureText r.warnings e, failureStatus))

/-- The commands that run as a background service and keep their own log. -/
def serviceCommands : List String := ["daemon"]

/-- Whether a command runs as a background service. -/
def isService (command : String) : Bool := serviceCommands.contains command

theorem plural_one (word : String) : plural word 1 = word := rfl

end Preflight.Notice
