import Preflight.Files

/-!
# Actions on files

An action reads and changes a tree of files and may fail. A failure stops the action, and
the changes made before it stay: a copy that fails half way leaves the files it wrote.
-/

set_option autoImplicit false

namespace Preflight.Files

/-- An action on a tree of files that may fail, keeping the changes made before a
failure. -/
abbrev Action := ExceptT Failure (StateM Tree)

namespace Action

/-- Runs an action on a tree: its outcome and the tree afterwards. -/
def run {α : Type} (a : Action α) (t : Tree) : Except Failure α × Tree :=
  StateT.run (ExceptT.run a) t

/-- Takes the outcome of a tree operation, failing with its fault. -/
def lift {α : Type} (r : Except Fault α) : Action α :=
  match r with
  | .ok x => pure x
  | .error f => throw f.toFailure

/-- The bytes of a file. -/
def read (p : String) : Action (List UInt8) := do
  lift ((← get).read p)

/-- Writes a file, or appends to it. -/
def write (p : String) (bytes : List UInt8) (append : Bool := false) : Action Unit := do
  set (← lift ((← get).write p bytes append))

/-- Makes a directory, with the missing ones on the way when `parents` is set. -/
def makeDirs (p : String) (parents existOk : Bool) : Action Unit := do
  set (← lift ((← get).makeDirs p parents existOk))

/-- The sorted names in a directory. -/
def list (p : String) : Action (List String) := do
  lift ((← get).list p)

/-- Removes a file. -/
def unlink (p : String) : Action Unit := do
  set (← lift ((← get).unlink p))

/-- Whether a path is a directory. -/
def isDir (p : String) : Action Bool := do
  return (← get).isDir p

/-- Whether a path is a file. -/
def isFile (p : String) : Action Bool := do
  return (← get).isFile p

/-- Whether anything is at a path. -/
def exists? (p : String) : Action Bool := do
  return (← get).exists? p

end Action

end Preflight.Files
