/-!
# Reports

A report carries at most one fatal error and any number of warnings. Warnings are kept in
the order they were first added; an empty warning or one already present is not added
again. Merging another report keeps the first error and adds the other's warnings.
-/

set_option autoImplicit false

namespace Preflight

/-- At most one fatal error, as its message, and advisory warnings. -/
structure Report where
  /-- The message of the fatal error, if there is one. -/
  error : Option String := none
  /-- The warnings, in the order they were added. -/
  warnings : List String := []
  deriving DecidableEq, Repr

namespace Report

/-- Whether the report carries an error. -/
def failed (r : Report) : Bool := r.error.isSome

/-- A report with only an error. -/
def ofError (e : String) : Report := { error := some e }

/-- Adds one warning unless it is empty or already present. -/
def addWarning (r : Report) (w : String) : Report :=
  if w.isEmpty || r.warnings.contains w then r else { r with warnings := r.warnings ++ [w] }

/-- Adds warnings in order, each as `addWarning` does. -/
def addWarnings (r : Report) (ws : List String) : Report :=
  ws.foldl addWarning r

/-- Folds another report into this one: the first error wins and the other's warnings are
added. -/
def merge (r : Report) (other : Option Report) : Report :=
  match other with
  | none => r
  | some o =>
    let r := if r.error.isNone then { r with error := o.error } else r
    r.addWarnings o.warnings

/-- Sets the error unless one is already present. -/
def withError (r : Report) (e : String) : Report :=
  if r.error.isNone then { r with error := some e } else r

end Report

end Preflight
