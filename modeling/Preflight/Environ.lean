/-!
# Environment variables

The environment a run sees: variables by name, each with a text value. A variable may be
present with an empty value, which is not the same as being absent.
-/

set_option autoImplicit false

namespace Preflight

/-- Environment variables, in the order they were set. -/
structure Environ where
  /-- The variables and their values. -/
  vars : List (String × String) := []
  deriving Inhabited

namespace Environ

/-- The value of a variable, if present. -/
def get? (e : Environ) (name : String) : Option String :=
  e.vars.lookup name

/-- Whether a variable is present, even if empty. -/
def has (e : Environ) (name : String) : Bool :=
  (e.get? name).isSome

/-- The value of a variable if it is present and not empty. -/
def nonEmpty? (e : Environ) (name : String) : Option String :=
  match e.get? name with
  | some v => if v.isEmpty then none else some v
  | none => none

/-- Sets a variable. -/
def set (e : Environ) (name value : String) : Environ :=
  if e.has name then ⟨e.vars.map (fun p => if p.1 == name then (name, value) else p)⟩
  else ⟨e.vars ++ [(name, value)]⟩

/-- Removes a variable. -/
def unset (e : Environ) (name : String) : Environ :=
  ⟨e.vars.filter (fun p => p.1 != name)⟩

end Environ

end Preflight
