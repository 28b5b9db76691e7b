import Preflight.Files
import Preflight.Environ

/-!
# The installation directory

The program keeps its files in an installation directory: check templates under
`check/templates`, logs under `logs`, configuration files under `config` and internal state
under `internal`. The directory is the one given explicitly, else the one named by
`CHECKPIPE_INSTALL_DIR`, else `.checkpipe` in the home directory; an empty value counts as
not given. A leading `~` stands for the home directory and `~name` for the home of user
`name`; an unknown user is a failure. Paths are not resolved and may be relative.
-/

set_option autoImplicit false

namespace Preflight

/-- The name of the program. -/
def programName : String := "checkpipe"

/-- The version of the program. -/
def cliVersion : String := "0.6.0"

/-- The variable that names the installation directory. -/
def installDirVariable : String := "CHECKPIPE_INSTALL_DIR"

/-- Where the home directories are: the current user's and other users' by name. -/
structure Homes where
  /-- The current user's home directory. -/
  own : String
  /-- The home directories of users by name. -/
  ofUser : List (String × String) := []
  deriving Inhabited

/-- The home directories named by a user database in the `passwd` format: one user a line,
fields separated by colons, the name first and the home directory sixth. -/
def Homes.ofPasswd (own : String) (text : String) : Homes :=
  { own, ofUser := (text.splitOn "\n").filterMap (fun line =>
      match line.splitOn ":" with
      | name :: _ :: _ :: _ :: _ :: dir :: _ => if name.isEmpty then none else some (name, dir)
      | _ => none) }

/-- The installation directory and the places inside it. -/
structure Install where
  /-- The directory itself. -/
  dir : String
  deriving Inhabited

namespace Install

/-- The directory of installed check templates. -/
def templateDir (i : Install) : String := Files.join i.dir "check/templates"

/-- The directory of logs. -/
def logDir (i : Install) : String := Files.join i.dir "logs"

/-- The directory of configuration files. -/
def configDir (i : Install) : String := Files.join i.dir "config"

/-- The directory of internal state. -/
def internalDir (i : Install) : String := Files.join i.dir "internal"

end Install

/-- Replaces a leading `~` or `~name` component by that home directory. -/
def expandHome (homes : Homes) (p : String) : Except Failure String :=
  let n := Files.normalize p
  if !n.startsWith "~" then .ok n
  else
    let parts := Files.components n
    let first := parts.headD ""
    let user := String.ofList (first.toList.drop 1)
    let home? := if user.isEmpty then some homes.own else homes.ofUser.lookup user
    match home? with
    | some h =>
      let h := if h.length > 1 then String.ofList (h.toList.reverse.dropWhile (· == '/')).reverse else h
      .ok (Files.normalize ("/".intercalate (h :: parts.drop 1)))
    | none => .error ⟨.runtime, "Could not determine home directory."⟩

/-- The installation directory: the explicit one, else the variable's, else `.checkpipe`
in the home directory. -/
def resolveInstall (homes : Homes) (env : Environ) (explicit : Option String) : Except Failure Install :=
  match explicit with
  | some e =>
    if !e.isEmpty then (expandHome homes e).map Install.mk
    else fromEnv
  | none => fromEnv
where
  /-- The directory from the environment or the home directory. -/
  fromEnv : Except Failure Install :=
    match env.nonEmpty? installDirVariable with
    | some v => (expandHome homes v).map Install.mk
    | none => .ok ⟨Files.join homes.own ".checkpipe"⟩

end Preflight
