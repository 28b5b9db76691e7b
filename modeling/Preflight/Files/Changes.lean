import Preflight.Files

/-!
# Changes between trees

What it takes to turn the files of one tree into those of another: directories that
appear, made parents first; files that appear or whose bytes differ, written; and files
and directories that disappear, removed deepest first. Only the paths a predicate keeps are
looked at, so that trees may hold paths that stand for nothing on a disk.
-/

set_option autoImplicit false

namespace Preflight.Files

/-- One change to the files on a disk. -/
inductive Change where
  /-- Makes a directory and the missing ones on the way. -/
  | makeDir (path : String)
  /-- Writes a file's bytes, replacing what it held. -/
  | write (path : String) (bytes : List UInt8)
  /-- Removes a file. -/
  | removeFile (path : String)
  /-- Removes a directory and everything under it. -/
  | removeDir (path : String)
  deriving DecidableEq

/-- The text of an absolute path given by its components. -/
def pathText (abs : List String) : String := "/" ++ "/".intercalate abs

namespace Tree

/-- The changes that turn the files of `old` into those of `new`, for the paths `keep`
holds. -/
def changesTo (old new : Tree) (keep : List String → Bool) : List Change :=
  let made := new.entries.filterMap (fun (abs, e) =>
    if keep abs && e == .dir && old.find? abs != some .dir then some abs else none)
  let made := made.mergeSort (fun a b => decide (a.length ≤ b.length))
  let written := new.entries.filterMap (fun (abs, e) =>
    match e with
    | .file bs => if keep abs && old.find? abs != some (.file bs) then some (abs, bs) else none
    | .dir => none)
  let gone := old.entries.filter (fun (abs, _) => keep abs && (new.find? abs).isNone)
  let gone := gone.mergeSort (fun a b => decide (b.1.length ≤ a.1.length))
  made.map (fun abs => .makeDir (pathText abs)) ++
    written.map (fun (abs, bs) => .write (pathText abs) bs) ++
    gone.map (fun (abs, e) =>
      match e with
      | .file _ => .removeFile (pathText abs)
      | .dir => .removeDir (pathText abs))

end Tree

end Preflight.Files
