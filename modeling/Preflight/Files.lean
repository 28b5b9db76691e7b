import Preflight.Value.Display
import Preflight.Failure
import Preflight.Text.Order

/-!
# Files and directories

A tree of files and directories, addressed by paths with `/` separators. A path that does
not start with `/` is taken from the working directory; `.` components are skipped and
`..` goes to the parent. Every operation looks up the directories on the way to its path
first: a missing one fails as "no such file or directory" and a file among them as "not a
directory". Messages name the path as it was given.

Directory listings are sorted by name, so that nothing depends on the order in which a
directory happens to hold its entries.
-/

set_option autoImplicit false

namespace Preflight.Files

/-- What a path holds. -/
inductive Entry where
  /-- A file and its bytes. -/
  | file (bytes : List UInt8)
  /-- A directory. -/
  | dir
  deriving DecidableEq, Inhabited

/-- A tree of files and directories: each existing absolute path (as components) and what
it holds, and the working directory. -/
structure Tree where
  /-- The existing paths, as components, and what they hold. -/
  entries : List (List String × Entry) := [([], .dir)]
  /-- The working directory, as components. -/
  cwd : List String := []
  deriving Inhabited

/-- Why an operation on a path failed. -/
inductive Fault where
  /-- Nothing is at the path, or a directory on the way is missing. -/
  | notFound (path : String)
  /-- Something is already at the path. -/
  | alreadyExists (path : String)
  /-- A directory is at the path. -/
  | isDir (path : String)
  /-- A file is on the way to the path. -/
  | notDir (path : String)
  deriving DecidableEq, Repr

/-- The failure a fault reports. -/
def Fault.toFailure : Fault → Failure
  | .notFound p => ⟨.fileNotFound, s!"[Errno 2] No such file or directory: {displayText p}"⟩
  | .alreadyExists p => ⟨.fileExists, s!"[Errno 17] File exists: {displayText p}"⟩
  | .isDir p => ⟨.isDirectory, s!"[Errno 21] Is a directory: {displayText p}"⟩
  | .notDir p => ⟨.notDirectory, s!"[Errno 20] Not a directory: {displayText p}"⟩

/-- The components of a path text, without empty components. -/
def components (p : String) : List String :=
  ((p.toList.splitOn '/').map String.ofList).filter (fun c => !c.isEmpty)

/-- Applies path components to a directory: `.` stays, `..` goes up. -/
def walk (base : List String) (cs : List String) : List String :=
  cs.foldl (fun acc c =>
    if c == "." then acc else if c == ".." then acc.dropLast else acc ++ [c]) base

namespace Tree

/-- The absolute components of a path text. -/
def resolve (t : Tree) (p : String) : List String :=
  walk (if p.startsWith "/" then [] else t.cwd) (components p)

/-- What an absolute path holds. -/
def find? (t : Tree) (abs : List String) : Option Entry :=
  (t.entries.find? (fun e => e.1 == abs)).map (·.2)

/-- One component applied to a directory: `.` stays, `..` goes up, a name goes down. -/
def step (dir : List String) (c : String) : List String :=
  if c == "." then dir else if c == ".." then dir.dropLast else dir ++ [c]

/-- The absolute components a path leads to, walking its components one by one as the
system does: every component but the last must lead to an existing directory, also one
that a later `..` leaves again. -/
def locate (t : Tree) (p : String) : Except Fault (List String) :=
  go (if p.startsWith "/" then [] else t.cwd) (components p)
where
  /-- Walks the components `cs` from the directory `dir`. -/
  go (dir : List String) : List String → Except Fault (List String)
    | [] => .ok dir
    | [c] => .ok (step dir c)
    | c :: rest =>
      let next := step dir c
      match t.find? next with
      | some .dir => go next rest
      | some (.file _) => .error (.notDir p)
      | none => .error (.notFound p)

/-- What a path holds, looking up the directories on the way. -/
def stat (t : Tree) (p : String) : Except Fault (Option Entry) := do
  let abs ← t.locate p
  return t.find? abs

/-- Whether a path is a directory; a failed look-up is not one. -/
def isDir (t : Tree) (p : String) : Bool :=
  match t.stat p with
  | .ok (some .dir) => true
  | _ => false

/-- Whether a path is a file; a failed look-up is not one. -/
def isFile (t : Tree) (p : String) : Bool :=
  match t.stat p with
  | .ok (some (.file _)) => true
  | _ => false

/-- Whether anything is at a path. -/
def exists? (t : Tree) (p : String) : Bool :=
  match t.stat p with
  | .ok (some _) => true
  | _ => false

/-- The bytes of a file. -/
def read (t : Tree) (p : String) : Except Fault (List UInt8) := do
  match ← t.stat p with
  | some (.file bs) => return bs
  | some .dir => throw (.isDir p)
  | none => throw (.notFound p)

/-- Puts an entry at an absolute path, replacing what is there. -/
def put (t : Tree) (abs : List String) (e : Entry) : Tree :=
  if (t.find? abs).isSome then
    { t with entries := t.entries.map (fun x => if x.1 == abs then (abs, e) else x) }
  else { t with entries := t.entries ++ [(abs, e)] }

/-- Writes a file, creating it or replacing its bytes; with `append` the bytes are added
at its end. -/
def write (t : Tree) (p : String) (bytes : List UInt8) (append : Bool := false) :
    Except Fault Tree := do
  let abs ← t.locate p
  match ← t.stat p with
  | some .dir => throw (.isDir p)
  | some (.file old) => return t.put abs (.file (if append then old ++ bytes else bytes))
  | none =>
    if abs.isEmpty then throw (.isDir p)
    if t.find? abs.dropLast != some .dir then throw (.notFound p)
    return t.put abs (.file bytes)

/-- Makes one directory; its parent must exist. -/
def mkdir (t : Tree) (p : String) : Except Fault Tree := do
  let abs ← t.locate p
  match ← t.stat p with
  | some _ => throw (.alreadyExists p)
  | none => return t.put abs .dir

/-- The parent of a path text. -/
def parentText (p : String) : String :=
  let cs := components p
  let pre := if p.startsWith "/" then "/" else ""
  match cs.dropLast with
  | [] => if p.startsWith "/" then "/" else "."
  | rest => pre ++ "/".intercalate rest

/-- Makes a directory and, with `parents`, the missing directories on the way; with
`existOk` an existing directory is no fault. -/
def makeDirs (t : Tree) (p : String) (parents existOk : Bool) : Except Fault Tree :=
  go t p existOk (components p).length
where
  /-- Makes `q`, with `fuel` levels of parents left; missing parents are made with
  existing ones allowed. -/
  go (t : Tree) (q : String) (existOk : Bool) (fuel : Nat) : Except Fault Tree :=
    match t.mkdir q with
    | .ok t' => .ok t'
    | .error (.notFound q') =>
      match fuel with
      | 0 => .error (.notFound q')
      | fuel + 1 =>
        if !parents || parentText q == q then .error (.notFound q')
        else
          match go t (parentText q) true fuel with
          | .error e => .error e
          | .ok t2 =>
            match t2.mkdir q with
            | .ok t3 => .ok t3
            | .error e => if existOk && t2.isDir q then .ok t2 else .error e
    | .error e => if existOk && t.isDir q then .ok t else .error e

/-- Removes a file; a directory is not removed. -/
def unlink (t : Tree) (p : String) : Except Fault Tree := do
  let abs ← t.locate p
  match ← t.stat p with
  | some (.file _) => return { t with entries := t.entries.filter (fun e => e.1 != abs) }
  | some .dir => throw (.isDir p)
  | none => throw (.notFound p)

/-- Removes whatever is at a path, a directory with everything under it. -/
def removeAll (t : Tree) (p : String) : Tree :=
  let abs := t.resolve p
  { t with entries := t.entries.filter (fun e => !(abs.isPrefixOf e.1)) }

/-- Makes the directories on the way to an absolute path, and the path itself when `self`
is set. -/
def ensureDirs (t : Tree) (abs : List String) (self : Bool) : Tree :=
  let n := if self then abs.length else abs.length - 1
  (List.range (n + 1)).foldl (fun acc k =>
    if (acc.find? (abs.take k)).isSome then acc else acc.put (abs.take k) .dir) t

/-- Puts an entry at a path, making the directories on the way. -/
def plant (t : Tree) (p : String) (e : Entry) : Tree :=
  let abs := t.resolve p
  match e with
  | .dir => t.ensureDirs abs true
  | .file _ => (t.ensureDirs abs false).put abs e

/-- A tree holding the directories on the way to the working directory. -/
def atDir (cwd : String) : Tree :=
  let t : Tree := {}
  let abs := t.resolve cwd
  { t.ensureDirs abs true with cwd := abs }

/-- The names in a directory, sorted. -/
def list (t : Tree) (p : String) : Except Fault (List String) := do
  let abs ← t.locate p
  match ← t.stat p with
  | some .dir =>
    let names := t.entries.filterMap (fun e =>
      if e.1.length == abs.length + 1 && abs.isPrefixOf e.1 then e.1.getLast? else none)
    return Text.sortTexts names
  | some (.file _) => throw (.notDir p)
  | none => throw (.notFound p)

/-- The entries under an absolute directory, as paths relative to it, in sorted order. -/
def under (t : Tree) (base : List String) : List (String × Entry) :=
  let inside := t.entries.filterMap (fun e =>
    if base.isPrefixOf e.1 && e.1.length > base.length then
      some ("/".intercalate (e.1.drop base.length), e.2)
    else none)
  inside.mergeSort (fun a b => Text.textLe a.1 b.1)

end Tree

/-- The text of a path as paths are written: repeated separators and `.` components are
dropped, `..` components are kept, a trailing separator is dropped, a path that starts with
exactly two separators keeps them, and the empty path is `.`. -/
def normalize (p : String) : String :=
  let lead :=
    if p.startsWith "//" && !p.startsWith "///" then "//"
    else if p.startsWith "/" then "/" else ""
  let parts := (components p).filter (· != ".")
  let body := lead ++ "/".intercalate parts
  if body.isEmpty then "." else body

/-- Joins a path and another: an absolute second path replaces the first. -/
def join (p q : String) : String :=
  if q.startsWith "/" then normalize q
  else if q.isEmpty then normalize p
  else normalize (p ++ "/" ++ q)

/-- The last component of a path. -/
def baseName (p : String) : String :=
  (components p).getLast?.getD ""

/-- The suffix of a name: from its last dot, unless the dot starts the name or ends it. -/
def suffix (name : String) : String :=
  let cs := name.toList
  match cs.reverse.findIdx? (· == '.') with
  | none => ""
  | some j =>
    let i := cs.length - 1 - j
    if i == 0 || i + 1 == cs.length then "" else String.ofList (cs.drop i)

end Preflight.Files
