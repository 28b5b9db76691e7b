import Preflight.Files.Action
import Preflight.Template.Marker

/-!
# Installing check templates

Template bundles are installed from a source directory, each of whose subdirectories (other
than a cache directory) is a bundle, into a templates directory, one subdirectory per
bundle. A bundle is copied again whenever its shipped version marker and its installed one
name different versions, in either direction. A marker that is missing, cannot be read or
is malformed names the empty version, so a bundle whose two markers are both unusable is
left alone.

Only the files at the top of a bundle are copied. A file that cannot be read or written
stops the installation, and the files copied before it stay.
-/

set_option autoImplicit false

namespace Preflight.Template

open Files (Action)

/-- Names of directories in a source that are never bundles. -/
def ignoredDirs : List String := ["__pycache__"]

/-- A directory of template bundles to install from, and the files in it (as
`bundle/name`) that cannot be read. -/
structure Source where
  /-- The directory that holds the bundles. -/
  root : String
  /-- The files that cannot be read. -/
  unreadable : List String := []
  deriving Inhabited

namespace Source

/-- The directory of a bundle. -/
def bundleDir (s : Source) (bundle : String) : String := Files.join s.root bundle

/-- The bundles, sorted by name. -/
def bundles (s : Source) : Action (List String) := do
  let names ← Action.list s.root
  names.filterM (fun n => do
    if ignoredDirs.contains n then return false
    Action.isDir (Files.join s.root n))

/-- The files at the top of a bundle, sorted by name. -/
def files (s : Source) (bundle : String) : Action (List String) := do
  let dir := s.bundleDir bundle
  let names ← Action.list dir
  names.filterM (fun n => Action.isFile (Files.join dir n))

/-- The bytes of a file of a bundle. -/
def read (s : Source) (bundle name : String) : Action (List UInt8) :=
  if s.unreadable.contains (bundle ++ "/" ++ name) then throw ⟨.permission, s!"cannot read {name}"⟩
  else Action.read (Files.join (s.bundleDir bundle) name)

end Source

/-- The version named by marker bytes, the empty version when they are malformed. -/
def markedVersion (bytes : List UInt8) : Value :=
  match parseMarkerBytes bytes with
  | .ok v => v
  | .error _ => .str ""

/-- The version of an installed bundle, the empty version when its marker cannot be read. -/
def installedVersion (templateDir bundle : String) : Action Value := do
  match (← get).read (Files.join (Files.join templateDir bundle) markerFile) with
  | .ok bs => return markedVersion bs
  | .error _ => return .str ""

/-- The version of a shipped bundle, the empty version when its marker cannot be read. -/
def shippedVersion (src : Source) (bundle : String) : Action Value := do
  match (src.read bundle markerFile).run (← get) with
  | (.ok bs, _) => return markedVersion bs
  | (.error f, _) => if f.kind.isSystem then return .str "" else throw f

/-- The installed version of every shipped bundle. -/
def installedVersions (src : Source) (templateDir : String) : Action (List (String × Value)) := do
  (← src.bundles).mapM (fun b => do return (b, ← installedVersion templateDir b))

/-- Copies the files at the top of a bundle into a directory, made if missing. -/
def copyBundle (src : Source) (bundle target : String) : Action Unit := do
  Action.makeDirs target true true
  (← src.files bundle).forM (fun name => do
    let bytes ← src.read bundle name
    Action.write (Files.join target name) bytes)

/-- Copies every bundle whose installed version differs from its shipped one, and names
the bundles copied, in order. -/
def ensureTemplates (src : Source) (templateDir : String) : Action (List String) := do
  (← src.bundles).foldlM (fun (copied : List String) bundle => do
    let installed ← installedVersion templateDir bundle
    let shipped ← shippedVersion src bundle
    -- texts are the same key exactly when they are equal
    if Value.sameKey installed shipped then return copied
    copyBundle src bundle (Files.join templateDir bundle)
    return copied ++ [bundle]) []

end Preflight.Template
