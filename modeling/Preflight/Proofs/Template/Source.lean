import Preflight.Proofs.Files.Change
import Preflight.Proofs.Files.Run
import Preflight.Template.Sync

/-!
# What a template source shows

The actions that read a template source, and the version markers on both sides, as they run
on a proper tree, where the source directory and the templates directory are paths of names:

* `run_bundles_proper`, `mem_bundleList`: the bundles are the directories in the source, other
  than the ignored ones, each a name;
* `run_files_proper`, `mem_topFiles`: the files of a bundle are the names below it that hold
  files;
* `run_installedVersion_proper`, `run_shippedVersion_proper`: a version is the version of the
  marker entry (`versionAt`), the empty version when it is not a file, and a shipped marker
  that cannot be read names the empty version too (`Source.shippedAt`).

None of them changes the tree, and each depends only on the paths in the source directory
(`Source.region`): two proper trees that agree there show the same source
(`bundleList_agree`, `topFiles_agree`, `shippedAt_agree`, `run_read_agree`).
-/

set_option autoImplicit false

namespace Preflight.Template

open Files Files.Tree

theorem isName_markerFile : isName markerFile = true := by decide

theorem Fault.isSystem_toFailure (f : Files.Fault) : f.toFailure.kind.isSystem = true := by
  cases f <;> rfl

namespace Source

variable (src : Source) (t : Tree)

theorem run_bundles :
    src.bundles.run t = (match t.list src.root with
      | .ok names =>
        .ok (names.filter (fun n => !ignoredDirs.contains n && t.isDir (Files.join src.root n)))
      | .error f => .error f.toFailure, t) := by
  unfold bundles
  rw [Action.run_bind, Action.run_list]
  cases t.list src.root with
  | error f => rfl
  | ok names =>
    apply Action.run_filterM
    intro n _
    by_cases hn : n ∈ ignoredDirs <;> simp [hn]

theorem run_files (b : String) :
    (src.files b).run t = (match t.list (src.bundleDir b) with
      | .ok names => .ok (names.filter (fun n => t.isFile (Files.join (src.bundleDir b) n)))
      | .error f => .error f.toFailure, t) := by
  unfold files
  rw [Action.run_bind, Action.run_list]
  cases t.list (src.bundleDir b) with
  | error f => rfl
  | ok names => exact Action.run_filterM (fun n _ => rfl)

/-- Reading a file of a bundle only looks at the tree. -/
theorem run_read_snd (b n : String) : ((src.read b n).run t).2 = t := by
  unfold read
  split
  · rfl
  · rw [Action.run_read]

theorem run_read_eq_ok {b n : String} {bs : List UInt8} {t' : Tree} :
    (src.read b n).run t = (.ok bs, t') ↔
      b ++ "/" ++ n ∉ src.unreadable ∧
        t.read (Files.join (src.bundleDir b) n) = .ok bs ∧ t' = t := by
  unfold read
  split
  · rename_i hu
    have hmem : b ++ "/" ++ n ∈ src.unreadable := by simpa using hu
    simp [hmem]
  · rename_i hu
    have hmem : b ++ "/" ++ n ∉ src.unreadable := by simpa using hu
    rw [Action.run_read]
    cases t.read (Files.join (src.bundleDir b) n) <;> simp [hmem, eq_comm]

/-- Reading a file of a bundle fails only as the system fails. -/
theorem run_read_error {b n : String} {f : Failure} {t' : Tree}
    (h : (src.read b n).run t = (.error f, t')) : f.kind.isSystem = true := by
  unfold read at h
  split at h
  · simp only [Action.run_throw, Prod.mk.injEq, Except.error.injEq] at h
    rw [← h.1]
    rfl
  · rw [Action.run_read] at h
    cases hr : t.read (Files.join (src.bundleDir b) n) with
    | ok bs => simp [hr] at h
    | error g =>
      simp only [hr, Prod.mk.injEq, Except.error.injEq] at h
      rw [← h.1]
      exact Fault.isSystem_toFailure g

end Source

/-- The version a marker entry names: that of a file's bytes, the empty version for a
directory or for nothing. -/
def versionAt : Option Entry → Value
  | some (.file bs) => markedVersion bs
  | _ => .str ""

theorem run_installedVersion (dir b : String) (t : Tree) :
    (installedVersion dir b).run t =
      (.ok (match t.read (Files.join (Files.join dir b) markerFile) with
        | .ok bs => markedVersion bs
        | .error _ => .str ""), t) := by
  unfold installedVersion
  rw [Action.run_bind, Action.run_get]
  simp only
  cases t.read (Files.join (Files.join dir b) markerFile) <;> rfl

theorem run_shippedVersion (src : Source) (b : String) (t : Tree) :
    (shippedVersion src b).run t =
      (.ok (match (src.read b markerFile).run t with
        | (.ok bs, _) => markedVersion bs
        | (.error _, _) => .str ""), t) := by
  unfold shippedVersion
  rw [Action.run_bind, Action.run_get]
  simp only
  rcases h : (src.read b markerFile).run t with ⟨f | bs, t'⟩
  · simp [src.run_read_error t h]
  · rfl


/-- The version a bundle ships: the empty version when its marker cannot be read. -/
def Source.shippedAt (src : Source) (t : Tree) (b : String) : Value :=
  if src.unreadable.contains (b ++ "/" ++ markerFile) then .str ""
  else versionAt (t.find? (t.resolve src.root ++ [b, markerFile]))

/-- The bundles of a source: the names of the directories in it, other than the ignored ones,
sorted. -/
def Source.bundleList (src : Source) (t : Tree) : List String :=
  (Text.sortTexts (t.children (t.resolve src.root))).filter
    (fun n => !ignoredDirs.contains n && t.isDir (Files.join src.root n))

/-- The files at the top of a bundle, sorted by name. -/
def Source.topFiles (src : Source) (t : Tree) (b : String) : List String :=
  (Text.sortTexts (t.children (t.resolve src.root ++ [b]))).filter
    (fun n => t.isFile (Files.join (src.bundleDir b) n))

/-- The paths in the directory of a source. -/
def Source.region (src : Source) (t : Tree) (x : List String) : Bool :=
  (t.resolve src.root).isPrefixOf x

@[simp] theorem Source.region_append (src : Source) (t : Tree) (l : List String) :
    src.region t (t.resolve src.root ++ l) = true := by
  simp [Source.region, List.isPrefixOf_iff_prefix]

/-! ## Reading a proper tree -/

section Proper

variable {src : Source} {t : Tree} {p dir b n : String}

theorem resolve_join_join (t : Tree) (hp : isPlain p = true) (hb : isName b = true)
    (hn : isName n = true) : t.resolve (Files.join (Files.join p b) n) = t.resolve p ++ [b, n] := by
  rw [t.resolve_join (isPlain_join hp hb) hn, t.resolve_join hp hb]
  simp

theorem Source.isPlain_bundleDir (hr : isPlain src.root = true) (hb : isName b = true) :
    isPlain (src.bundleDir b) = true :=
  isPlain_join hr hb

theorem Source.resolve_bundleDir (t : Tree) (hr : isPlain src.root = true) (hb : isName b = true) :
    t.resolve (src.bundleDir b) = t.resolve src.root ++ [b] :=
  t.resolve_join hr hb

theorem Source.resolve_bundleFile (t : Tree) (hr : isPlain src.root = true) (hb : isName b = true)
    (hn : isName n = true) :
    t.resolve (Files.join (src.bundleDir b) n) = t.resolve src.root ++ [b, n] :=
  resolve_join_join t hr hb hn

/-- A marker read as a version: the version of the entry the path holds. -/
theorem readVersion_eq_versionAt (ht : t.Proper) (hp : isPlain p = true) :
    (match t.read p with
      | .ok bs => markedVersion bs
      | .error _ => .str "") = versionAt (t.find? (t.resolve p)) := by
  cases hf : t.find? (t.resolve p) with
  | some e =>
    cases e with
    | file bs => rw [(ht.read_eq_ok_iff hp).2 hf]; rfl
    | dir =>
      cases hr : t.read p with
      | ok bs => simp [(ht.read_eq_ok_iff hp).1 hr] at hf
      | error f => rfl
  | none =>
    cases hr : t.read p with
    | ok bs => simp [(ht.read_eq_ok_iff hp).1 hr] at hf
    | error f => rfl

theorem run_installedVersion_proper (ht : t.Proper) (hd : isPlain dir = true)
    (hb : isName b = true) :
    (installedVersion dir b).run t =
      (.ok (versionAt (t.find? (t.resolve dir ++ [b, markerFile]))), t) := by
  rw [Template.run_installedVersion, readVersion_eq_versionAt ht (isPlain_join (isPlain_join hd hb) isName_markerFile),
    resolve_join_join t hd hb isName_markerFile]

theorem run_shippedVersion_proper (ht : t.Proper) (hr : isPlain src.root = true)
    (hb : isName b = true) : (shippedVersion src b).run t = (.ok (src.shippedAt t b), t) := by
  rw [Template.run_shippedVersion]
  unfold Source.shippedAt
  congr 2
  by_cases hu : b ++ "/" ++ markerFile ∈ src.unreadable
  · have hread : ∀ bs t', (src.read b markerFile).run t ≠ (.ok bs, t') := by
      intro bs t' h
      exact ((src.run_read_eq_ok t).1 h).1 hu
    rcases hrun : (src.read b markerFile).run t with ⟨f | bs, t'⟩
    · simp [hu]
    · exact absurd hrun (hread bs t')
  · have hkey : (match (src.read b markerFile).run t with
          | (.ok bs, _) => markedVersion bs
          | (.error _, _) => .str "") =
        (match t.read (Files.join (src.bundleDir b) markerFile) with
          | .ok bs => markedVersion bs
          | .error _ => .str "") := by
      unfold Source.read
      rw [if_neg (by simpa using hu), Action.run_read]
      cases t.read (Files.join (src.bundleDir b) markerFile) <;> rfl
    rw [hkey, readVersion_eq_versionAt ht (isPlain_join (src.isPlain_bundleDir hr hb) isName_markerFile),
      src.resolve_bundleFile t hr hb isName_markerFile]
    simp [hu]

/-- A source whose directory exists lists its bundles. -/
theorem run_bundles_proper (ht : t.Proper) (hr : isPlain src.root = true)
    (hS : t.find? (t.resolve src.root) = some .dir) :
    src.bundles.run t = (.ok (src.bundleList t), t) := by
  rw [src.run_bundles, ht.list_of_dir hr hS]
  rfl

/-- Listing the bundles only looks, and lists them only when the source directory exists. -/
theorem bundles_eq_ok (hr : isPlain src.root = true) {bs : List String} {t' : Tree}
    (h : src.bundles.run t = (.ok bs, t')) :
    t' = t ∧ t.find? (t.resolve src.root) = some .dir ∧ bs = src.bundleList t := by
  rw [src.run_bundles] at h
  cases hl : t.list src.root with
  | error f => simp [hl] at h
  | ok names =>
    obtain ⟨hdir, rfl⟩ := list_eq_ok hr hl
    simp only [hl, Prod.mk.injEq, Except.ok.injEq] at h
    exact ⟨h.2.symm, hdir, h.1.symm⟩

/-- Every bundle is a name, and a directory of the source. -/
theorem mem_bundleList (ht : t.Proper) (hr : isPlain src.root = true) (hb : b ∈ src.bundleList t) :
    isName b = true ∧ t.find? (t.resolve src.root ++ [b]) = some .dir := by
  obtain ⟨hmem, hkeep⟩ := List.mem_filter.1 hb
  obtain ⟨e, he⟩ := mem_children (Text.mem_sortTexts.1 hmem)
  have hname : isName b = true :=
    ht.names _ e ((find?_eq_some_iff ht.nodup).2 he) b (by simp)
  refine ⟨hname, ?_⟩
  have hdir : t.isDir (Files.join src.root b) = true := by
    simp only [Bool.and_eq_true] at hkeep
    exact hkeep.2
  rw [← t.resolve_join hr hname]
  exact (ht.isDir_iff (isPlain_join hr hname)).1 hdir

/-- A bundle directory lists its files. -/
theorem run_files_proper (ht : t.Proper) (hr : isPlain src.root = true) (hb : isName b = true)
    (hB : t.find? (t.resolve src.root ++ [b]) = some .dir) :
    (src.files b).run t = (.ok (src.topFiles t b), t) := by
  rw [src.run_files, ht.list_of_dir (src.isPlain_bundleDir hr hb)
    (by rw [src.resolve_bundleDir t hr hb]; exact hB), src.resolve_bundleDir t hr hb]
  rfl

/-- The files at the top of a bundle are the names below it that hold files. -/
theorem mem_topFiles (ht : t.Proper) (hr : isPlain src.root = true) (hb : isName b = true) :
    n ∈ src.topFiles t b ↔ ∃ bs, t.find? (t.resolve src.root ++ [b, n]) = some (.file bs) := by
  constructor
  · intro hn
    obtain ⟨hmem, hfile⟩ := List.mem_filter.1 hn
    obtain ⟨e, he⟩ := mem_children (Text.mem_sortTexts.1 hmem)
    have hname : isName n = true :=
      ht.names _ e ((find?_eq_some_iff ht.nodup).2 he) n (by simp)
    rw [← src.resolve_bundleFile t hr hb hname]
    exact (ht.isFile_iff (isPlain_join (src.isPlain_bundleDir hr hb) hname)).1 hfile
  · rintro ⟨bs, hf⟩
    have hname : isName n = true := ht.names _ _ hf n (by simp)
    refine List.mem_filter.2 ⟨Text.mem_sortTexts.2 (ht.mem_children (by simpa using hf)), ?_⟩
    rw [ht.isFile_iff (isPlain_join (src.isPlain_bundleDir hr hb) hname),
      src.resolve_bundleFile t hr hb hname]
    exact ⟨bs, hf⟩

/-! ## A source seen from trees that agree on it -/

section Agree

variable {t' : Tree} (ht : t.Proper) (ht' : t'.Proper) (hr : isPlain src.root = true)
  (hag : AgreeOn t t' (src.region t))
include ht ht' hr hag

theorem bundleList_agree : src.bundleList t' = src.bundleList t := by
  unfold Source.bundleList
  rw [hag.resolve, hag.children (fun x hx => hx)]
  apply List.filter_congr
  intro n hn
  -- a listed entry is a name, so its directory is a path of names in the source
  obtain ⟨e, he⟩ := mem_children (Text.mem_sortTexts.1 hn)
  have hname : isName n = true := ht.names _ e ((find?_eq_some_iff ht.nodup).2 he) n (by simp)
  rw [hag.isDir_eq ht ht' (isPlain_join hr hname) (by simp [t.resolve_join hr hname])]

theorem topFiles_agree (hb : isName b = true) : src.topFiles t' b = src.topFiles t b := by
  unfold Source.topFiles
  rw [hag.resolve, hag.children (fun x hx => by
    simp only [Source.region, List.isPrefixOf_iff_prefix] at hx ⊢
    exact (List.prefix_append _ _).trans hx)]
  apply List.filter_congr
  intro n hn
  obtain ⟨e, he⟩ := mem_children (Text.mem_sortTexts.1 hn)
  have hname : isName n = true := ht.names _ e ((find?_eq_some_iff ht.nodup).2 he) n (by simp)
  rw [hag.isFile_eq ht ht' (isPlain_join (src.isPlain_bundleDir hr hb) hname)
    (by simp [src.resolve_bundleFile t hr hb hname])]

omit ht ht' hr in
theorem shippedAt_agree : src.shippedAt t' b = src.shippedAt t b := by
  unfold Source.shippedAt
  rw [hag.resolve, hag.find? (by simp)]

theorem run_read_agree (hb : isName b = true) (hn : isName n = true) {bs : List UInt8} :
    (src.read b n).run t' = (.ok bs, t') ↔ (src.read b n).run t = (.ok bs, t) := by
  rw [src.run_read_eq_ok, src.run_read_eq_ok,
    hag.read_eq_ok_iff ht ht' (isPlain_join (src.isPlain_bundleDir hr hb) hn)
      (by simp [src.resolve_bundleFile t hr hb hn])]
  simp

end Agree

end Proper

end Preflight.Template
