import Preflight.Proofs.Template.Convergence

/-!
# What an installation of templates writes

`ensureTemplates_writes_outdated`: on a proper tree, with the source directory and the
templates directory given as paths of names and neither inside the other, an installation
copies exactly the outdated bundles (`outdated`: those whose installed version is not the
shipped one, as the tree holds them before the installation, `isOutdated_iff`), in the sorted
order of the source. The copy of a bundle makes its directory and writes every file at the top
of the shipped bundle with its shipped bytes (`Mirrored`), and nothing else changes: the paths
a copy may write are the directories on the way to the bundle's copy and those files
(`copyTargets`), so the bundles whose versions matched are not written, the files that only
the installed copy holds stay, and no directory is lost (`KeepsDirs`). A failure is one of the
system's. It leaves the tree as it was when the source cannot be listed, and otherwise stops
in the copy of an outdated bundle, after every outdated bundle before it was copied in full.

The proof follows the installation bundle by bundle and carries `Progress`: the bundles copied
so far are mirrored, and the tree differs from the first one only at their targets. A bundle's
turn reads its versions where no earlier copy wrote, so it reads them as they were before the
installation (`syncStep_run`); `foldSync_run` carries `Progress` through the bundles.
-/

set_option autoImplicit false

namespace Preflight.Template

open Files Files.Tree

/-! ## Which bundles are outdated -/

/-- Whether a bundle is outdated in a tree: its installed version is not its shipped one. -/
def isOutdated (src : Source) (dir : String) (t : Tree) (b : String) : Bool :=
  !(versionAt (t.find? (t.resolve dir ++ [b, markerFile]))).sameKey (src.shippedAt t b)

/-- The outdated bundles of a source, in its sorted order. -/
def outdated (src : Source) (dir : String) (t : Tree) : List String :=
  (src.bundleList t).filter (isOutdated src dir t)

/-- A bundle is outdated exactly when reading its two versions gives different answers. -/
theorem isOutdated_iff {src : Source} {dir b : String} {t : Tree} (ht : t.Proper)
    (hr : isPlain src.root = true) (hd : isPlain dir = true) (hb : isName b = true) :
    isOutdated src dir t b = true ↔
      ((installedVersion dir b).run t).1 ≠ ((shippedVersion src b).run t).1 := by
  rw [run_installedVersion_proper ht hd hb, run_shippedVersion_proper ht hr hb]
  simp only [isOutdated, Bool.not_eq_true', ne_eq, Except.ok.injEq]
  rw [← sameKey_iff_eq (versionAt_text _) (shippedAt_text _ _ _), Bool.not_eq_true]

theorem Source.bundleList_nodup (src : Source) {t : Tree} (ht : t.Proper) :
    (src.bundleList t).Nodup :=
  ((Text.perm_sortTexts _).nodup_iff.2 (ht.children_nodup _)).filter _

/-! ## The targets of a copy -/

/-- The paths a copy of bundle `b` may write: the directories on the way to its installed
copy, the copy itself, and one file for each file at the top of the shipped bundle. -/
def copyTargets (src : Source) (dir : String) (t : Tree) (b : String) (x : List String) : Bool :=
  x.isPrefixOf (t.resolve dir ++ [b]) ||
    (src.topFiles t b).any (fun n => x == t.resolve dir ++ [b, n])

/-- The paths that no copy of the bundles `bs` writes. -/
def untouched (src : Source) (dir : String) (t : Tree) (bs : List String) (x : List String) :
    Bool :=
  !bs.any (fun b => copyTargets src dir t b x)

section Targets

variable {src : Source} {dir : String} {t : Tree} {b b' : String} {x : List String}

theorem bundleArea_of_copyTargets (h : copyTargets src dir t b x = true) :
    bundleArea (t.resolve dir) b x = true := by
  unfold copyTargets at h
  unfold bundleArea
  rcases Bool.or_eq_true_iff.1 h with h | h
  · simp [h]
  · obtain ⟨n, -, hn⟩ := List.any_eq_true.1 h
    rw [beq_iff_eq] at hn
    subst hn
    simp [List.isPrefixOf_iff_prefix]

/-- No copy writes in the source. -/
theorem copyTargets_of_region
    (hapart : ¬t.resolve src.root <+: t.resolve dir ∧ ¬t.resolve dir <+: t.resolve src.root)
    (hx : src.region t x = true) : copyTargets src dir t b x = false := by
  cases h : copyTargets src dir t b x with
  | false => rfl
  | true => simpa [bundleArea_of_apart hapart hx] using bundleArea_of_copyTargets h

/-- A copy writes nothing in another bundle's copy. -/
theorem copyTargets_of_ne (hne : b' ≠ b) (l : List String) :
    copyTargets src dir t b (t.resolve dir ++ b' :: l) = false := by
  cases h : copyTargets src dir t b (t.resolve dir ++ b' :: l) with
  | false => rfl
  | true =>
    have harea := bundleArea_of_ne hne (R := t.resolve dir) (x := t.resolve dir ++ b' :: l)
      (by simp [List.isPrefixOf_iff_prefix])
    simpa [harea] using bundleArea_of_copyTargets h

theorem untouched_of_not_mem {bs : List String} (hb : b ∉ bs) (l : List String) :
    untouched src dir t bs (t.resolve dir ++ b :: l) = true := by
  simp only [untouched, Bool.not_eq_true', List.any_eq_false]
  intro b' hb'
  have hne : b ≠ b' := fun h => hb (h ▸ hb')
  simp [copyTargets_of_ne hne l]

theorem untouched_append {bs bs' : List String} :
    untouched src dir t (bs ++ bs') x = (untouched src dir t bs x && untouched src dir t bs' x) := by
  simp [untouched, List.any_append]

end Targets

/-- A mirror of a bundle stays one while its copy is not written. -/
theorem Mirrored.mono {src : Source} {dir b : String} {t t₁ t₂ : Tree}
    {s : List String → Bool} (h : Mirrored src dir t b t₁) (hag : AgreeOn t₁ t₂ s)
    (hs : ∀ l, s (t.resolve dir ++ b :: l) = true) : Mirrored src dir t b t₂ := by
  obtain ⟨hdir, hcopied⟩ := h
  refine ⟨by rw [hag.find? (by simpa using hs [])]; exact hdir, fun n bs hf => ?_⟩
  obtain ⟨hu, hf'⟩ := hcopied n bs hf
  exact ⟨hu, by rw [hag.find? (by simpa using hs [n])]; exact hf'⟩

/-! ## A copy, whatever its outcome -/

section Copy

variable {src : Source} {dir : String} {t t₁ t₂ : Tree} {b n : String}

/-- A copy of one file that fails leaves the tree as it was, and fails as the system does. -/
theorem copyFile_error {f : Failure}
    (h : (copyFile src b (Files.join dir b) n).run t₁ = (.error f, t₂)) :
    t₂ = t₁ ∧ f.kind.isSystem = true := by
  unfold copyFile at h
  rw [Action.run_bind] at h
  have hsnd := src.run_read_snd t₁ b n
  rcases hread : (src.read b n).run t₁ with ⟨e | bs, t'⟩
  · rw [hread] at h hsnd
    simp only [Prod.mk.injEq, Except.error.injEq] at h
    obtain ⟨rfl, rfl⟩ := h
    exact ⟨hsnd, src.run_read_error t₁ hread⟩
  · rw [hread] at h hsnd
    simp only at h hsnd
    subst hsnd
    rw [Action.run_write] at h
    split at h
    · cases h
    · rename_i g _
      simp only [Prod.mk.injEq, Except.error.injEq] at h
      obtain ⟨rfl, rfl⟩ := h
      exact ⟨rfl, Fault.isSystem_toFailure g⟩

/-- A copy of one file that succeeds wrote a file where no directory was. -/
theorem copyFile_keepsDirs (hd : isPlain dir = true) (hb : isName b = true) (hn : isName n = true)
    (ht₁ : t₁.Proper) {u : Unit} (h : (copyFile src b (Files.join dir b) n).run t₁ = (.ok u, t₂)) :
    KeepsDirs t₁ t₂ := by
  obtain ⟨bs, t', hread, hwrite⟩ := Action.run_bind_eq_ok h
  obtain ⟨-, -, rfl⟩ := (src.run_read_eq_ok t₁).1 hread
  rw [Action.run_write] at hwrite
  cases hw : t'.write (Files.join (Files.join dir b) n) bs with
  | error g => simp [hw] at hwrite
  | ok t₃ =>
    simp only [hw, Prod.mk.injEq] at hwrite
    obtain ⟨-, rfl⟩ := hwrite
    have hp := isPlain_join (isPlain_join hd hb) hn
    rw [(ht₁.write_eq_ok hp hw).1]
    exact keepsDirs_put (ht₁.find?_ne_dir_of_write hp hw) _

/-- Copying files one after another, whatever the outcome: only the copies of those files
change, no directory is lost, and a failure is one of the system's. -/
theorem copyFiles_run (hr : isPlain src.root = true) (hd : isPlain dir = true)
    (hapart : ¬t.resolve src.root <+: t.resolve dir ∧ ¬t.resolve dir <+: t.resolve src.root)
    (hb : isName b = true) (ns : List String) (hns : ∀ n ∈ ns, isName n = true) :
    ∀ {t₁ t₂ : Tree} {r : Except Failure PUnit}, t₁.Proper → AgreeOn t t₁ (src.region t) →
      (ns.forM (copyFile src b (Files.join dir b))).run t₁ = (r, t₂) →
      t₂.Proper ∧ AgreeOn t₁ t₂ (fun x => !ns.any (fun n => x == t.resolve dir ++ [b, n])) ∧
        KeepsDirs t₁ t₂ ∧ ∀ f, r = .error f → f.kind.isSystem = true := by
  induction ns with
  | nil =>
    intro t₁ t₂ r ht₁ _ h
    simp only [List.forM, Action.run_pure, Prod.mk.injEq] at h
    obtain ⟨rfl, rfl⟩ := h
    exact ⟨ht₁, AgreeOn.refl _ _, KeepsDirs.refl _, by simp⟩
  | cons n ns ih =>
    intro t₁ t₂ r ht₁ hag h
    rw [Action.run_forM_cons] at h
    rcases h₁ : (copyFile src b (Files.join dir b) n).run t₁ with ⟨f | u, t₃⟩
    · -- the copy of this file fails, and nothing changed
      rw [h₁] at h
      simp only [Prod.mk.injEq] at h
      obtain ⟨rfl, rfl⟩ := h
      obtain ⟨rfl, hsys⟩ := copyFile_error h₁
      exact ⟨ht₁, AgreeOn.refl _ _, KeepsDirs.refl _, fun g hg => by cases hg; exact hsys⟩
    · rw [h₁] at h
      simp only at h
      have hkeep₁₃ := copyFile_keepsDirs hd hb (hns n List.mem_cons_self) ht₁ h₁
      obtain ⟨bs, -, -, rfl, ht₃⟩ :=
        copyFile_eq_ok hr hd ht₁ hb (hns n List.mem_cons_self) hag h₁
      -- the file written is one of the copies, outside the source
      have hag₁₃ : AgreeOn t₁ (t₁.put (t.resolve dir ++ [b, n]) (.file bs))
          (fun x => !(n :: ns).any (fun n => x == t.resolve dir ++ [b, n])) :=
        agreeOn_put t₁ _ (by simp)
      have hag₃ : AgreeOn t (t₁.put (t.resolve dir ++ [b, n]) (.file bs)) (src.region t) :=
        hag.trans ((agreeOn_put t₁ (.file bs) (s := fun x => !bundleArea (t.resolve dir) b x)
          (by simp [bundleArea, List.isPrefixOf_iff_prefix])).mono fun x hx => by
            simp [bundleArea_of_apart hapart hx])
      obtain ⟨ht₂, hag₃₂, hkeep₃₂, hsys⟩ :=
        ih (fun n hn => hns n (List.mem_cons_of_mem _ hn)) ht₃ hag₃ h
      refine ⟨ht₂, hag₁₃.trans (hag₃₂.mono fun x hx => ?_), hkeep₁₃.trans hkeep₃₂, hsys⟩
      simp only [List.any_cons, Bool.not_or, Bool.and_eq_true] at hx
      exact hx.2

/-- A copy of a bundle, whatever its outcome, changes nothing but its targets, loses no
directory, and fails only as the system does. -/
theorem copyBundle_run (ht : t.Proper) (hr : isPlain src.root = true) (hd : isPlain dir = true)
    (hapart : ¬t.resolve src.root <+: t.resolve dir ∧ ¬t.resolve dir <+: t.resolve src.root)
    (hb : isName b = true) (hB : t.find? (t.resolve src.root ++ [b]) = some .dir)
    (ht₁ : t₁.Proper) (hag : AgreeOn t t₁ (src.region t)) {r : Except Failure Unit}
    (h : (copyBundle src b (Files.join dir b)).run t₁ = (r, t₂)) :
    t₂.Proper ∧ AgreeOn t₁ t₂ (fun x => !copyTargets src dir t b x) ∧ KeepsDirs t₁ t₂ ∧
      ∀ f, r = .error f → f.kind.isSystem = true := by
  rw [copyBundle_eq, Action.run_bind, Action.run_makeDirs] at h
  cases hm : t₁.makeDirs (Files.join dir b) true true with
  | error e =>
    rw [hm] at h
    simp only [Prod.mk.injEq] at h
    obtain ⟨rfl, rfl⟩ := h
    exact ⟨ht₁, AgreeOn.refl _ _, KeepsDirs.refl _,
      fun f hf => by cases hf; exact Fault.isSystem_toFailure e⟩
  | ok t₃ =>
    rw [hm] at h
    simp only at h
    obtain ⟨ht₃, hdir₃, hag₁₃⟩ := ht₁.makeDirs_eq_ok (isPlain_join hd hb) hm
    rw [t₁.resolve_join hd hb, hag.resolve] at hdir₃ hag₁₃
    -- the directories made lie on the way to the copy, so every one of them is kept
    have hkeep₁₃ : KeepsDirs t₁ t₃ := by
      intro x hx
      cases hpre : x.isPrefixOf (t.resolve dir ++ [b]) with
      | false =>
        rw [hag₁₃.find? (by simp [hpre])]
        exact hx
      | true => exact ht₃.dir_of_isPrefix hdir₃ (List.isPrefixOf_iff_prefix.1 hpre)
    have hag₃ : AgreeOn t t₃ (src.region t) :=
      hag.trans (hag₁₃.mono fun x hx => by
        have := copyTargets_of_region hapart (b := b) hx
        simp only [copyTargets, Bool.or_eq_false_iff] at this
        simp [this.1])
    have hB₃ : t₃.find? (t₃.resolve src.root ++ [b]) = some .dir := by
      rw [hag₃.resolve, hag₃.find? (by simp)]
      exact hB
    rw [Action.run_bind, run_files_proper ht₃ hr hb hB₃, topFiles_agree ht ht₃ hr hag₃ hb] at h
    simp only at h
    have hns : ∀ n ∈ src.topFiles t b, isName n = true := by
      intro n hn
      obtain ⟨bs, hf⟩ := (mem_topFiles ht hr hb).1 hn
      exact ht.names _ _ hf n (by simp)
    obtain ⟨ht₂, hag₃₂, hkeep₃₂, hsys⟩ := copyFiles_run hr hd hapart hb _ hns ht₃ hag₃ h
    refine ⟨ht₂, (hag₁₃.mono fun x hx => ?_).trans (hag₃₂.mono fun x hx => ?_),
      hkeep₁₃.trans hkeep₃₂, hsys⟩
    · simp only [copyTargets, Bool.not_or, Bool.and_eq_true] at hx
      exact hx.1
    · simp only [copyTargets, Bool.not_or, Bool.and_eq_true] at hx
      exact hx.2

end Copy

/-! ## Bundle after bundle -/

/-- What an installation from the tree `t` has done, having copied the bundles `done` and
written at the targets of the bundles `touched`: the tree is proper, differs from `t` only at
those targets, holds a mirror of each bundle done, and keeps every directory of `t`. -/
structure Progress (src : Source) (dir : String) (t : Tree) (done touched : List String)
    (t₁ : Tree) : Prop where
  proper : t₁.Proper
  frame : AgreeOn t t₁ (untouched src dir t touched)
  mirrored : ∀ b ∈ done, Mirrored src dir t b t₁
  dirs : KeepsDirs t t₁

section Step

variable {src : Source} {dir : String} {t t₁ t₂ : Tree} {b : String} {copied : List String}

theorem Progress.start (ht : t.Proper) : Progress src dir t [] [] t :=
  ⟨ht, AgreeOn.refl _ _, by simp, KeepsDirs.refl _⟩

/-- The source is as it was. -/
theorem Progress.region {done touched : List String}
    (hapart : ¬t.resolve src.root <+: t.resolve dir ∧ ¬t.resolve dir <+: t.resolve src.root)
    (hp : Progress src dir t done touched t₁) : AgreeOn t t₁ (src.region t) :=
  hp.frame.mono fun x hx => by simp [untouched, copyTargets_of_region hapart hx]

/-- Writing at the targets of one more bundle, and only there, keeps the progress made. -/
theorem Progress.copy (hp : Progress src dir t copied copied t₁) (hb : b ∉ copied)
    (ht₂ : t₂.Proper) (hag : AgreeOn t₁ t₂ (fun x => !copyTargets src dir t b x))
    (hkeep : KeepsDirs t₁ t₂) : Progress src dir t copied (copied ++ [b]) t₂ where
  proper := ht₂
  frame := (hp.frame.mono fun x hx => by simp_all [untouched_append]).trans
    (hag.mono fun x hx => by simp_all [untouched])
  mirrored := fun b' hb' => (hp.mirrored b' hb').mono hag fun l => by
    have hne : b' ≠ b := fun h => hb (h ▸ hb')
    simp [copyTargets_of_ne hne l]
  dirs := hp.dirs.trans hkeep

/-- One bundle's turn, whatever its outcome. It reads the bundle's versions as they were
before the installation; an outdated bundle is copied, and a failure is one of the system's,
met while copying an outdated bundle. -/
theorem syncStep_run (ht : t.Proper) (hr : isPlain src.root = true) (hd : isPlain dir = true)
    (hapart : ¬t.resolve src.root <+: t.resolve dir ∧ ¬t.resolve dir <+: t.resolve src.root)
    (hb : isName b = true) (hB : t.find? (t.resolve src.root ++ [b]) = some .dir)
    (hnot : b ∉ copied) (hp : Progress src dir t copied copied t₁)
    {r : Except Failure (List String)} (h : (syncStep src dir copied b).run t₁ = (r, t₂)) :
    (∀ copied', r = .ok copied' →
      copied' = copied ++ (if isOutdated src dir t b then [b] else []) ∧
        Progress src dir t copied' copied' t₂) ∧
    (∀ f, r = .error f → isOutdated src dir t b = true ∧ f.kind.isSystem = true ∧
      Progress src dir t copied (copied ++ [b]) t₂) := by
  have hreg := hp.region hapart
  -- the installed marker lies outside the copies made so far
  have hmarker : t₁.find? (t₁.resolve dir ++ [b, markerFile]) =
      t.find? (t.resolve dir ++ [b, markerFile]) := by
    rw [hp.frame.resolve, hp.frame.find? (untouched_of_not_mem hnot [markerFile])]
  rw [run_syncStep hp.proper hr hd hb, hmarker, shippedAt_agree hreg] at h
  cases hout : isOutdated src dir t b with
  | false =>
    -- the versions agree: nothing is copied
    have hsame : (versionAt (t.find? (t.resolve dir ++ [b, markerFile]))).sameKey
        (src.shippedAt t b) = true := by simpa [isOutdated] using hout
    rw [if_pos hsame] at h
    simp only [Prod.mk.injEq] at h
    obtain ⟨rfl, rfl⟩ := h
    refine ⟨fun c hc => ?_, fun f hf => by cases hf⟩
    cases hc
    exact ⟨by simp, hp⟩
  | true =>
    have hdiff : (versionAt (t.find? (t.resolve dir ++ [b, markerFile]))).sameKey
        (src.shippedAt t b) = false := by simpa [isOutdated] using hout
    rw [if_neg (by simp [hdiff])] at h
    rcases hc : (copyBundle src b (Files.join dir b)).run t₁ with ⟨f | u, t₃⟩
    · rw [hc] at h
      simp only [Prod.mk.injEq] at h
      obtain ⟨rfl, rfl⟩ := h
      obtain ⟨ht₃, hag₃, hkeep₃, hsys⟩ := copyBundle_run ht hr hd hapart hb hB hp.proper hreg hc
      refine ⟨fun c hc => (by cases hc), fun g hg => ?_⟩
      cases hg
      exact ⟨rfl, hsys _ rfl, hp.copy hnot ht₃ hag₃ hkeep₃⟩
    · rw [hc] at h
      simp only [Prod.mk.injEq] at h
      obtain ⟨rfl, rfl⟩ := h
      obtain ⟨ht₃, hag₃, hkeep₃, -⟩ := copyBundle_run ht hr hd hapart hb hB hp.proper hreg hc
      obtain ⟨-, -, hm⟩ := copyBundle_eq_ok ht hr hd hapart hb hB hp.proper hreg hc
      have hcopy := hp.copy hnot ht₃ hag₃ hkeep₃
      refine ⟨fun c hc => ?_, fun g hg => by cases hg⟩
      cases hc
      refine ⟨by simp, ⟨ht₃, hcopy.frame, fun b' hb' => ?_, hcopy.dirs⟩⟩
      rcases List.mem_append.1 hb' with hb' | hb'
      · exact hcopy.mirrored b' hb'
      · rw [List.mem_singleton.1 hb']
        exact hm

end Step


/-! ## A whole installation -/

section Fold

variable {src : Source} {dir : String} {t : Tree}

/-- The installation's turns over the bundles `bs`, whatever their outcome: a run that
returns copied the outdated bundles among them, in order, and mirrors them; a failure is one
of the system's and comes in the copy of an outdated bundle, after the outdated ones before
it were copied. -/
theorem foldSync_run (ht : t.Proper) (hr : isPlain src.root = true) (hd : isPlain dir = true)
    (hapart : ¬t.resolve src.root <+: t.resolve dir ∧ ¬t.resolve dir <+: t.resolve src.root)
    (bs : List String)
    (hbs : ∀ b ∈ bs, isName b = true ∧ t.find? (t.resolve src.root ++ [b]) = some .dir)
    (hnd : bs.Nodup) :
    ∀ {copied : List String} {t₁ t₂ : Tree} {r : Except Failure (List String)},
      (∀ b ∈ bs, b ∉ copied) → Progress src dir t copied copied t₁ →
      (bs.foldlM (syncStep src dir) copied).run t₁ = (r, t₂) →
      (∀ copied', r = .ok copied' → copied' = copied ++ bs.filter (isOutdated src dir t) ∧
        Progress src dir t copied' copied' t₂) ∧
      (∀ f, r = .error f → f.kind.isSystem = true ∧ ∃ pre b post,
        bs.filter (isOutdated src dir t) = pre ++ b :: post ∧
        Progress src dir t (copied ++ pre) (copied ++ pre ++ [b]) t₂) := by
  induction bs with
  | nil =>
    intro copied t₁ t₂ r _ hp h
    simp only [List.foldlM_nil, Action.run_pure, Prod.mk.injEq] at h
    obtain ⟨rfl, rfl⟩ := h
    refine ⟨fun c hc => ?_, fun f hf => by cases hf⟩
    cases hc
    exact ⟨by simp, hp⟩
  | cons b bs ih =>
    intro copied t₁ t₂ r hfresh hp h
    rw [Action.run_foldlM_cons] at h
    obtain ⟨hb, hB⟩ := hbs b List.mem_cons_self
    obtain ⟨hbnot, hnd'⟩ := List.nodup_cons.1 hnd
    rcases h₁ : (syncStep src dir copied b).run t₁ with ⟨f | c₃, t₃⟩
    · -- the copy of this bundle fails
      rw [h₁] at h
      simp only [Prod.mk.injEq] at h
      obtain ⟨rfl, rfl⟩ := h
      obtain ⟨hout, hsys, hp₃⟩ :=
        (syncStep_run ht hr hd hapart hb hB (hfresh b List.mem_cons_self) hp h₁).2 f rfl
      refine ⟨fun c hc => (by cases hc), fun g hg => ?_⟩
      cases hg
      exact ⟨hsys, [], b, bs.filter (isOutdated src dir t), by simp [hout], by simpa using hp₃⟩
    · rw [h₁] at h
      simp only at h
      obtain ⟨rfl, hp₃⟩ :=
        (syncStep_run ht hr hd hapart hb hB (hfresh b List.mem_cons_self) hp h₁).1 c₃ rfl
      -- the bundles still to come are neither among those copied nor this one
      have hfresh₃ : ∀ b' ∈ bs, b' ∉ copied ++ (if isOutdated src dir t b then [b] else []) := by
        intro b' hb' hmem
        rcases List.mem_append.1 hmem with hmem | hmem
        · exact hfresh b' (List.mem_cons_of_mem _ hb') hmem
        · split at hmem
          · exact hbnot (List.mem_singleton.1 hmem ▸ hb')
          · cases hmem
      obtain ⟨hok, herr⟩ :=
        ih (fun b' hb' => hbs b' (List.mem_cons_of_mem _ hb')) hnd' hfresh₃ hp₃ h
      refine ⟨fun c hc => ?_, fun g hg => ?_⟩
      · obtain ⟨rfl, hp₂⟩ := hok c hc
        refine ⟨?_, hp₂⟩
        cases hout : isOutdated src dir t b <;> simp [hout]
      · obtain ⟨hsys, pre, b', post, hsplit, hp₂⟩ := herr g hg
        refine ⟨hsys, (if isOutdated src dir t b then [b] else []) ++ pre, b', post, ?_, ?_⟩
        · cases hout : isOutdated src dir t b <;> simp [hout, hsplit]
        · simpa using hp₂

end Fold

/-- Two bundles: `a` ships version `2` over an installed `1` whose copy also holds a file and
a directory of its own; `b` ships the version installed. -/
def twoBundleTree : Tree where
  entries := [([], .dir), (["src"], .dir), (["src", "a"], .dir),
    (["src", "a", "version.json"], .file "\x7b\"version\": \"2\"\x7d".toUTF8.toList),
    (["src", "a", "f.tmpl"], .file [115]), (["src", "b"], .dir),
    (["src", "b", "version.json"], .file "\x7b\"version\": \"1\"\x7d".toUTF8.toList),
    (["inst"], .dir), (["inst", "a"], .dir),
    (["inst", "a", "version.json"], .file "\x7b\"version\": \"1\"\x7d".toUTF8.toList),
    (["inst", "a", "old.txt"], .file [111]), (["inst", "a", "sub"], .dir), (["inst", "b"], .dir),
    (["inst", "b", "version.json"], .file "\x7b\"version\": \"1\"\x7d".toUTF8.toList)]

def twoBundleSource : Source := ⟨"/src", []⟩

-- Only `a` is outdated, and the installation copies it alone.
example : outdated twoBundleSource "/inst" twoBundleTree = ["a"] ∧
    ((ensureTemplates twoBundleSource "/inst").run twoBundleTree).1 = .ok ["a"] := by
  decide +kernel

end Preflight.Template
