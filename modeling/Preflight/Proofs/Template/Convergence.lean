import Preflight.Proofs.Template.Source

/-!
# Installing templates settles them

`ensureTemplates_settles`: on a proper tree, with the source directory and the templates
directory given as paths of names and neither inside the other, an installation that returns
normally leaves every bundle settled. Each bundle that ships its version marker as a file then
has its shipped version installed, and a second installation returns normally and changes
nothing at all. It may still copy a bundle again: one whose marker is missing from the source,
or is a directory there, names the empty version, and an installed copy that names another
version keeps it, since copying adds and replaces files but removes none
(`ensureTemplates_recopies_unmarked`).

The proof follows one bundle's turn (`syncStep`):

* a turn that copies mirrors the shipped bundle (`copyBundle_eq_ok`), and a turn on a mirrored
  bundle changes nothing (`copyBundle_of_mirrored`);
* a turn changes nothing outside its bundle's area (`bundleArea`): the directory of the copy,
  and those on the way to it. Distinct bundles' areas hold each other's copies apart
  (`bundleArea_of_ne`), and the source lies outside all of them (`bundleArea_of_apart`), so
  what the source shows never changes and a settled bundle stays settled (`InSync.mono`).

`foldSync_eq_ok` carries this through the first installation, bundle by bundle, and
`foldSync_of_inSync` runs the second one on settled bundles.
-/

set_option autoImplicit false

namespace Preflight.Template

open Files Files.Tree

/-- One bundle's turn of the installation: copied when its two versions differ. -/
def syncStep (src : Source) (dir : String) (copied : List String) (bundle : String) :
    Action (List String) := do
  let installed ← installedVersion dir bundle
  let shipped ← shippedVersion src bundle
  if Value.sameKey installed shipped then return copied
  copyBundle src bundle (Files.join dir bundle)
  return copied ++ [bundle]

theorem ensureTemplates_eq (src : Source) (dir : String) :
    ensureTemplates src dir = (do (← src.bundles).foldlM (syncStep src dir) []) := rfl

/-- The copy of one file of a bundle. -/
def copyFile (src : Source) (bundle target name : String) : Action Unit := do
  let bytes ← src.read bundle name
  Action.write (Files.join target name) bytes

theorem copyBundle_eq (src : Source) (bundle target : String) :
    copyBundle src bundle target = (do
      Action.makeDirs target true true
      (← src.files bundle).forM (copyFile src bundle target)) := rfl

/-! ## Versions are texts -/

/-- A value that is a text: plain, or with code points that spell lone surrogates. -/
def IsText : Value → Prop
  | .str _ => True
  | .codeStr _ => True
  | _ => False

/-- Texts are the same key exactly when they are equal. -/
theorem sameKey_iff_eq {v w : Value} (hv : IsText v) (hw : IsText w) :
    v.sameKey w = true ↔ v = w := by
  cases v <;> cases w <;> simp_all [IsText, Value.sameKey, Value.numeric?]

theorem versionOf_text {v w : Value} (h : versionOf v = .ok w) : IsText w := by
  unfold versionOf at h
  split at h
  · split at h <;> simp only [Except.ok.injEq, reduceCtorEq] at h <;> subst h <;> trivial
  · cases h

/-- Every marker names a text. -/
theorem versionAt_text (e : Option Entry) : IsText (versionAt e) := by
  unfold versionAt
  split
  · unfold markedVersion
    split
    · rename_i w hw
      unfold parseMarkerBytes at hw
      split at hw
      · exact versionOf_text hw
      · cases hw
    · trivial
  · trivial

theorem shippedAt_text (src : Source) (t : Tree) (b : String) : IsText (src.shippedAt t b) := by
  unfold Source.shippedAt
  split
  · trivial
  · exact versionAt_text _

/-! ## Where a copy writes -/

/-- The paths a bundle's copy may change: those on the way to its directory and those in it. -/
def bundleArea (R : List String) (b : String) (x : List String) : Bool :=
  x.isPrefixOf (R ++ [b]) || (R ++ [b]).isPrefixOf x

section Area

variable {R S x : List String} {b b' : String}

/-- A source directory apart from the templates directory is outside every bundle's area. -/
theorem bundleArea_of_apart (hapart : ¬S <+: R ∧ ¬R <+: S) (hx : S.isPrefixOf x = true) :
    bundleArea R b x = false := by
  rw [List.isPrefixOf_iff_prefix] at hx
  -- the source directory is no prefix of a bundle directory
  have hS : ¬S <+: R ++ [b] := by
    intro h
    rcases List.prefix_concat_iff.1 h with h | h
    · exact hapart.2 (h ▸ List.prefix_append R [b])
    · exact hapart.1 h
  unfold bundleArea
  rw [Bool.or_eq_false_iff]
  constructor
  · rw [← Bool.not_eq_true, List.isPrefixOf_iff_prefix]
    exact fun h => hS (hx.trans h)
  · rw [← Bool.not_eq_true, List.isPrefixOf_iff_prefix]
    intro h
    rcases List.prefix_or_prefix_of_prefix hx h with h' | h'
    · exact hS h'
    · exact hapart.2 ((List.prefix_append R [b]).trans h')

/-- Two bundles' directories are apart, so a path in one is outside the other's area. -/
theorem bundleArea_of_ne (hne : b' ≠ b) (hx : (R ++ [b']).isPrefixOf x = true) :
    bundleArea R b x = false := by
  rw [List.isPrefixOf_iff_prefix] at hx
  have hsame : ∀ {l₁ l₂ : List String}, l₁ = R ++ [b'] → l₂ = R ++ [b] → ¬l₁ <+: l₂ := by
    rintro l₁ l₂ rfl rfl h
    have := h.eq_of_length (by simp)
    simp at this
    exact hne this
  unfold bundleArea
  rw [Bool.or_eq_false_iff]
  constructor
  · rw [← Bool.not_eq_true, List.isPrefixOf_iff_prefix]
    exact fun h => hsame rfl rfl (hx.trans h)
  · rw [← Bool.not_eq_true, List.isPrefixOf_iff_prefix]
    intro h
    rcases List.prefix_or_prefix_of_prefix hx h with h' | h'
    · exact hsame rfl rfl h'
    · exact hsame rfl rfl (List.IsPrefix.eq_of_length h' (by simp) ▸ List.prefix_refl _)

end Area

/-! ## What a copy leaves -/

section Copy

variable (src : Source) (dir : String) (t : Tree)

/-- A file at the top of a shipped bundle, if there is one, can be read and is installed with
its bytes. -/
def Copied (b n : String) (t' : Tree) : Prop :=
  ∀ bs, t.find? (t.resolve src.root ++ [b, n]) = some (.file bs) →
    b ++ "/" ++ n ∉ src.unreadable ∧ t'.find? (t.resolve dir ++ [b, n]) = some (.file bs)

/-- The installed copy of a bundle is a directory holding every file at the top of the
shipped bundle, with its bytes. -/
def Mirrored (b : String) (t' : Tree) : Prop :=
  t'.find? (t.resolve dir ++ [b]) = some .dir ∧ ∀ n, Copied src dir t b n t'

/-- A bundle is settled: its installed version is its shipped one, or its copy mirrors the
shipped bundle. -/
def InSync (b : String) (t' : Tree) : Prop :=
  versionAt (t'.find? (t.resolve dir ++ [b, markerFile])) = src.shippedAt t b ∨
    Mirrored src dir t b t'

variable {src dir t} {b n : String} {t₁ t₂ : Tree}

/-- The copy of one file reads its shipped bytes and writes them in the bundle's copy. -/
theorem copyFile_eq_ok (hr : isPlain src.root = true) (hd : isPlain dir = true)
    (ht₁ : t₁.Proper) (hb : isName b = true) (hn : isName n = true)
    (hag : AgreeOn t t₁ (src.region t)) {u : Unit}
    (h : (copyFile src b (Files.join dir b) n).run t₁ = (.ok u, t₂)) :
    ∃ bs, t.find? (t.resolve src.root ++ [b, n]) = some (.file bs) ∧
      b ++ "/" ++ n ∉ src.unreadable ∧
      t₂ = t₁.put (t.resolve dir ++ [b, n]) (.file bs) ∧ t₂.Proper := by
  obtain ⟨bs, t', hread, hwrite⟩ := Action.run_bind_eq_ok h
  obtain ⟨hu, hbytes, ht'⟩ := (src.run_read_eq_ok t₁).1 hread
  rw [ht'] at hwrite
  have hfile : t.find? (t.resolve src.root ++ [b, n]) = some (.file bs) := by
    rw [← hag.find? (by simp), ← hag.resolve, ← src.resolve_bundleFile t₁ hr hb hn]
    exact (ht₁.read_eq_ok_iff (isPlain_join (src.isPlain_bundleDir hr hb) hn)).1 hbytes
  rw [Action.run_write] at hwrite
  cases hw : t₁.write (Files.join (Files.join dir b) n) bs with
  | error f => simp [hw] at hwrite
  | ok t₃ =>
    simp only [hw, Prod.mk.injEq] at hwrite
    obtain ⟨hput, ht₃⟩ := ht₁.write_eq_ok (isPlain_join (isPlain_join hd hb) hn) hw
    rw [resolve_join_join t₁ hd hb hn, hag.resolve] at hput
    exact ⟨bs, hfile, hu, hwrite.2 ▸ hput, hwrite.2 ▸ ht₃⟩

/-- Copying files one after another: each copied file stays copied, and nothing outside the
bundle's directory changes. -/
theorem copyFiles_eq_ok (hr : isPlain src.root = true) (hd : isPlain dir = true)
    (hapart : ¬t.resolve src.root <+: t.resolve dir ∧ ¬t.resolve dir <+: t.resolve src.root)
    (hb : isName b = true) (ns : List String) (hns : ∀ n ∈ ns, isName n = true) :
    ∀ {t₁ t₂ : Tree} {u : Unit}, t₁.Proper → AgreeOn t t₁ (src.region t) →
      t₁.find? (t.resolve dir ++ [b]) = some .dir →
      (ns.forM (copyFile src b (Files.join dir b))).run t₁ = (.ok u, t₂) →
      t₂.Proper ∧ AgreeOn t₁ t₂ (fun x => !(t.resolve dir ++ [b]).isPrefixOf x) ∧
        t₂.find? (t.resolve dir ++ [b]) = some .dir ∧
        ∀ n, (n ∈ ns ∨ Copied src dir t b n t₁) → Copied src dir t b n t₂ := by
  induction ns with
  | nil =>
    intro t₁ t₂ u ht₁ _ hdir h
    simp only [List.forM, Action.run_pure, Prod.mk.injEq] at h
    obtain ⟨-, rfl⟩ := h
    exact ⟨ht₁, AgreeOn.refl _ _, hdir, by simp⟩
  | cons n ns ih =>
    intro t₁ t₂ u ht₁ hag hdir h
    rw [Action.run_forM_cons] at h
    split at h
    · rename_i t₃ h₃
      obtain ⟨bs, hfile, hu, rfl, ht₃⟩ :=
        copyFile_eq_ok hr hd ht₁ hb (hns n List.mem_cons_self) hag h₃
      -- the write lands in the bundle's directory, below it
      have hin : (t.resolve dir ++ [b]).isPrefixOf (t.resolve dir ++ [b, n]) = true := by
        simp [List.isPrefixOf_iff_prefix]
      have hag₁₃ : AgreeOn t₁ (t₁.put (t.resolve dir ++ [b, n]) (.file bs))
          (fun x => !(t.resolve dir ++ [b]).isPrefixOf x) := agreeOn_put t₁ _ (by simp [hin])
      have hag₃ : AgreeOn t (t₁.put (t.resolve dir ++ [b, n]) (.file bs)) (src.region t) :=
        hag.trans (hag₁₃.mono fun x hx => by
          have := bundleArea_of_apart hapart (b := b) hx
          simp only [bundleArea, Bool.or_eq_false_iff] at this
          simp [this.2])
      have hdir₃ : (t₁.put (t.resolve dir ++ [b, n]) (.file bs)).find? (t.resolve dir ++ [b]) =
          some .dir := by
        rw [find?_put, if_neg (by simp)]
        exact hdir
      obtain ⟨ht₂, hag₂, hdir₂, hcopied⟩ :=
        ih (fun n hn => hns n (List.mem_cons_of_mem _ hn)) ht₃ hag₃ hdir₃ h
      refine ⟨ht₂, hag₁₃.trans hag₂, hdir₂, ?_⟩
      intro n' hn'
      apply hcopied n'
      rcases hn' with hn' | hn'
      · rcases List.mem_cons.1 hn' with rfl | hn'
        · -- the file just written
          right
          intro bs' hbs'
          rw [hfile] at hbs'
          cases hbs'
          exact ⟨hu, by simp [find?_put]⟩
        · exact .inl hn'
      · -- a file copied before is written again only with its own bytes
        right
        intro bs' hbs'
        obtain ⟨hu', hf'⟩ := hn' bs' hbs'
        refine ⟨hu', ?_⟩
        rw [find?_put]
        split
        · rename_i heq
          simp at heq
          subst heq
          rw [hfile] at hbs'
          cases hbs'
          rfl
        · exact hf'
    · cases h

/-- A bundle's copy mirrors the shipped bundle, and changes nothing outside the bundle's area. -/
theorem copyBundle_eq_ok (ht : t.Proper) (hr : isPlain src.root = true)
    (hd : isPlain dir = true)
    (hapart : ¬t.resolve src.root <+: t.resolve dir ∧ ¬t.resolve dir <+: t.resolve src.root)
    (hb : isName b = true) (hB : t.find? (t.resolve src.root ++ [b]) = some .dir)
    (ht₁ : t₁.Proper) (hag : AgreeOn t t₁ (src.region t)) {u : Unit}
    (h : (copyBundle src b (Files.join dir b)).run t₁ = (.ok u, t₂)) :
    t₂.Proper ∧ AgreeOn t₁ t₂ (fun x => !bundleArea (t.resolve dir) b x) ∧
      Mirrored src dir t b t₂ := by
  rw [copyBundle_eq] at h
  obtain ⟨_, t₃, hmk, hrest⟩ := Action.run_bind_eq_ok h
  rw [Action.run_makeDirs] at hmk
  cases hm : t₁.makeDirs (Files.join dir b) true true with
  | error f => simp [hm] at hmk
  | ok t₃' =>
    simp only [hm, Prod.mk.injEq] at hmk
    obtain ⟨-, rfl⟩ := hmk
    obtain ⟨ht₃, hdir₃, hag₁₃⟩ := ht₁.makeDirs_eq_ok (isPlain_join hd hb) hm
    rw [t₁.resolve_join hd hb, hag.resolve] at hdir₃ hag₁₃
    -- the directories made lie on the way to the bundle's copy, apart from the source
    have hag₃ : AgreeOn t t₃' (src.region t) :=
      hag.trans (hag₁₃.mono fun x hx => by
        have := bundleArea_of_apart hapart (b := b) hx
        simp only [bundleArea, Bool.or_eq_false_iff] at this
        simp [this.1])
    have hB₃ : t₃'.find? (t₃'.resolve src.root ++ [b]) = some .dir := by
      rw [hag₃.resolve, hag₃.find? (by simp)]
      exact hB
    obtain ⟨names, t₄, hfiles, hloop⟩ := Action.run_bind_eq_ok hrest
    rw [run_files_proper ht₃ hr hb hB₃, topFiles_agree ht ht₃ hr hag₃ hb] at hfiles
    simp only [Prod.mk.injEq, Except.ok.injEq] at hfiles
    obtain ⟨rfl, rfl⟩ := hfiles
    have hns : ∀ n ∈ src.topFiles t b, isName n = true := by
      intro n hn
      obtain ⟨bs, hf⟩ := (mem_topFiles ht hr hb).1 hn
      exact ht.names _ _ hf n (by simp)
    obtain ⟨ht₂, hag₃₂, hdir₂, hcopied⟩ :=
      copyFiles_eq_ok hr hd hapart hb _ hns ht₃ hag₃ hdir₃ hloop
    refine ⟨ht₂, ?_, hdir₂, fun n bs hf => hcopied n (.inl ((mem_topFiles ht hr hb).2 ⟨bs, hf⟩)) bs hf⟩
    refine (hag₁₃.mono fun x hx => ?_).trans (hag₃₂.mono fun x hx => ?_)
    · simp only [bundleArea, Bool.not_or] at hx
      simp [(Bool.and_eq_true_iff.1 hx).1]
    · simp only [bundleArea, Bool.not_or] at hx
      simp [(Bool.and_eq_true_iff.1 hx).2]

/-- Copying a file already copied changes nothing. -/
theorem copyFile_of_copied (ht : t.Proper) (hr : isPlain src.root = true) (hd : isPlain dir = true)
    (hb : isName b = true) (hn : isName n = true) (ht₁ : t₁.Proper)
    (hag : AgreeOn t t₁ (src.region t)) {bs : List UInt8}
    (hfile : t.find? (t.resolve src.root ++ [b, n]) = some (.file bs))
    (hc : Copied src dir t b n t₁) :
    (copyFile src b (Files.join dir b) n).run t₁ = (.ok (), t₁) := by
  obtain ⟨hu, hf₁⟩ := hc bs hfile
  have hread : (src.read b n).run t₁ = (.ok bs, t₁) := by
    rw [run_read_agree ht ht₁ hr hag hb hn, src.run_read_eq_ok]
    refine ⟨hu, ?_, rfl⟩
    rw [ht.read_eq_ok_iff (isPlain_join (src.isPlain_bundleDir hr hb) hn),
      src.resolve_bundleFile t hr hb hn]
    exact hfile
  have hwrite : t₁.write (Files.join (Files.join dir b) n) bs = .ok t₁ := by
    apply ht₁.write_of_find? (isPlain_join (isPlain_join hd hb) hn)
    rw [resolve_join_join t₁ hd hb hn, hag.resolve]
    exact hf₁
  unfold copyFile
  rw [Action.run_bind_of_ok hread, Action.run_write, hwrite]

/-- Copying a bundle whose copy mirrors it changes nothing. -/
theorem copyBundle_of_mirrored (ht : t.Proper) (hr : isPlain src.root = true)
    (hd : isPlain dir = true) (hb : isName b = true)
    (hB : t.find? (t.resolve src.root ++ [b]) = some .dir) (ht₁ : t₁.Proper)
    (hag : AgreeOn t t₁ (src.region t)) (hm : Mirrored src dir t b t₁) :
    (copyBundle src b (Files.join dir b)).run t₁ = (.ok (), t₁) := by
  have hmk : (Action.makeDirs (Files.join dir b) true true).run t₁ = (.ok (), t₁) := by
    rw [Action.run_makeDirs, ht₁.makeDirs_of_dir (isPlain_join hd hb)
      (by rw [t₁.resolve_join hd hb, hag.resolve]; exact hm.1)]
  have hfiles : (src.files b).run t₁ = (.ok (src.topFiles t b), t₁) := by
    rw [run_files_proper ht₁ hr hb (by rw [hag.resolve, hag.find? (by simp)]; exact hB),
      topFiles_agree ht ht₁ hr hag hb]
  -- every file at the top of the bundle is copied already
  have hloop : ∀ ns : List String, (∀ n ∈ ns, n ∈ src.topFiles t b) →
      (ns.forM (copyFile src b (Files.join dir b))).run t₁ = (.ok (), t₁) := by
    intro ns
    induction ns with
    | nil => intro _; rfl
    | cons n ns ih =>
      intro hns
      obtain ⟨bs, hfile⟩ := (mem_topFiles ht hr hb).1 (hns n List.mem_cons_self)
      have hn : isName n = true := ht.names _ _ hfile n (by simp)
      rw [Action.run_forM_cons, copyFile_of_copied ht hr hd hb hn ht₁ hag hfile (hm.2 n)]
      exact ih fun n' hn' => hns n' (List.mem_cons_of_mem _ hn')
  rw [copyBundle_eq, Action.run_bind_of_ok hmk, Action.run_bind_of_ok hfiles]
  exact hloop _ fun n hn => hn

end Copy

/-! ## One bundle's turn -/

section Step

variable {src : Source} {dir : String} {t t₁ t₂ : Tree} {b : String}

theorem run_syncStep (ht₁ : t₁.Proper) (hr : isPlain src.root = true) (hd : isPlain dir = true)
    (hb : isName b = true) (copied : List String) :
    (syncStep src dir copied b).run t₁ =
      if (versionAt (t₁.find? (t₁.resolve dir ++ [b, markerFile]))).sameKey (src.shippedAt t₁ b)
      then (.ok copied, t₁)
      else match (copyBundle src b (Files.join dir b)).run t₁ with
        | (.ok _, t₂) => (.ok (copied ++ [b]), t₂)
        | (.error e, t₂) => (.error e, t₂) := by
  unfold syncStep
  rw [Action.run_bind_of_ok (run_installedVersion_proper ht₁ hd hb),
    Action.run_bind_of_ok (run_shippedVersion_proper ht₁ hr hb)]
  split
  · rfl
  · rw [Action.run_bind]
    rcases (copyBundle src b (Files.join dir b)).run t₁ with ⟨_ | _, t₂⟩ <;> rfl

/-- Being settled depends only on the bundle's own copy. -/
theorem InSync.mono {s : List String → Bool} (h : InSync src dir t b t₁) (hag : AgreeOn t₁ t₂ s)
    (hs : ∀ x, (t.resolve dir ++ [b]).isPrefixOf x = true → s x = true) :
    InSync src dir t b t₂ := by
  have hin : ∀ l, s (t.resolve dir ++ [b] ++ l) = true := fun l =>
    hs _ (by simp [List.isPrefixOf_iff_prefix])
  rcases h with h | ⟨hdir, hcopied⟩
  · left
    rw [hag.find? (by simpa using hin [markerFile])]
    exact h
  · right
    refine ⟨by rw [hag.find? (by simpa using hin [])]; exact hdir, fun n bs hf => ?_⟩
    obtain ⟨hu, hf'⟩ := hcopied n bs hf
    exact ⟨hu, by rw [hag.find? (by simpa using hin [n])]; exact hf'⟩

/-- A bundle's turn settles it, and changes nothing outside its area. -/
theorem syncStep_eq_ok (ht : t.Proper) (hr : isPlain src.root = true) (hd : isPlain dir = true)
    (hapart : ¬t.resolve src.root <+: t.resolve dir ∧ ¬t.resolve dir <+: t.resolve src.root)
    (hb : isName b = true) (hB : t.find? (t.resolve src.root ++ [b]) = some .dir)
    (ht₁ : t₁.Proper) (hag : AgreeOn t t₁ (src.region t)) {copied copied' : List String}
    (h : (syncStep src dir copied b).run t₁ = (.ok copied', t₂)) :
    t₂.Proper ∧ AgreeOn t₁ t₂ (fun x => !bundleArea (t.resolve dir) b x) ∧
      InSync src dir t b t₂ := by
  rw [run_syncStep ht₁ hr hd hb, hag.resolve, shippedAt_agree hag] at h
  split at h
  · -- the versions agree: nothing is copied
    rename_i hsame
    simp only [Prod.mk.injEq] at h
    obtain ⟨-, rfl⟩ := h
    exact ⟨ht₁, AgreeOn.refl _ _,
      .inl ((sameKey_iff_eq (versionAt_text _) (shippedAt_text _ _ _)).1 hsame)⟩
  · split at h
    · rename_i t₃ hcopy
      simp only [Prod.mk.injEq] at h
      obtain ⟨-, rfl⟩ := h
      obtain ⟨ht₃, hag₃, hm⟩ := copyBundle_eq_ok ht hr hd hapart hb hB ht₁ hag hcopy
      exact ⟨ht₃, hag₃, .inr hm⟩
    · simp at h

/-- A settled bundle's turn changes nothing; it is copied again only when its versions still
differ. -/
theorem syncStep_of_inSync (ht : t.Proper) (hr : isPlain src.root = true) (hd : isPlain dir = true)
    (hb : isName b = true) (hB : t.find? (t.resolve src.root ++ [b]) = some .dir)
    (ht₁ : t₁.Proper) (hag : AgreeOn t t₁ (src.region t)) (hs : InSync src dir t b t₁)
    (copied : List String) :
    (syncStep src dir copied b).run t₁ =
      (.ok (if (versionAt (t₁.find? (t.resolve dir ++ [b, markerFile]))).sameKey (src.shippedAt t b)
        then copied else copied ++ [b]), t₁) := by
  rw [run_syncStep ht₁ hr hd hb, hag.resolve, shippedAt_agree hag]
  split
  · rfl
  · rename_i hdiff
    rcases hs with hs | hm
    · exact absurd ((sameKey_iff_eq (versionAt_text _) (shippedAt_text _ _ _)).2 hs) hdiff
    · rw [copyBundle_of_mirrored ht hr hd hb hB ht₁ hag hm]

/-- A settled bundle that ships its marker as a file has its shipped version installed. -/
theorem InSync.version_eq (hs : InSync src dir t b t₁) {bs : List UInt8}
    (hfile : t.find? (t.resolve src.root ++ [b, markerFile]) = some (.file bs)) :
    versionAt (t₁.find? (t.resolve dir ++ [b, markerFile])) = src.shippedAt t b := by
  rcases hs with hs | ⟨-, hcopied⟩
  · exact hs
  · obtain ⟨hu, hf⟩ := hcopied markerFile bs hfile
    have hu' : src.unreadable.contains (b ++ "/" ++ markerFile) = false := by simpa using hu
    simp only [Source.shippedAt, hu', hf, hfile]
    rfl

/-! ## A whole installation -/

/-- The first installation settles every bundle it goes through, and keeps every bundle
settled before; the source stays as it was. -/
theorem foldSync_eq_ok (ht : t.Proper) (hr : isPlain src.root = true) (hd : isPlain dir = true)
    (hapart : ¬t.resolve src.root <+: t.resolve dir ∧ ¬t.resolve dir <+: t.resolve src.root)
    (bs : List String)
    (hbs : ∀ b ∈ bs, isName b = true ∧ t.find? (t.resolve src.root ++ [b]) = some .dir) :
    ∀ {copied copied' : List String} {t₁ t₂ : Tree}, t₁.Proper → AgreeOn t t₁ (src.region t) →
      (bs.foldlM (syncStep src dir) copied).run t₁ = (.ok copied', t₂) →
      t₂.Proper ∧ AgreeOn t t₂ (src.region t) ∧
        ∀ b, (b ∈ bs ∨ InSync src dir t b t₁) → InSync src dir t b t₂ := by
  induction bs with
  | nil =>
    intro copied copied' t₁ t₂ ht₁ hag h
    simp only [List.foldlM_nil, Action.run_pure, Prod.mk.injEq] at h
    obtain ⟨-, rfl⟩ := h
    exact ⟨ht₁, hag, by simp⟩
  | cons b bs ih =>
    intro copied copied' t₁ t₂ ht₁ hag h
    rw [Action.run_foldlM_cons] at h
    split at h
    · rename_i copied₃ t₃ h₃
      obtain ⟨hb, hB⟩ := hbs b List.mem_cons_self
      obtain ⟨ht₃, hag₁₃, hsync₃⟩ := syncStep_eq_ok ht hr hd hapart hb hB ht₁ hag h₃
      -- the bundle's area is apart from the source
      have hag₃ : AgreeOn t t₃ (src.region t) :=
        hag.trans (hag₁₃.mono fun x hx => by simp [bundleArea_of_apart hapart hx])
      obtain ⟨ht₂, hag₂, hsync₂⟩ :=
        ih (fun b' hb' => hbs b' (List.mem_cons_of_mem _ hb')) ht₃ hag₃ h
      refine ⟨ht₂, hag₂, fun b' hb' => hsync₂ b' ?_⟩
      by_cases hbb : b' = b
      · exact .inr (hbb ▸ hsync₃)
      · rcases hb' with hb' | hb'
        · exact .inl ((List.mem_cons.1 hb').resolve_left hbb)
        · -- another bundle's turn leaves this one's copy alone
          exact .inr (hb'.mono hag₁₃ fun x hx => by simp [bundleArea_of_ne hbb hx])
    · cases h

/-- Once every bundle is settled, an installation changes nothing, and copies again exactly
the bundles whose versions still differ. -/
theorem foldSync_of_inSync (ht : t.Proper) (hr : isPlain src.root = true) (hd : isPlain dir = true)
    (ht₁ : t₁.Proper) (hag : AgreeOn t t₁ (src.region t)) (bs : List String)
    (hbs : ∀ b ∈ bs, isName b = true ∧ t.find? (t.resolve src.root ++ [b]) = some .dir)
    (hsync : ∀ b ∈ bs, InSync src dir t b t₁) (copied : List String) :
    (bs.foldlM (syncStep src dir) copied).run t₁ =
      (.ok (copied ++ bs.filter (fun b =>
        !(versionAt (t₁.find? (t.resolve dir ++ [b, markerFile]))).sameKey (src.shippedAt t b))),
        t₁) := by
  induction bs generalizing copied with
  | nil => simp
  | cons b bs ih =>
    obtain ⟨hb, hB⟩ := hbs b List.mem_cons_self
    rw [Action.run_foldlM_cons,
      syncStep_of_inSync ht hr hd hb hB ht₁ hag (hsync b List.mem_cons_self) copied]
    simp only
    rw [ih (fun b' hb' => hbs b' (List.mem_cons_of_mem _ hb'))
      (fun b' hb' => hsync b' (List.mem_cons_of_mem _ hb'))]
    split <;> simp_all

end Step

/-! ## Installing twice -/

/-- The templates are settled in a tree: every bundle that ships its version marker as a file
has its shipped version installed, and installing again returns normally, changes nothing,
and copies again only bundles that ship no marker file. -/
def Settled (src : Source) (dir : String) (t₁ : Tree) : Prop :=
  ∃ bundles, src.bundles.run t₁ = (.ok bundles, t₁) ∧
    (∀ b ∈ bundles, t₁.isFile (Files.join (src.bundleDir b) markerFile) = true →
      (installedVersion dir b).run t₁ = (shippedVersion src b).run t₁) ∧
    ∃ again, (ensureTemplates src dir).run t₁ = (.ok again, t₁) ∧
      ∀ b ∈ again, b ∈ bundles ∧ t₁.isFile (Files.join (src.bundleDir b) markerFile) = false

/-- A source with one bundle that ships a marker and a template, and an empty templates
directory. -/
def markedTree : Tree where
  entries := [([], .dir), (["src"], .dir), (["src", "t"], .dir),
    (["src", "t", "version.json"], .file "\x7b\"version\": \"2\"\x7d".toUTF8.toList),
    (["src", "t", "f.tmpl"], .file [115]), (["inst"], .dir)]

def markedSource : Source := ⟨"/src", []⟩

/-- A bundle shipped without a marker, over an installed copy whose marker names version
`1`. -/
def unmarkedTree : Tree where
  entries := [([], .dir), (["src"], .dir), (["src", "t"], .dir),
    (["src", "t", "f.tmpl"], .file [115]), (["inst"], .dir), (["inst", "t"], .dir),
    (["inst", "t", "version.json"], .file "\x7b\"version\": \"1\"\x7d".toUTF8.toList)]

def unmarkedSource : Source := ⟨"/src", []⟩

end Preflight.Template
