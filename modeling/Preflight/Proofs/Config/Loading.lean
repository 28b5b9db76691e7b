import Preflight.Proofs.Config.Raising
import Preflight.Proofs.Report
import Preflight.Proofs.Startup.LogLevel
import Preflight.Proofs.Text.Sorted

/-!
# Reading the configuration files

The configuration files are the regular files of the installation's `config` directory whose
suffix is `.yaml`, in order of name (paths of one directory compare as their names), then the
workspace's `checkpipe.yaml` when it is a regular file (`configFiles_eq`, `mem_yamlNames`,
`pairwise_yamlNames`).

A file's settings are those under `options.general` with the old names renamed: an old name
is gone, a new name keeps its own value or else takes the old one's, and every other name is
as written (`foldl_renameStep_find?`); there is a warning for each old name used, in the order
of `renamedSettings` (`foldl_renameStep_report`). Read after other files, a file gives the
same settings and adds the same warnings to the report (`readFile_report`), so reading is
described by what each file gives on its own (`fileTable`, `fileWarnings`).

Over files that all parse, reading sets each file's settings over those before it, lists
every file and gathers every warning (`foldlM_loadStep_of_parsed`); a file that reports an
error stops the reading with that error, and gives nothing of its own
(`foldlM_loadStep_nil_of_rejected`). `loadFiles_reads_in_order` puts the pieces together.
-/

set_option autoImplicit false

namespace Preflight.Config

open Files (Tree isPlain isName)

/-! ## Renaming the old setting names -/

section Renaming

variable (path : String)

theorem renameStep_snd (t : Table) (r : Report) (names : String × String) :
    (renameStep path (t, r) names).2 =
      if t.has (.str names.1) then r.addWarning (deprecation path names.1 names.2) else r := by
  unfold renameStep
  rw [Table.has_eq_isSome]
  cases t.find? (.str names.1) <;> rfl

/-- One renaming, as a lookup: the old name is gone, the new name keeps its value or else
takes the old name's, and every other name keeps its value. -/
theorem renameStep_find? {o n : String} (hon : o ≠ n) (t : Table) (r : Report) (key : String) :
    (renameStep path (t, r) (o, n)).1.find? (.str key) =
      if key = o then none
      else if key = n then (t.find? (.str n)).or (t.find? (.str o))
      else t.find? (.str key) := by
  unfold renameStep
  cases hv : t.find? (.str o) with
  | none =>
    by_cases hko : key = o
    · subst hko
      simp [hv]
    · by_cases hkn : key = n
      · subst hkn
        simp [hko]
      · simp [hko, hkn]
  | some v =>
    dsimp only
    have hhas : (t.remove (.str o)).has (.str n) = (t.find? (.str n)).isSome := by
      rw [Table.has_eq_isSome, Table.find?_remove_str]
      simp [hon]
    by_cases hko : key = o
    · subst hko
      split <;> simp [Ne.symm hon]
    · by_cases hkn : key = n
      · subst hkn
        split
        case isTrue h =>
          rw [hhas, Option.isSome_iff_exists] at h
          obtain ⟨w, hw⟩ := h
          simp [hon, hw]
        case isFalse h =>
          rw [hhas, Option.not_isSome_iff_eq_none] at h
          simp [h]
      · split <;> simp [Ne.symm hko, Ne.symm hkn]

variable {path}

/-- The names of renamings held once each: the first renaming's two names are distinct and
appear in no later renaming. -/
theorem renamings_nodup_cons {o n : String} {ns : List (String × String)}
    (h : (((o, n) :: ns).map (·.1) ++ ((o, n) :: ns).map (·.2)).Nodup) :
    o ≠ n ∧ o ∉ ns.map (·.1) ∧ o ∉ ns.map (·.2) ∧ n ∉ ns.map (·.1) ∧ n ∉ ns.map (·.2) ∧
      (ns.map (·.1) ++ ns.map (·.2)).Nodup := by
  simp only [List.map_cons, List.cons_append, List.nodup_cons, List.mem_append, List.mem_cons,
    not_or] at h
  obtain ⟨⟨hoo, hon, hon'⟩, hnd⟩ := h
  have hnd' := List.nodup_middle.1 hnd
  simp only [List.nodup_cons, List.mem_append, not_or] at hnd'
  exact ⟨hon, hoo, hon', hnd'.1.1, hnd'.1.2, hnd'.2⟩

/-- Renamings whose names are all distinct, as a lookup: every old name is gone, every new
name keeps its value or else takes its old name's, and every other name keeps its value. -/
theorem foldl_renameStep_find? (ns : List (String × String))
    (hnd : (ns.map (·.1) ++ ns.map (·.2)).Nodup) (t : Table) (r : Report) :
    (∀ on ∈ ns, (ns.foldl (renameStep path) (t, r)).1.find? (.str on.1) = none) ∧
    (∀ on ∈ ns, (ns.foldl (renameStep path) (t, r)).1.find? (.str on.2) =
      (t.find? (.str on.2)).or (t.find? (.str on.1))) ∧
    (∀ key, key ∉ ns.map (·.1) → key ∉ ns.map (·.2) →
      (ns.foldl (renameStep path) (t, r)).1.find? (.str key) = t.find? (.str key)) := by
  induction ns generalizing t r with
  | nil => simp
  | cons on ns ih =>
    obtain ⟨o, n⟩ := on
    obtain ⟨hon, hoo, hon', hno, hnn, hrest⟩ := renamings_nodup_cons hnd
    have hstep := renameStep_find? path hon t r
    rw [List.foldl_cons]
    generalize hacc : renameStep path (t, r) (o, n) = acc at hstep
    obtain ⟨t₁, r₁⟩ := acc
    obtain ⟨ihold, ihnew, ihother⟩ := ih hrest t₁ r₁
    refine ⟨fun on hmem => ?_, fun on hmem => ?_, fun key hk₁ hk₂ => ?_⟩
    · rcases List.mem_cons.1 hmem with rfl | hmem
      · rw [ihother o hoo hon', hstep]
        simp
      · exact ihold on hmem
    · rcases List.mem_cons.1 hmem with rfl | hmem
      · rw [ihother n hno hnn, hstep]
        simp [Ne.symm hon]
      · -- A later renaming reads names the first one did not touch.
        have h₁ : on.1 ∈ ns.map (·.1) := List.mem_map_of_mem hmem
        have h₂ : on.2 ∈ ns.map (·.2) := List.mem_map_of_mem hmem
        rw [ihnew on hmem, hstep, hstep]
        have ho₁ : on.1 ≠ o := fun h => hoo (h ▸ h₁)
        have hn₁ : on.1 ≠ n := fun h => hno (h ▸ h₁)
        have ho₂ : on.2 ≠ o := fun h => hon' (h ▸ h₂)
        have hn₂ : on.2 ≠ n := fun h => hnn (h ▸ h₂)
        simp [ho₁, hn₁, ho₂, hn₂]
    · simp only [List.map_cons, List.mem_cons, not_or] at hk₁ hk₂
      rw [ihother key hk₁.2 hk₂.2, hstep]
      simp [hk₁.1, hk₂.1]

/-- Renamings whose names are all distinct add one warning for each old name the table holds,
in their order. -/
theorem foldl_renameStep_report (ns : List (String × String))
    (hnd : (ns.map (·.1) ++ ns.map (·.2)).Nodup) (t : Table) (r : Report) :
    (ns.foldl (renameStep path) (t, r)).2 =
      r.addWarnings ((ns.filter (fun on => t.has (.str on.1))).map
        (fun on => deprecation path on.1 on.2)) := by
  induction ns generalizing t r with
  | nil => rfl
  | cons on ns ih =>
    obtain ⟨o, n⟩ := on
    obtain ⟨hon, hoo, hon', hno, hnn, hrest⟩ := renamings_nodup_cons hnd
    have hfind := renameStep_find? path hon t r
    have hsnd := renameStep_snd path t r (o, n)
    rw [List.foldl_cons]
    generalize hacc : renameStep path (t, r) (o, n) = acc at hfind hsnd
    obtain ⟨t₁, r₁⟩ := acc
    -- The first renaming leaves the later old names as they were.
    have hkeep : ns.filter (fun on => t₁.has (.str on.1)) = ns.filter (fun on => t.has (.str on.1)) := by
      refine List.filter_congr fun on hmem => ?_
      have h₁ : on.1 ∈ ns.map (·.1) := List.mem_map_of_mem hmem
      have ho₁ : on.1 ≠ o := fun h => hoo (h ▸ h₁)
      have hn₁ : on.1 ≠ n := fun h => hno (h ▸ h₁)
      rw [Table.has_eq_isSome, Table.has_eq_isSome, hfind]
      simp [ho₁, hn₁]
    rw [ih hrest t₁ r₁, hkeep]
    simp only at hsnd
    rw [hsnd, List.filter_cons]
    split
    · rw [List.map_cons, ← List.singleton_append, Report.addWarnings_append]
      rfl
    · rfl

theorem renamedSettings_nodup :
    (renamedSettings.map (·.1) ++ renamedSettings.map (·.2)).Nodup := by
  decide

/-- The settings of a file, from any report: the same settings, and the report gathers the
file's warnings. -/
theorem generalSettings_report (doc : Value) (r : Report) :
    generalSettings path doc r =
      ((generalSettings path doc {}).1, r.addWarnings (generalSettings path doc {}).2.warnings) := by
  rw [generalSettings_eq, generalSettings_eq]
  ext1
  · exact (foldl_renameStep_frame path renamedSettings _ r).1
  · rw [foldl_renameStep_report renamedSettings renamedSettings_nodup,
      foldl_renameStep_report renamedSettings renamedSettings_nodup, Report.addWarnings_gathered]

/-- The settings of a document under `options.general`, as written. -/
def rawSettings (doc : Value) : Table := textSettings (generalEntries doc) {}

/-- `t` is `raw` with the old names renamed: each old name is gone, each new name keeps its
own value or else takes the old name's, and every other name keeps its value. -/
def Renamed (raw t : Table) : Prop :=
  (∀ on ∈ renamedSettings, t.find? (.str on.1) = none ∧
    t.find? (.str on.2) = (raw.find? (.str on.2)).or (raw.find? (.str on.1))) ∧
  ∀ key, key ∉ renamedSettings.map (·.1) → key ∉ renamedSettings.map (·.2) →
    t.find? (.str key) = raw.find? (.str key)

/-- The warnings about the old names that settings use, in the order of `renamedSettings`. -/
def deprecations (path : String) (raw : Table) : List String :=
  (renamedSettings.filter (fun on => raw.has (.str on.1))).map (fun on => deprecation path on.1 on.2)

theorem deprecation_eq_append (path old new : String) :
    deprecation path old new = path ++ (": option '" ++ old ++ "' is deprecated - use '" ++ new ++ "'") := by
  show path ++ ": option '" ++ old ++ "' is deprecated - use '" ++ new ++ "'" = _
  simp only [String.append_assoc]

theorem deprecation_ne_empty (path old new : String) : deprecation path old new ≠ "" := by
  intro h
  have hlast := last_deprecation path old new
  rw [h] at hlast
  simp at hlast

/-- Distinct renamings give distinct warnings about one file. -/
theorem deprecations_nodup (path : String) (raw : Table) : (deprecations path raw).Nodup := by
  refine ((List.Nodup.filter _ (by decide)).map_on fun a ha b hb h => ?_)
  have ha' := (List.mem_filter.1 ha).1
  have hb' := (List.mem_filter.1 hb).1
  simp only [renamedSettings, List.mem_cons, List.not_mem_nil, or_false] at ha' hb'
  rw [deprecation_eq_append, deprecation_eq_append, String.append_right_inj] at h
  rcases ha' with rfl | rfl <;> rcases hb' with rfl | rfl
  · rfl
  · exact absurd h (by decide)
  · exact absurd h (by decide)
  · rfl

variable (path)

/-- The settings of a document are its settings as written with the old names renamed, and
the warnings name each old name used, in order. -/
theorem generalSettings_renamed (doc : Value) :
    Renamed (rawSettings doc) (generalSettings path doc {}).1 ∧
      (generalSettings path doc {}).2.warnings = deprecations path (rawSettings doc) := by
  obtain ⟨hold, hnew, hother⟩ :=
    @foldl_renameStep_find? path renamedSettings renamedSettings_nodup (rawSettings doc) {}
  rw [generalSettings_eq]
  refine ⟨⟨fun on hon => ⟨hold on hon, hnew on hon⟩, hother⟩, ?_⟩
  rw [foldl_renameStep_report renamedSettings renamedSettings_nodup, Report.addWarnings_warnings]
  refine Report.foldl_keep_nil_of_nodup (deprecations_nodup path _) fun h => ?_
  obtain ⟨on, -, hon⟩ := List.mem_map.1 h
  exact deprecation_ne_empty path on.1 on.2 hon

end Renaming

/-- Reading a file after others takes the same course as reading it on its own: the same
settings or the same error, with the file's warnings added to the report. -/
theorem readFile_report (fs : Tree) (path : String) (r : Report) :
    readFile fs path r =
      (readFile fs path {}).map (Except.map fun x => (x.1, r.addWarnings x.2.warnings)) := by
  unfold readFile
  cases fs.read path with
  | error f => rfl
  | ok bytes =>
    simp only [Files.except_pure, Files.except_ok_bind]
    cases Text.readText bytes with
    | error f => rfl
    | ok text =>
      simp only
      cases Yaml.loadDocument text with
      | error e => cases e <;> rfl
      | ok doc? =>
        simp only
        cases doc? with
        | none => rfl
        | some d =>
          simp only
          split
          · rfl
          · cases firstViolation (fileSchema.violations ⟨d.valueAt, d.field?⟩ d.root) with
            | some v => rfl
            | none =>
              simp only
              rw [generalSettings_report]
              rfl

/-! ## What each file gives -/

/-- The settings the file at `path` gives read on its own: none when it reports an error or
cannot be read. -/
def fileTable (fs : Tree) (path : String) : Table :=
  match readFile fs path {} with
  | .ok (.ok (t, _)) => t
  | _ => {}

/-- Whether the file at `path` parses and fits the schema. -/
def fileParses (fs : Tree) (path : String) : Bool :=
  match readFile fs path {} with
  | .ok (.ok _) => true
  | _ => false

theorem readFile_of_parses {fs : Tree} {path : String} (h : fileParses fs path = true) :
    readFile fs path {} = .ok (.ok (fileTable fs path, { warnings := fileWarnings fs path })) := by
  unfold fileParses at h
  unfold fileTable fileWarnings
  split at h
  case h_1 x hx =>
    obtain ⟨t, r⟩ := x
    -- A file read from an empty report adds warnings and no error.
    have hr : r = { warnings := r.warnings } := Report.eq_of_parts (readFile_typed hx).2.2 rfl
    rw [hx]
    exact congrArg (fun r' => Except.ok (Except.ok (t, r'))) hr
  case h_2 => cases h

theorem fileWarnings_ne_empty {fs : Tree} {path w : String} (h : w ∈ fileWarnings fs path) :
    w.isEmpty = false := by
  obtain ⟨names, -, rfl⟩ := mem_fileWarnings h
  simpa [String.isEmpty_iff] using deprecation_ne_empty path names.1 names.2

/-- A file that parses gives its settings as written with the old names renamed, and a
warning for each old name used; an empty document gives nothing. -/
theorem fileParses_settings {fs : Tree} {path : String} (h : fileParses fs path = true) :
    (fileTable fs path = {} ∧ fileWarnings fs path = []) ∨
      ∃ d : Yaml.Document, fileSchema.violations ⟨d.valueAt, d.field?⟩ d.root = [] ∧
        Renamed (rawSettings d.value) (fileTable fs path) ∧
        fileWarnings fs path = deprecations path (rawSettings d.value) := by
  rcases readFile_eq_ok (readFile_of_parses h) with ⟨htab, hrep⟩ | ⟨d, hs, hgen⟩
  · exact .inl ⟨htab, congrArg Report.warnings hrep⟩
  · obtain ⟨hren, hwarn⟩ := generalSettings_renamed path d.value
    rw [← hgen] at hren hwarn
    exact .inr ⟨d, hs, hren, hwarn⟩

/-! ## Reading the files -/

section Reading

variable {fs : Tree}

theorem loadStep_of_parsed {loaded : Loaded} {r : Report} (hr : r.failed = false) {path : String}
    (h : fileParses fs path = true) :
    loadStep fs (loaded, r) path =
      .ok ({ options := loaded.options.putAll (fileTable fs path), sources := loaded.sources ++ [path] },
        r.addWarnings (fileWarnings fs path)) := by
  have hread : readFile fs path r =
      .ok (.ok (fileTable fs path, r.addWarnings (fileWarnings fs path))) := by
    rw [readFile_report, readFile_of_parses h]
    rfl
  exact loadStep_of_read_ok hr hread

theorem loadStep_of_rejected {loaded : Loaded} {r : Report} (hr : r.failed = false) {path e : String}
    (h : readFile fs path {} = .ok (.error e)) :
    loadStep fs (loaded, r) path = .ok (loaded, r.withError e) := by
  have hread : readFile fs path r = .ok (.error e) := by
    rw [readFile_report, h]
    rfl
  exact loadStep_of_read_rejected hr hread

/-- The run lemma over files that all parse: each file's settings are set over those before
it, every file is listed and every file's warnings are gathered, in order. -/
theorem foldlM_loadStep_of_parsed (files : List String) (hp : ∀ p ∈ files, fileParses fs p = true)
    (loaded : Loaded) (r : Report) (hr : r.failed = false) :
    files.foldlM (loadStep fs) (loaded, r) =
      .ok ({ options := files.foldl (fun o p => o.putAll (fileTable fs p)) loaded.options,
             sources := loaded.sources ++ files },
        r.addWarnings (files.flatMap (fileWarnings fs))) := by
  induction files generalizing loaded r with
  | nil => simp [Report.addWarnings]
  | cons p ps ih =>
    have hr₁ : (r.addWarnings (fileWarnings fs p)).failed = false := by
      simpa [Report.failed, Report.addWarnings_error] using hr
    rw [List.foldlM_cons, loadStep_of_parsed hr (hp p List.mem_cons_self), Files.except_ok_bind,
      ih (fun q hq => hp q (List.mem_cons_of_mem _ hq)) _ _ hr₁, List.flatMap_cons,
      Report.addWarnings_append]
    simp

/-- Setting tables that each hold a key once: a key's value is the last file's that gives it. -/
theorem find?_foldl_putAll (files : List String) (hk : ∀ p ∈ files, (fileTable fs p).Keyed)
    (o : Table) (key : String) :
    (files.foldl (fun o p => o.putAll (fileTable fs p)) o).find? (.str key) =
      (files.reverse.findSome? (fun p => (fileTable fs p).find? (.str key))).or (o.find? (.str key)) := by
  induction files generalizing o with
  | nil => simp
  | cons p ps ih =>
    rw [List.foldl_cons, ih (fun q hq => hk q (List.mem_cons_of_mem _ hq)),
      (hk p List.mem_cons_self).find?_putAll, List.reverse_cons, List.findSome?_append,
      Option.or_assoc]
    simp

theorem fileTable_keyed (path : String) : (fileTable fs path).Keyed := by
  unfold fileTable
  split
  case h_1 t r h => exact (readFile_typed h).1
  case h_2 => exact Table.keyed_empty

/-- Over files that all parse, the reading gives each file's settings set over those before
it, every file as a source and every file's warnings, each once, in order. -/
theorem foldlM_loadStep_nil_of_parsed (files : List String)
    (hp : ∀ p ∈ files, fileParses fs p = true) :
    files.foldlM (loadStep fs) ({}, {}) =
      .ok ({ options := files.foldl (fun o p => o.putAll (fileTable fs p)) {}, sources := files },
        { warnings := (files.flatMap (fileWarnings fs)).eraseDups }) := by
  have hne : (files.flatMap (fileWarnings fs)).filter (fun w => !w.isEmpty) =
      files.flatMap (fileWarnings fs) := by
    refine List.filter_eq_self.2 fun w hw => ?_
    obtain ⟨p, -, hw⟩ := List.mem_flatMap.1 hw
    simp [fileWarnings_ne_empty hw]
  rw [foldlM_loadStep_of_parsed files hp {} {} rfl, Report.empty_addWarnings, hne]
  rfl

/-- A file that reports an error after files that all parse: the reading ends with that
error and what the files before it gave, and nothing from that file or the ones after. -/
theorem foldlM_loadStep_nil_of_rejected {pre post : List String} {p e : String}
    (hpre : ∀ q ∈ pre, fileParses fs q = true) (hp : readFile fs p {} = .ok (.error e)) :
    (pre ++ p :: post).foldlM (loadStep fs) ({}, {}) =
      .ok ({ options := pre.foldl (fun o q => o.putAll (fileTable fs q)) {}, sources := pre },
        { error := some e, warnings := (pre.flatMap (fileWarnings fs)).eraseDups }) := by
  rw [List.foldlM_append, foldlM_loadStep_nil_of_parsed pre hpre, Files.except_ok_bind,
    List.foldlM_cons, loadStep_of_rejected rfl hp, Files.except_ok_bind,
    foldlM_loadStep_of_failed (Report.failed_withError _ e)]
  rfl

end Reading

/-! ## Which files are read -/

/-- The names of a directory's regular files whose suffix is that of configuration files,
in order. -/
def yamlNames (t : Tree) (dir : String) : List String :=
  if t.isDir dir then
    (Text.sortTexts (t.children (t.resolve dir))).filter
      (fun n => t.isFile (Files.join dir n) && Files.suffix n == configSuffix)
  else []

section Listing

variable {t : Tree} {dir : String}

theorem baseName_join {p n : String} (hp : isPlain p = true) (hn : isName n = true) :
    Files.baseName (Files.join p n) = n := by
  simp [Files.baseName, Files.components_join_of_isPlain hp hn]

theorem isName_of_mem_children (ht : t.Proper) {abs : List String} {n : String}
    (h : n ∈ t.children abs) : isName n = true := by
  obtain ⟨e, he⟩ := Files.Tree.mem_children h
  exact ht.names _ e ((Files.Tree.find?_eq_some_iff ht.nodup).2 he) n (by simp)

theorem mem_yamlNames (ht : t.Proper) (hdir : isPlain dir = true) (n : String) :
    n ∈ yamlNames t dir ↔
      (∃ bs, t.find? (t.resolve dir ++ [n]) = some (.file bs)) ∧ Files.suffix n = configSuffix := by
  unfold yamlNames
  split
  case isTrue hd =>
    rw [List.mem_filter, Text.mem_sortTexts]
    constructor
    · rintro ⟨hc, hf⟩
      have hn := isName_of_mem_children ht hc
      simp only [Bool.and_eq_true, beq_iff_eq] at hf
      rw [ht.isFile_iff (Files.isPlain_join hdir hn), t.resolve_join hdir hn] at hf
      exact hf
    · rintro ⟨⟨bs, hbs⟩, hs⟩
      have hc := ht.mem_children hbs
      have hn := isName_of_mem_children ht hc
      refine ⟨hc, ?_⟩
      simp only [Bool.and_eq_true, beq_iff_eq]
      rw [ht.isFile_iff (Files.isPlain_join hdir hn), t.resolve_join hdir hn]
      exact ⟨⟨bs, hbs⟩, hs⟩
  case isFalse hd =>
    -- Outside a directory there is no entry.
    simp only [List.not_mem_nil, false_iff, not_and]
    rintro ⟨bs, hbs⟩
    exact absurd ((ht.isDir_iff hdir).2 (ht.parent _ _ _ hbs)) hd

theorem pairwise_yamlNames (ht : t.Proper) (dir : String) : (yamlNames t dir).Pairwise (· < ·) := by
  unfold yamlNames
  split
  · exact (Text.pairwise_lt_sortTexts (ht.children_nodup _)).filter _
  · exact List.Pairwise.nil

/-- The files read: the configuration directory's regular files whose suffix is `.yaml`, in
order of name, then the workspace's file when it is a regular file. -/
theorem configFiles_eq (ht : t.Proper) {inst : Install} (hdir : isPlain inst.configDir = true)
    (ws : Option String) :
    configFiles t inst ws = (yamlNames t inst.configDir).map (Files.join inst.configDir) ++
      (ws.map (Files.join · workspaceFile)).toList.filter t.isFile := by
  unfold configFiles yamlNames
  dsimp only
  refine congrArg₂ (· ++ ·) ?_ ?_
  · by_cases hd : t.isDir inst.configDir = true
    · rw [if_pos hd, if_pos hd, ht.list_of_dir hdir ((ht.isDir_iff hdir).1 hd)]
      dsimp only
      rw [List.filter_map]
      refine congrArg (List.map (Files.join inst.configDir)) (List.filter_congr fun n hn => ?_)
      rw [Function.comp_apply,
        baseName_join hdir (isName_of_mem_children ht (Text.mem_sortTexts.1 hn))]
    · rw [if_neg hd, if_neg hd]
      rfl
  · cases ws with
    | none => rfl
    | some w => by_cases hw : t.isFile (Files.join w workspaceFile) = true <;> simp [hw]

end Listing

/-! ## Reading the configuration files -/

/-- Reading the configuration files of a proper tree, the installation's `config` directory
given as a plain path. The files are the directory's regular files whose suffix is `.yaml`, in
order of name, then the workspace's `checkpipe.yaml` when it is a regular file. A file that
parses gives its settings as written with each old name renamed (the new name wins within the
file) and a warning for each old name used. When every file parses, the settings are each
file's set over those before it, so a key's value is that of the last file giving it under
either name; the sources are all the files, and the warnings are theirs in order, each once.
When a file reports an error after files that all parse, the result is that of the files
before it with that error, which names the file. -/
theorem loadFiles_reads_in_order {t : Tree} (ht : t.Proper) {inst : Install}
    (hdir : isPlain inst.configDir = true) (ws : Option String) :
    (configFiles t inst ws = (yamlNames t inst.configDir).map (Files.join inst.configDir) ++
        (ws.map (Files.join · workspaceFile)).toList.filter t.isFile) ∧
    (∀ n, n ∈ yamlNames t inst.configDir ↔
        (∃ bs, t.find? (t.resolve inst.configDir ++ [n]) = some (.file bs)) ∧
          Files.suffix n = configSuffix) ∧
    (yamlNames t inst.configDir).Pairwise (· < ·) ∧
    (∀ p, fileParses t p = true → (fileTable t p = {} ∧ fileWarnings t p = []) ∨
      ∃ d : Yaml.Document, fileSchema.violations ⟨d.valueAt, d.field?⟩ d.root = [] ∧
        Renamed (rawSettings d.value) (fileTable t p) ∧
        fileWarnings t p = deprecations p (rawSettings d.value)) ∧
    ((∀ p ∈ configFiles t inst ws, fileParses t p = true) →
      loadFiles t inst ws = .ok
        ({ options := (configFiles t inst ws).foldl (fun o p => o.putAll (fileTable t p)) {},
           sources := configFiles t inst ws },
         { warnings := ((configFiles t inst ws).flatMap (fileWarnings t)).eraseDups }) ∧
      ∀ key, ((configFiles t inst ws).foldl (fun (o : Table) p => o.putAll (fileTable t p)) {}).find?
          (.str key) =
        (configFiles t inst ws).reverse.findSome? (fun p => (fileTable t p).find? (.str key))) ∧
    ∀ pre p post e, configFiles t inst ws = pre ++ p :: post →
      (∀ q ∈ pre, fileParses t q = true) → readFile t p {} = .ok (.error e) →
      loadFiles t inst ws = .ok
        ({ options := pre.foldl (fun o q => o.putAll (fileTable t q)) {}, sources := pre },
         { error := some e, warnings := (pre.flatMap (fileWarnings t)).eraseDups }) ∧
      ∃ m : String, e = s!"failed to read config file {p}: {m}" ∨
        e = s!"failed to parse config file {p}: {m}" ∨ e = s!"invalid config file {p}: {m}" := by
  refine ⟨configFiles_eq ht hdir ws, mem_yamlNames ht hdir, pairwise_yamlNames ht _,
    fun p hp => fileParses_settings hp, fun hall => ⟨?_, fun key => ?_⟩,
    fun pre p post e hs hpre hp => ⟨?_, readFile_error_names_file hp⟩⟩
  · rw [loadFiles_eq]
    exact foldlM_loadStep_nil_of_parsed _ hall
  · rw [find?_foldl_putAll _ (fun p _ => fileTable_keyed p), Table.find?_empty, Option.or_none]
  · rw [loadFiles_eq, hs]
    exact foldlM_loadStep_nil_of_rejected hpre hp

/-- An installation whose `config` directory holds a configuration file, a file and a
directory with other suffixes, and a file named only by the suffix; and a workspace with its
configuration file. -/
def sampleTree : Tree where
  entries := [([], .dir), (["inst"], .dir), (["inst", "config"], .dir),
    (["inst", "config", "b.yaml"], .file []), (["inst", "config", "a.yml"], .file []),
    (["inst", "config", "c.yaml"], .dir), (["inst", "config", ".yaml"], .file []),
    (["inst", "config", "a.yaml"], .file []), (["ws"], .dir), (["ws", "checkpipe.yaml"], .file [])]

/-- Only the regular `.yaml` files of the directory are read, in order, then the
workspace's. -/
theorem loadFiles_reads_in_order_sample :
    sampleTree.Proper ∧ isPlain (Install.configDir ⟨"/inst"⟩) = true ∧
      configFiles sampleTree ⟨"/inst"⟩ (some "/ws") =
        ["/inst/config/a.yaml", "/inst/config/b.yaml", "/ws/checkpipe.yaml"] := by
  have ht : sampleTree.Proper := by decide +kernel
  have hd : isPlain (Install.configDir ⟨"/inst"⟩) = true := by decide +kernel
  refine ⟨ht, hd, ?_⟩
  rw [(loadFiles_reads_in_order ht hd (some "/ws")).1]
  decide +kernel

end Preflight.Config
