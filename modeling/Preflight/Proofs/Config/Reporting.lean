import Preflight.Proofs.Config.Assemble

/-!
# How an assembly reports

Assembling stops at the first step that fails, and its report then carries that step's
error: the installation directory, the configuration files in the order they are read, the
environment's variables in the order of `variableSettings`, the saved token, and last the
checks of the telemetry level, the log level and the diagnostics level. No later step runs.
A configuration comes back exactly when the report has no error.

The warnings are those of the configuration files read before any failure, each file's
being the deprecations of the old setting names it uses, and the warning about the older
diagnostics variable, which comes exactly when that variable is present and the checks got
past the log level. `assemble_reports` puts this together from one lemma per step.
-/

set_option autoImplicit false

namespace Preflight.Config

/-! ## The warnings of the configuration files -/

/-- The warning about an old setting name in a configuration file. -/
def deprecation (path old new : String) : String :=
  s!"{path}: option '{old}' is deprecated - use '{new}'"

theorem renameStep_warnings {path : String} {acc : Table × Report} {names : String × String}
    {w : String} (h : w ∈ (renameStep path acc names).2.warnings) :
    w ∈ acc.2.warnings ∨ w = deprecation path names.1 names.2 := by
  unfold renameStep at h
  split at h
  · rcases Report.mem_addWarning_iff.1 h with hw | ⟨hw, -⟩
    · exact .inl hw
    · exact .inr hw
  · exact .inl h

theorem foldl_renameStep_warnings {path : String} (ns : List (String × String))
    {acc : Table × Report} {w : String} (h : w ∈ (ns.foldl (renameStep path) acc).2.warnings) :
    w ∈ acc.2.warnings ∨ ∃ names ∈ ns, w = deprecation path names.1 names.2 := by
  induction ns generalizing acc with
  | nil => exact .inl h
  | cons n ns ih =>
    rcases ih h with hw | ⟨names, hmem, rfl⟩
    · rcases renameStep_warnings hw with hw | rfl
      · exact .inl hw
      · exact .inr ⟨n, List.mem_cons_self, rfl⟩
    · exact .inr ⟨names, List.mem_cons_of_mem _ hmem, rfl⟩

/-- The renamings give the same settings from any report, and only add their own warnings
to it. -/
theorem foldl_renameStep_frame (path : String) (ns : List (String × String)) (t : Table) :
    ∀ r, (ns.foldl (renameStep path) (t, r)).1 = (ns.foldl (renameStep path) (t, {})).1 ∧
      ∀ w, w ∈ (ns.foldl (renameStep path) (t, r)).2.warnings ↔
        w ∈ r.warnings ∨ w ∈ (ns.foldl (renameStep path) (t, {})).2.warnings := by
  induction ns generalizing t with
  | nil => intro r; simp
  | cons n ns ih =>
    intro r
    simp only [List.foldl_cons]
    cases hv : t.find? (.str n.1) with
    | none =>
      have hstep : ∀ r', renameStep path (t, r') n = (t, r') := by
        intro r'
        simp only [renameStep, hv]
      rw [hstep, hstep]
      exact ih t r
    | some v =>
      -- Both runs go on from the same table, with the warning added to each report.
      obtain ⟨t', hstep⟩ : ∃ t', ∀ r', renameStep path (t, r') n =
          (t', r'.addWarning (deprecation path n.1 n.2)) := ⟨_, fun r' => by simp only [renameStep, hv]; rfl⟩
      rw [hstep, hstep]
      obtain ⟨hfst, hmem⟩ := ih t' (r.addWarning (deprecation path n.1 n.2))
      obtain ⟨hfst₀, hmem₀⟩ := ih t' (({} : Report).addWarning (deprecation path n.1 n.2))
      refine ⟨hfst.trans hfst₀.symm, fun w => ?_⟩
      rw [hmem, hmem₀, Report.mem_addWarning_iff, Report.mem_addWarning_iff]
      simp only [List.not_mem_nil, false_or]
      tauto

theorem generalSettings_frame (path : String) (doc : Value) (r : Report) :
    (generalSettings path doc r).1 = (generalSettings path doc {}).1 ∧
      ∀ w, w ∈ (generalSettings path doc r).2.warnings ↔
        w ∈ r.warnings ∨ w ∈ (generalSettings path doc {}).2.warnings := by
  rw [generalSettings_eq, generalSettings_eq]
  exact foldl_renameStep_frame path renamedSettings _ r

/-- Reading a file takes the same course from any report: the report only gathers the
warnings the file gives. -/
theorem readFile_frame {fs : Files.Tree} {path : String} {r : Report} {t : Table} {r' : Report}
    (h : readFile fs path r = .ok (.ok (t, r'))) :
    ∃ r₀, readFile fs path {} = .ok (.ok (t, r₀)) ∧
      ∀ w, w ∈ r'.warnings ↔ w ∈ r.warnings ∨ w ∈ r₀.warnings := by
  unfold readFile at h ⊢
  cases h1 : fs.read path with
  | error f => simp [h1] at h
  | ok bytes =>
    cases h2 : Text.readText bytes with
    | error f => simp [h1, h2] at h
    | ok text =>
      cases h3 : Yaml.loadDocument text with
      | error e => cases e <;> simp [h1, h2, h3] at h
      | ok doc? =>
        cases doc? with
        | none =>
          simp only [h1, h2, h3, Files.except_pure, Files.except_ok_bind, Except.ok.injEq,
            Prod.mk.injEq] at h ⊢
          obtain ⟨rfl, rfl⟩ := h
          exact ⟨{}, ⟨rfl, rfl⟩, by simp⟩
        | some d =>
          simp only [h1, h2, h3, Files.except_pure, Files.except_ok_bind] at h ⊢
          split at h
          next =>
            -- A document of nothing gives no settings.
            simp only [if_true, Except.ok.injEq, Prod.mk.injEq] at h ⊢
            obtain ⟨rfl, rfl⟩ := h
            exact ⟨{}, ⟨rfl, rfl⟩, by simp⟩
          next =>
            simp only [Bool.false_eq_true, if_false] at h ⊢
            cases h4 : firstViolation (fileSchema.violations ⟨d.valueAt, d.field?⟩ d.root) with
            | some v => simp [h4] at h
            | none =>
              simp only [h4, Except.ok.injEq] at h ⊢
              obtain ⟨hfst, hmem⟩ := generalSettings_frame path d.value r
              rw [h] at hfst hmem
              have ht : t = (generalSettings path d.value {}).1 := hfst
              exact ⟨(generalSettings path d.value {}).2, by rw [ht], hmem⟩

/-- Reading a file adds only its own deprecations to the warnings. -/
theorem readFile_warnings {fs : Files.Tree} {path : String} {r : Report} {t : Table}
    {r' : Report} (h : readFile fs path r = .ok (.ok (t, r'))) {w : String}
    (hw : w ∈ r'.warnings) :
    w ∈ r.warnings ∨ ∃ names ∈ renamedSettings, w = deprecation path names.1 names.2 := by
  rcases readFile_eq_ok h with ⟨-, rfl⟩ | ⟨d, -, hgen⟩
  · exact .inl hw
  · rw [generalSettings_eq] at hgen
    have hw' : w ∈ (renamedSettings.foldl (renameStep path)
        (textSettings (generalEntries d.value) {}, r)).2.warnings := by
      rw [← hgen]
      exact hw
    exact foldl_renameStep_warnings renamedSettings hw'

/-- The warnings the file at `path` gives when it is read: the deprecations of the old
setting names it uses. -/
def fileWarnings (fs : Files.Tree) (path : String) : List String :=
  match readFile fs path {} with
  | .ok (.ok (_, r)) => r.warnings
  | _ => []

theorem mem_fileWarnings {fs : Files.Tree} {path w : String} (h : w ∈ fileWarnings fs path) :
    ∃ names ∈ renamedSettings, w = deprecation path names.1 names.2 := by
  unfold fileWarnings at h
  split at h
  case h_1 t r hread =>
    rcases readFile_warnings hread h with hw | hdep
    · cases hw
    · exact hdep
  case h_2 => cases h

theorem readFile_mem_warnings {fs : Files.Tree} {path : String} {r : Report} {t : Table}
    {r' : Report} (h : readFile fs path r = .ok (.ok (t, r'))) (w : String) :
    w ∈ r'.warnings ↔ w ∈ r.warnings ∨ w ∈ fileWarnings fs path := by
  obtain ⟨r₀, h₀, hmem⟩ := readFile_frame h
  unfold fileWarnings
  rw [h₀]
  exact hmem w

/-! ## Reading the files -/

theorem foldlM_loadStep_of_failed {fs : Files.Tree} {acc : Loaded × Report}
    (h : acc.2.failed = true) (paths : List String) : paths.foldlM (loadStep fs) acc = .ok acc := by
  induction paths with
  | nil => rfl
  | cons p ps ih => simp [List.foldlM_cons, loadStep_of_failed h, ih]

/-- How reading the files `files` in order ends with the report `r`: the files of a first
part are read without an error, and the warnings are those these files give; then either no
file is left, or the next one cannot be read and its error is the report's. The files after
it are not read. -/
def FilesRead (fs : Files.Tree) (files : List String) (r : Report) : Prop :=
  ∃ pre post acc, files = pre ++ post ∧ pre.foldlM (loadStep fs) ({}, {}) = .ok acc ∧
    acc.2.failed = false ∧ (∀ w, w ∈ acc.2.warnings ↔ ∃ p ∈ pre, w ∈ fileWarnings fs p) ∧
    ((post = [] ∧ r = acc.2) ∨
      ∃ p rest e, post = p :: rest ∧ readFile fs p acc.2 = .ok (.error e) ∧ r = acc.2.withError e)

/-- The run lemma of reading the files, from any report without an error. -/
theorem foldlM_loadStep_report {fs : Files.Tree} (files : List String) {acc₀ res : Loaded × Report}
    (h : files.foldlM (loadStep fs) acc₀ = .ok res) (h₀ : acc₀.2.failed = false) :
    ∃ pre post acc, files = pre ++ post ∧ pre.foldlM (loadStep fs) acc₀ = .ok acc ∧
      acc.2.failed = false ∧
      (∀ w, w ∈ acc.2.warnings ↔ w ∈ acc₀.2.warnings ∨ ∃ p ∈ pre, w ∈ fileWarnings fs p) ∧
      ((post = [] ∧ res.2 = acc.2) ∨
        ∃ p rest e, post = p :: rest ∧ readFile fs p acc.2 = .ok (.error e) ∧
          res.2 = acc.2.withError e) := by
  induction files generalizing acc₀ with
  | nil =>
    refine ⟨[], [], acc₀, rfl, rfl, h₀, by simp, .inl ⟨rfl, ?_⟩⟩
    cases h
    rfl
  | cons p ps ih =>
    rw [List.foldlM_cons] at h
    cases hread : readFile fs p acc₀.2 with
    | error f =>
      rw [loadStep_of_read_error h₀ hread, Files.except_error_bind] at h
      cases h
    | ok res₁ =>
      rcases res₁ with e | ⟨t, r'⟩
      · -- The first file cannot be read: its error stops the reading.
        rw [loadStep_of_read_rejected h₀ hread, Files.except_ok_bind,
          foldlM_loadStep_of_failed (Report.failed_withError acc₀.2 e)] at h
        cases h
        exact ⟨[], p :: ps, acc₀, rfl, rfl, h₀, by simp, .inr ⟨p, ps, e, rfl, hread, rfl⟩⟩
      · -- The first file is read; the reading goes on from its report.
        have hstep := loadStep_of_read_ok h₀ hread
        rw [hstep, Files.except_ok_bind] at h
        have h₁ : r'.failed = false := (readFile_failed hread).trans h₀
        obtain ⟨pre, post, acc, rfl, hpre, hacc, hwarn, hend⟩ := ih h h₁
        refine ⟨p :: pre, post, acc, rfl, ?_, hacc, fun w => ?_, hend⟩
        · rw [List.foldlM_cons, hstep, Files.except_ok_bind]
          exact hpre
        · rw [hwarn, readFile_mem_warnings hread, List.exists_mem_cons_iff, or_assoc]

theorem loadFiles_report {fs : Files.Tree} {inst : Install} {ws : Option String}
    {loaded : Loaded} {r : Report} (h : loadFiles fs inst ws = .ok (loaded, r)) :
    FilesRead fs (configFiles fs inst ws) r := by
  rw [loadFiles_eq] at h
  obtain ⟨pre, post, acc, hsplit, hpre, hacc, hwarn, hend⟩ := foldlM_loadStep_report _ h rfl
  refine ⟨pre, post, acc, hsplit, hpre, hacc, fun w => ?_, hend⟩
  rw [hwarn]
  simp

/-! ## The checks of the levels -/

/-- The warning about the older diagnostics variable. -/
def legacyWarning : String :=
  s!"Environment variable {oldDiagnosticsVariable} is deprecated - use {diagnosticsVariable}"

theorem last_deprecation (path old new : String) :
    (deprecation path old new).toList.getLast? = some '\x27' := by
  show (path ++ ": option '" ++ old ++ "' is deprecated - use '" ++ new ++ "'").toList.getLast? = _
  rw [String.toList_append, List.getLast?_append]
  rfl

theorem last_legacyWarning : legacyWarning.toList.getLast? = some 'L' := by
  decide

/-- The older diagnostics variable's warning is no file's deprecation. -/
theorem legacyWarning_ne_deprecation (path old new : String) :
    legacyWarning ≠ deprecation path old new := by
  intro h
  have hlast := congrArg (fun s => s.toList.getLast?) h
  simp only [last_legacyWarning, last_deprecation, Option.some.injEq] at hlast
  cases hlast

theorem FilesRead.legacy_not_mem {fs : Files.Tree} {files : List String} {r : Report}
    (h : FilesRead fs files r) : legacyWarning ∉ r.warnings := by
  obtain ⟨pre, post, acc, -, -, -, hwarn, hend⟩ := h
  have hw : r.warnings = acc.2.warnings := by
    rcases hend with ⟨-, rfl⟩ | ⟨p, rest, e, -, -, rfl⟩
    · rfl
    · exact Report.withError_warnings acc.2 e
  rw [hw, hwarn]
  rintro ⟨p, -, hp⟩
  obtain ⟨names, -, heq⟩ := mem_fileWarnings hp
  exact legacyWarning_ne_deprecation _ _ _ heq

/-- The check of the telemetry level: it must be one of the known ones, exactly. -/
def telemetryCheck (b : Builder) : Option String :=
  let telemetry := ((b.peek? (.str "telemetry")).getD (.str "")).text
  if telemetryLevels.contains telemetry then none
  else some s!"invalid value of 'telemetry' ({telemetry}), must be one of: {namesText telemetryLevels}"

/-- The check of the log level: in lower case it must name a level. -/
def levelCheck (b : Builder) : Option String :=
  let level := Text.lower ((b.peek? (.str "log_level")).getD (.str "")).text
  if (LogLevel.ofName? level).isSome then none
  else some s!"invalid value of 'log_level' ({level}), must be one of: {LogLevel.namesText}"

/-- The check of the diagnostics level, when one is set: in lower case it must be known. -/
def diagnosticsCheck (b : Builder) : Option String :=
  match b.peek? (.str "diagnostics_level") with
  | none | some .null => none
  | some d =>
    if diagnosticsLevels.contains (Text.lower d.text) then none
    else some s!"invalid value of {diagnosticsVariable} ({d.text}), must be one of: {namesText diagnosticsLevels}"

/-- What the checks report once the two levels pass, before the diagnostics level. -/
def legacyReport (env : Environ) : Report :=
  if env.has oldDiagnosticsVariable then { warnings := [legacyWarning] } else {}

section Validate

variable {b : Builder} {env : Environ}

theorem validate_of_telemetry {e : String} (h : telemetryCheck b = some e) :
    validate b env = Report.ofError e := by
  unfold telemetryCheck at h
  unfold validate
  dsimp only at h ⊢
  split at h
  · cases h
  case isFalse hc =>
    cases h
    rw [if_pos (by simpa using hc)]

theorem validate_of_level {e : String} (ht : telemetryCheck b = none)
    (hl : levelCheck b = some e) : validate b env = Report.ofError e := by
  unfold telemetryCheck at ht
  unfold levelCheck at hl
  unfold validate
  dsimp only at ht hl ⊢
  split at ht
  case isTrue hc =>
    split at hl
    · cases hl
    case isFalse hl' =>
      cases hl
      rw [if_neg (by simpa using hc), if_pos (by simpa using hl')]
  · cases ht

theorem validate_of_levels (ht : telemetryCheck b = none) (hl : levelCheck b = none) :
    validate b env = match diagnosticsCheck b with
      | none => legacyReport env
      | some e => (legacyReport env).withError e := by
  unfold telemetryCheck at ht
  unfold levelCheck at hl
  unfold validate diagnosticsCheck
  dsimp only at ht hl ⊢
  split at ht
  case isTrue hc =>
    split at hl
    case isTrue hl' =>
      rw [if_neg (by simpa using hc), if_neg (by simpa [Option.isSome_iff_ne_none] using hl')]
      have hlegacy : (if env.has oldDiagnosticsVariable = true then
          ({} : Report).addWarning legacyWarning else {}) = legacyReport env := by
        unfold legacyReport
        split
        · decide
        · rfl
      unfold legacyWarning at hlegacy
      rw [hlegacy]
      generalize b.peek? (.str "diagnostics_level") = p
      split
      next => rfl
      next => rfl
      next d _ =>
        -- The check's own match sees the same value, which is not `null` either.
        by_cases hknown : diagnosticsLevels.contains (Text.lower d.text) = true
        · simp only [if_pos hknown]
        · simp only [if_neg hknown]
    · cases hl
  · cases ht

/-- The checks fail at the first of the three that fails. -/
theorem validate_error (b : Builder) (env : Environ) :
    (validate b env).error = (telemetryCheck b).or ((levelCheck b).or (diagnosticsCheck b)) := by
  cases ht : telemetryCheck b with
  | some e => rw [validate_of_telemetry ht]; rfl
  | none =>
    cases hl : levelCheck b with
    | some e => rw [validate_of_level ht hl]; rfl
    | none =>
      rw [validate_of_levels ht hl]
      have herr : (legacyReport env).error = none := by
        unfold legacyReport
        split <;> rfl
      cases diagnosticsCheck b with
      | none => exact herr
      | some e => simp [Report.withError, herr]

/-- The older diagnostics variable warns exactly when it is present and the checks got past
the log level. -/
theorem validate_warnings (b : Builder) (env : Environ) :
    (validate b env).warnings =
      if (telemetryCheck b).isNone && (levelCheck b).isNone && env.has oldDiagnosticsVariable
      then [legacyWarning] else [] := by
  cases ht : telemetryCheck b with
  | some e => rw [validate_of_telemetry ht]; rfl
  | none =>
    cases hl : levelCheck b with
    | some e => rw [validate_of_level ht hl]; rfl
    | none =>
      rw [validate_of_levels ht hl]
      have hwarn : (legacyReport env).warnings =
          if env.has oldDiagnosticsVariable then [legacyWarning] else [] := by
        unfold legacyReport
        split <;> rfl
      cases diagnosticsCheck b with
      | none => simpa using hwarn
      | some e => simpa [Report.withError_warnings] using hwarn

/-- Merging the checks into a report without an error that lacks the older variable's
warning: the checks' error, and their warnings after the report's. -/
theorem merge_validate {r : Report} (hr : r.failed = false) (hleg : legacyWarning ∉ r.warnings)
    (b : Builder) (env : Environ) :
    r.merge (some (validate b env)) =
      ⟨(validate b env).error, r.warnings ++ (validate b env).warnings⟩ := by
  have hnone : r.error.isNone = true := by
    simpa [Report.failed] using hr
  simp only [Report.merge, hnone, if_true]
  rw [validate_warnings]
  split
  · have hadd : ({ r with error := (validate b env).error } : Report).addWarning legacyWarning =
        ⟨(validate b env).error, r.warnings ++ [legacyWarning]⟩ := by
      have hne : legacyWarning.isEmpty = false := by decide
      simp [Report.addWarning, hne, hleg]
    simpa [Report.addWarnings] using hadd
  · simp [Report.addWarnings]

end Validate

/-! ## The report of an assembly -/

/-- The environment cannot be read, and `e` says so of the first variable, in the order of
`variableSettings`, whose text cannot be read as its setting says. -/
def UnreadableVariable (env : Environ) (e : String) : Prop :=
  ∃ pre x post raw f, variableSettings = pre ++ x :: post ∧
    (∀ y ∈ pre, ∀ raw', env.get? y.1 = some raw' → ∃ v, y.2.2.read raw' = .ok v) ∧
    env.get? x.1 = some raw ∧ x.2.2.read raw = .error f ∧
    e = s!"invalid value of environment variable {x.1} ({raw}): {f.message}"

/-- The saved token of the host the settings `b` name cannot be read for a reason of the
system's, and `e` says so. -/
def UnreadableToken (fs : Files.Tree) (inst : Install) (b : Builder) (e : String) : Prop :=
  ∃ f, loadToken fs inst (tokenHost b) = .error f ∧ f.kind.isSystem = true ∧
    e = s!"failed to load saved token for {tokenHost b}: {f.message}"

section Steps

variable {fs : Files.Tree} {inst : Install} {ws : Option String} {cwd : String}
  {env : Environ} {cmd : Command}

/-- An assembly gives a configuration exactly when its report has no error. -/
theorem assemble_config_eq_none {a : Assembled} (h : assemble fs inst ws cwd env cmd = .ok a) :
    a.config = none ↔ a.report.failed = true := by
  rcases assemble_eq_ok_cases h with ⟨hnone, hfailed⟩ | ⟨loaded, r, t, b, -, -, -, -, -, -, hcfg⟩
  · exact iff_of_true hnone hfailed
  · rw [hcfg]
    split
    case isTrue hf => exact iff_of_true rfl hf
    case isFalse hf => exact iff_of_false (fun h => nomatch h) hf

end Steps

/-- The report of an assembly, step by step. A configuration comes back exactly when the
report has no error. A step that fails gives its error, and no later step runs: the
installation directory; the configuration files, read in order up to the first that cannot
be read; the first environment variable that cannot be read; the saved token; and last the
telemetry, log and diagnostics levels, in this order. The warnings are those of the files
read before a failure, then the older diagnostics variable's when it is present and the
levels' checks got past the log level. -/
theorem assemble_reports (fs : Files.Tree) (inst : Install) (ws : Option String) (cwd : String)
    (env : Environ) (cmd : Command) :
    (∀ a, assemble fs inst ws cwd env cmd = .ok a → (a.config = none ↔ a.report.failed = true)) ∧
    (∀ e, ensureInstall fs inst = .error e →
      assemble fs inst ws cwd env cmd = .ok ⟨fs, none, Report.ofError e⟩) ∧
    ∀ fs', ensureInstall fs inst = .ok fs' → ∀ loaded r, loadFiles fs' inst ws = .ok (loaded, r) →
      FilesRead fs' (configFiles fs' inst ws) r ∧
      (r.failed = true → assemble fs inst ws cwd env cmd = .ok ⟨fs', none, r⟩) ∧
      (r.failed = false →
        (∀ e, environmentSettings env = .error e → UnreadableVariable env e ∧
          assemble fs inst ws cwd env cmd = .ok ⟨fs', none, { r with error := some e }⟩) ∧
        ∀ t, environmentSettings env = .ok t →
          (∀ e, resolveToken fs' inst env (baseBuilder inst (ws.getD cwd) loaded.options t) =
              .ok (.error e) →
            UnreadableToken fs' inst (baseBuilder inst (ws.getD cwd) loaded.options t) e ∧
            assemble fs inst ws cwd env cmd = .ok ⟨fs', none, { r with error := some e }⟩) ∧
          ∀ b, resolveToken fs' inst env (baseBuilder inst (ws.getD cwd) loaded.options t) =
              .ok (.ok b) →
            ∃ a, assemble fs inst ws cwd env cmd = .ok a ∧ a.tree = fs' ∧
              a.report.error = (telemetryCheck (b.put .resolved cmd.settings)).or
                ((levelCheck (b.put .resolved cmd.settings)).or
                  (diagnosticsCheck (b.put .resolved cmd.settings))) ∧
              a.report.warnings = r.warnings ++
                if (telemetryCheck (b.put .resolved cmd.settings)).isNone &&
                  (levelCheck (b.put .resolved cmd.settings)).isNone &&
                  env.has oldDiagnosticsVariable
                then [legacyWarning] else []) := by
  refine ⟨fun a h => assemble_config_eq_none h, fun e h₁ => assemble_of_install_error h₁, ?_⟩
  intro fs' h₁ loaded r h₂
  have hread := loadFiles_report h₂
  refine ⟨hread, assemble_of_files_failed h₁ h₂, fun hr => ⟨?_, ?_⟩⟩
  · intro e h₃
    refine ⟨environmentSettings_eq_error h₃, ?_⟩
    rw [assemble_of_env_error h₁ h₂ hr h₃, Report.withError_of_ok hr]
  · intro t h₃
    refine ⟨fun e h₄ => ⟨resolveToken_eq_error h₄, ?_⟩, fun b h₄ => ?_⟩
    · rw [assemble_of_token_error h₁ h₂ hr h₃ h₄, Report.withError_of_ok hr]
    · -- The checks run on the settings with the command's added, and their report is merged
      -- into the files'.
      have hmerge := merge_validate hr hread.legacy_not_mem (b.put .resolved cmd.settings) env
      refine ⟨_, assemble_of_token h₁ h₂ hr h₃ h₄, rfl, ?_, ?_⟩
      · rw [hmerge, validate_error]
      · rw [hmerge, validate_warnings]

-- The older diagnostics variable with an unknown level: the last check fails, and the
-- variable's warning is there, for the checks got past the log level.
example : (assemble (Files.Tree.atDir "/w") ⟨"/inst"⟩ none "/w"
    ⟨[("CHECKPIPE_DIAGNOSTICS_LEVEL", "x")]⟩ sampleCommand).toOption.map (·.report) =
    some ⟨some "invalid value of CHECKPIPE_DIAGNOSTIC_LEVEL (x), must be one of: all, none",
      [legacyWarning]⟩ := by
  decide +kernel

end Preflight.Config
