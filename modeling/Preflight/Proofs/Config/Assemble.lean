import Preflight.Config.Assemble
import Preflight.Proofs.Config.FileSettings

/-!
# Assembling a configuration, step by step

`assemble` runs its steps in order: the installation directory, the configuration files,
the environment, the saved cloud token, then the checks of the levels. This module states
what each step gives and how the assembly ends after it, so that the properties of a whole
assembly are read off these step lemmas:

* the environment's settings: each variable that is present, read as its setting says, with
  the first variable that cannot be read as the error (`environmentSettings_eq_ok`,
  `environmentSettings_eq_error`);
* the cloud token: the environment's when it is set and not empty, else the saved one
  (`resolveToken_eq_ok`);
* the layers of an assembled configuration (`assemble_layers_eq`), with the settings of the
  files typed as their schema says.
-/

set_option autoImplicit false

namespace Preflight

/-! ## Reports -/

namespace Report

theorem mem_addWarning_iff {r : Report} {x w : String} :
    w ∈ (r.addWarning x).warnings ↔ w ∈ r.warnings ∨ (w = x ∧ x.isEmpty = false) := by
  unfold addWarning
  split
  case isTrue hskip =>
    -- The warning is left out when it is empty or already there.
    refine ⟨.inl, ?_⟩
    rintro (hw | ⟨rfl, hne⟩)
    · exact hw
    · simpa [hne] using hskip
  case isFalse hadd =>
    simp only [Bool.or_eq_true, not_or, Bool.not_eq_true] at hadd
    simp [hadd.1]

theorem addWarning_error (r : Report) (x : String) : (r.addWarning x).error = r.error := by
  unfold addWarning
  split <;> rfl

theorem withError_of_ok {r : Report} (h : r.failed = false) (e : String) :
    r.withError e = { r with error := some e } := by
  simp only [failed, Option.isSome_eq_false_iff] at h
  simp [withError, h]

theorem failed_withError (r : Report) (e : String) : (r.withError e).failed = true := by
  unfold withError failed
  split
  case isTrue => rfl
  case isFalse h => exact Option.isSome_iff_ne_none.2 (by simpa using h)

theorem withError_warnings (r : Report) (e : String) : (r.withError e).warnings = r.warnings := by
  unfold withError
  split <;> rfl

end Report

namespace Config

/-! ## The environment -/

/-- One variable's turn in reading the environment. -/
def envStep (env : Environ) (t : Table) (x : String × String × Reading) : Except String Table :=
  match env.get? x.1 with
  | none => .ok t
  | some raw =>
    match x.2.2.read raw with
    | .ok v => .ok (t.putText x.2.1 v)
    | .error f => .error s!"invalid value of environment variable {x.1} ({raw}): {f.message}"

/-- The log and diagnostics levels the environment asks for, set after the variables. -/
def envLevels (env : Environ) (t : Table) : Table :=
  let t := match env.logLevel? with
    | some l => t.putText "log_level" (.str l)
    | none => t
  match env.get? diagnosticsVariable <|> env.get? oldDiagnosticsVariable with
  | some d => t.putText "diagnostics_level" (.str d)
  | none => t

theorem environmentSettings_eq (env : Environ) :
    environmentSettings env =
      (variableSettings.foldlM (envStep env) Table.empty).bind (fun t => .ok (envLevels env t)) := by
  unfold environmentSettings
  show Except.bind (variableSettings.foldlM (envStep env) Table.empty) _ = _
  congr 1
  funext t
  unfold envLevels
  cases env.logLevel? <;> cases (env.get? diagnosticsVariable <|> env.get? oldDiagnosticsVariable) <;>
    rfl

section Fold

variable {env : Environ}

/-- A variable's turn sets its own setting only. -/
theorem envStep_find? {t t' : Table} {x : String × String × Reading} (h : envStep env t x = .ok t')
    {key : String} (hk : x.2.1 ≠ key) : t'.find? (.str key) = t.find? (.str key) := by
  unfold envStep at h
  split at h
  · cases h
    rfl
  · split at h
    · cases h
      simp [hk]
    · cases h

theorem envFold_frame {vs : List (String × String × Reading)} {t₀ t : Table}
    (h : vs.foldlM (envStep env) t₀ = .ok t) {key : String} (hk : key ∉ vs.map (·.2.1)) :
    t.find? (.str key) = t₀.find? (.str key) := by
  induction vs generalizing t₀ with
  | nil =>
    cases h
    rfl
  | cons x xs ih =>
    rw [List.foldlM_cons] at h
    cases hx : envStep env t₀ x with
    | error e => simp [hx] at h
    | ok t₁ =>
      rw [hx] at h
      simp only [List.map_cons, List.mem_cons, not_or] at hk
      rw [ih h hk.2, envStep_find? hx (Ne.symm hk.1)]

theorem envFold_keyed {vs : List (String × String × Reading)} {t₀ t : Table}
    (h : vs.foldlM (envStep env) t₀ = .ok t) (h₀ : t₀.Keyed) : t.Keyed := by
  induction vs generalizing t₀ with
  | nil =>
    cases h
    exact h₀
  | cons x xs ih =>
    rw [List.foldlM_cons] at h
    cases hx : envStep env t₀ x with
    | error e => simp [hx] at h
    | ok t₁ =>
      rw [hx] at h
      apply ih h
      unfold envStep at hx
      split at hx
      · cases hx
        exact h₀
      · split at hx
        · cases hx
          exact h₀.putText _ _
        · cases hx

/-- With distinct settings, each present variable's setting holds what its text reads as. -/
theorem envFold_find? {vs : List (String × String × Reading)} (hnd : (vs.map (·.2.1)).Nodup)
    {t₀ t : Table} (h : vs.foldlM (envStep env) t₀ = .ok t) {x : String × String × Reading}
    (hx : x ∈ vs) :
    match env.get? x.1 with
    | some raw => ∃ v, x.2.2.read raw = .ok v ∧ t.find? (.str x.2.1) = some v
    | none => t.find? (.str x.2.1) = t₀.find? (.str x.2.1) := by
  induction vs generalizing t₀ with
  | nil => cases hx
  | cons y ys ih =>
    rw [List.foldlM_cons] at h
    cases hy : envStep env t₀ y with
    | error e => simp [hy] at h
    | ok t₁ =>
      rw [hy] at h
      simp only [List.map_cons, List.nodup_cons] at hnd
      rcases List.mem_cons.1 hx with rfl | hx
      · -- The variable's own turn; no later turn sets its setting.
        rw [envFold_frame h hnd.1]
        unfold envStep at hy
        split at hy
        case h_1 hnone =>
          cases hy
          rw [hnone]
        case h_2 raw hraw =>
          rw [hraw]
          split at hy
          case h_1 v hv =>
            cases hy
            exact ⟨v, hv, by simp⟩
          case h_2 => cases hy
      · -- A later variable's turn; the earlier one set another setting.
        have hne : y.2.1 ≠ x.2.1 := fun heq => hnd.1 (heq ▸ List.mem_map_of_mem hx)
        have := ih hnd.2 h hx
        split
        case h_1 raw hraw =>
          rw [hraw] at this
          exact this
        case h_2 hnone =>
          rw [hnone] at this
          rw [this, envStep_find? hy hne]

/-- Reading the variables fails at the first one that cannot be read: all before it can. -/
theorem envFold_error {vs : List (String × String × Reading)} {t₀ : Table} {e : String}
    (h : vs.foldlM (envStep env) t₀ = .error e) :
    ∃ pre x post raw f, vs = pre ++ x :: post ∧
      (∀ y ∈ pre, ∀ raw', env.get? y.1 = some raw' → ∃ v, y.2.2.read raw' = .ok v) ∧
      env.get? x.1 = some raw ∧ x.2.2.read raw = .error f ∧
      e = s!"invalid value of environment variable {x.1} ({raw}): {f.message}" := by
  induction vs generalizing t₀ with
  | nil => cases h
  | cons y ys ih =>
    rw [List.foldlM_cons] at h
    cases hy : envStep env t₀ y with
    | error e' =>
      rw [hy] at h
      cases h
      unfold envStep at hy
      split at hy
      · cases hy
      case h_2 raw hraw =>
        split at hy
        · cases hy
        case h_2 f hf =>
          cases hy
          exact ⟨[], y, ys, raw, f, rfl, by simp, hraw, hf, rfl⟩
    | ok t₁ =>
      rw [hy] at h
      obtain ⟨pre, x, post, raw, f, rfl, hpre, hraw, hf, rfl⟩ := ih h
      refine ⟨y :: pre, x, post, raw, f, rfl, ?_, hraw, hf, rfl⟩
      intro z hz raw' hz'
      rcases List.mem_cons.1 hz with rfl | hz
      · unfold envStep at hy
        simp only [hz'] at hy
        cases hread : z.2.2.read raw' with
        | ok v => exact ⟨v, rfl⟩
        | error f => simp [hread] at hy
      · exact hpre z hz raw' hz'

end Fold

theorem variableSettings_nodup : (variableSettings.map (·.2.1)).Nodup := by decide

/-- The settings the environment gives: each present variable's setting, read as it says,
and the log and diagnostics levels asked for. -/
theorem environmentSettings_eq_ok {env : Environ} {t : Table} (h : environmentSettings env = .ok t) :
    t.Keyed ∧
      (∀ x ∈ variableSettings, match env.get? x.1 with
        | some raw => ∃ v, x.2.2.read raw = .ok v ∧ t.find? (.str x.2.1) = some v
        | none => t.find? (.str x.2.1) = none) ∧
      t.find? (.str "log_level") = env.logLevel?.map .str ∧
      t.find? (.str "diagnostics_level") =
        (env.get? diagnosticsVariable <|> env.get? oldDiagnosticsVariable).map .str := by
  rw [environmentSettings_eq] at h
  cases hfold : variableSettings.foldlM (envStep env) Table.empty with
  | error e => simp [hfold, Except.bind] at h
  | ok t₀ =>
    simp only [hfold, Except.bind, Except.ok.injEq] at h
    subst h
    refine ⟨?_, ?_, ?_, ?_⟩
    · have h₀ := envFold_keyed hfold Table.keyed_empty
      unfold envLevels
      cases env.logLevel? <;> cases (env.get? diagnosticsVariable <|> env.get? oldDiagnosticsVariable)
      · exact h₀
      · exact h₀.putText _ _
      · exact h₀.putText _ _
      · exact (h₀.putText _ _).putText _ _
    · intro x hx
      have hown := envFold_find? variableSettings_nodup hfold hx
      -- The levels are not among the variables' settings.
      have hlog : x.2.1 ≠ "log_level" := by
        intro heq
        have : "log_level" ∈ variableSettings.map (·.2.1) := heq ▸ List.mem_map_of_mem hx
        revert this
        decide
      have hdiag : x.2.1 ≠ "diagnostics_level" := by
        intro heq
        have : "diagnostics_level" ∈ variableSettings.map (·.2.1) := heq ▸ List.mem_map_of_mem hx
        revert this
        decide
      have hlev : (envLevels env t₀).find? (.str x.2.1) = t₀.find? (.str x.2.1) := by
        unfold envLevels
        split <;> split <;> simp [Ne.symm hlog, Ne.symm hdiag]
      rw [hlev]
      split
      case h_1 raw hraw =>
        rw [hraw] at hown
        exact hown
      case h_2 hnone =>
        rw [hnone] at hown
        rw [hown]
        rfl
    · have hnot : t₀.find? (.str "log_level") = none := by
        rw [envFold_frame hfold (by decide)]
        rfl
      unfold envLevels
      cases env.logLevel? <;> cases (env.get? diagnosticsVariable <|> env.get? oldDiagnosticsVariable) <;>
        simp [hnot]
    · have hnot : t₀.find? (.str "diagnostics_level") = none := by
        rw [envFold_frame hfold (by decide)]
        rfl
      unfold envLevels
      cases env.logLevel? <;> cases (env.get? diagnosticsVariable <|> env.get? oldDiagnosticsVariable) <;>
        simp [hnot]

/-- The environment cannot be read at the first variable, in the order of
`variableSettings`, whose text cannot be read as its setting says. -/
theorem environmentSettings_eq_error {env : Environ} {e : String}
    (h : environmentSettings env = .error e) :
    ∃ pre x post raw f, variableSettings = pre ++ x :: post ∧
      (∀ y ∈ pre, ∀ raw', env.get? y.1 = some raw' → ∃ v, y.2.2.read raw' = .ok v) ∧
      env.get? x.1 = some raw ∧ x.2.2.read raw = .error f ∧
      e = s!"invalid value of environment variable {x.1} ({raw}): {f.message}" := by
  rw [environmentSettings_eq] at h
  cases hfold : variableSettings.foldlM (envStep env) Table.empty with
  | error e' =>
    simp only [hfold, Except.bind, Except.error.injEq] at h
    subst h
    exact envFold_error hfold
  | ok t₀ => simp [hfold, Except.bind] at h

/-! ## The cloud token -/

/-- The cloud token a run uses: the environment's when it is set and not empty, else the
saved token when it is not empty. -/
def cloudToken (env : Environ) (saved : String) : Option String :=
  (env.nonEmpty? tokenVariable).or (if saved.isEmpty then none else some saved)

/-- The resolved setting of a cloud token, if there is one. -/
def tokenEntries (token : Option String) : Entries :=
  (token.map (fun t => (.str "cloud_token", .str t))).toList

/-- The host whose saved token is read, as the settings collected so far name it. -/
def tokenHost (b : Builder) : String :=
  ((b.peek? (.str "cloud_host")).getD (.str defaultCloudHost)).text

theorem putAll_token (s : String) :
    ({} : Table).putAll ⟨[(.str "cloud_token", .str s)]⟩ = ⟨[(.str "cloud_token", .str s)]⟩ := by
  simp [Table.putAll, Table.putList, Table.put, Entries.insert, Entries.contains]

theorem putAll_token_token (s s' : String) :
    (⟨[(.str "cloud_token", .str s)]⟩ : Table).putAll ⟨[(.str "cloud_token", .str s')]⟩ =
      ⟨[(.str "cloud_token", .str s')]⟩ := by
  simp [Table.putAll, Table.putList, Table.put, Entries.insert, Entries.contains, Value.sameKey]

/-- Resolving the token reads the saved token of the host the settings name, and the
resolved settings then hold the token the run uses, if there is one. -/
theorem resolveToken_eq_ok {fs : Files.Tree} {inst : Install} {env : Environ} {b b' : Builder}
    (hres : b.layers.resolved = {}) (h : resolveToken fs inst env b = .ok (.ok b')) :
    ∃ saved, loadToken fs inst (tokenHost b) = .ok saved ∧
      b'.layers = { b.layers with resolved := ⟨tokenEntries (cloudToken env saved)⟩ } := by
  have hhost : ((b.peek? (.str "cloud_host")).getD (.str defaultCloudHost)).text = tokenHost b := rfl
  unfold resolveToken at h
  simp only [hhost] at h
  cases hload : loadToken fs inst (tokenHost b) with
  | error f =>
    simp only [hload] at h
    split at h <;> cases h
  | ok saved =>
    refine ⟨saved, rfl, ?_⟩
    simp only [hload] at h
    obtain ⟨⟨d, f, e, r⟩⟩ := b
    simp only at hres
    subst hres
    -- Four cases: a saved token or not, a token in the environment or not.
    by_cases hs : saved.isEmpty = true <;> cases hn : env.nonEmpty? tokenVariable <;>
      simp only [hs, hn, Bool.false_eq_true, if_true, if_false, Except.ok.injEq] at h <;>
      subst h <;>
      simp only [Builder.set, Builder.put, Layers.modify, putAll_token, putAll_token_token] <;>
      simp [cloudToken, tokenEntries, hs, hn]

/-- A saved token that cannot be read stops the assembly with the host named, when the
failure is one of the system's. -/
theorem resolveToken_eq_error {fs : Files.Tree} {inst : Install} {env : Environ} {b : Builder}
    {e : String} (h : resolveToken fs inst env b = .ok (.error e)) :
    ∃ f, loadToken fs inst (tokenHost b) = .error f ∧ f.kind.isSystem = true ∧
      e = s!"failed to load saved token for {tokenHost b}: {f.message}" := by
  have hhost : ((b.peek? (.str "cloud_host")).getD (.str defaultCloudHost)).text = tokenHost b := rfl
  unfold resolveToken at h
  simp only [hhost] at h
  cases hload : loadToken fs inst (tokenHost b) with
  | error f =>
    simp only [hload] at h
    split at h
    case isTrue hsys =>
      cases h
      exact ⟨f, rfl, hsys, rfl⟩
    case isFalse => cases h
  | ok saved =>
    simp only [hload] at h
    split at h <;> cases h

/-! ## The steps of an assembly -/

/-- The settings collected before the token is resolved: the defaults, the files' settings
and the environment's. -/
def baseBuilder (inst : Install) (workspace : String) (options env : Table) : Builder :=
  ((({} : Builder).put .defaults (defaultSettings inst workspace)).put .file options).put
    .environment env

section Steps

variable {fs fs' : Files.Tree} {inst : Install} {ws : Option String} {cwd : String}
  {env : Environ} {cmd : Command} {loaded : Loaded} {r : Report} {t : Table}

theorem assemble_of_install_error {e : String} (h₁ : ensureInstall fs inst = .error e) :
    assemble fs inst ws cwd env cmd = .ok ⟨fs, none, Report.ofError e⟩ := by
  simp [assemble, h₁]

theorem assemble_of_files_failure {f : Failure} (h₁ : ensureInstall fs inst = .ok fs')
    (h₂ : loadFiles fs' inst ws = .error f) : assemble fs inst ws cwd env cmd = .error f := by
  simp [assemble, h₁, h₂]

theorem assemble_of_files_failed (h₁ : ensureInstall fs inst = .ok fs')
    (h₂ : loadFiles fs' inst ws = .ok (loaded, r)) (hr : r.failed = true) :
    assemble fs inst ws cwd env cmd = .ok ⟨fs', none, r⟩ := by
  simp [assemble, h₁, h₂, hr]

theorem assemble_of_env_error {e : String} (h₁ : ensureInstall fs inst = .ok fs')
    (h₂ : loadFiles fs' inst ws = .ok (loaded, r)) (hr : r.failed = false)
    (h₃ : environmentSettings env = .error e) :
    assemble fs inst ws cwd env cmd = .ok ⟨fs', none, r.withError e⟩ := by
  simp [assemble, h₁, h₂, hr, h₃]

theorem assemble_of_token_failure {f : Failure} (h₁ : ensureInstall fs inst = .ok fs')
    (h₂ : loadFiles fs' inst ws = .ok (loaded, r)) (hr : r.failed = false)
    (h₃ : environmentSettings env = .ok t)
    (h₄ : resolveToken fs' inst env (baseBuilder inst (ws.getD cwd) loaded.options t) = .error f) :
    assemble fs inst ws cwd env cmd = .error f := by
  simp only [baseBuilder] at h₄
  simp [assemble, h₁, h₂, hr, h₃, h₄]

theorem assemble_of_token_error {e : String} (h₁ : ensureInstall fs inst = .ok fs')
    (h₂ : loadFiles fs' inst ws = .ok (loaded, r)) (hr : r.failed = false)
    (h₃ : environmentSettings env = .ok t)
    (h₄ : resolveToken fs' inst env (baseBuilder inst (ws.getD cwd) loaded.options t) =
      .ok (.error e)) :
    assemble fs inst ws cwd env cmd = .ok ⟨fs', none, r.withError e⟩ := by
  simp only [baseBuilder] at h₄
  simp [assemble, h₁, h₂, hr, h₃, h₄]

theorem assemble_of_token {b : Builder} (h₁ : ensureInstall fs inst = .ok fs')
    (h₂ : loadFiles fs' inst ws = .ok (loaded, r)) (hr : r.failed = false)
    (h₃ : environmentSettings env = .ok t)
    (h₄ : resolveToken fs' inst env (baseBuilder inst (ws.getD cwd) loaded.options t) =
      .ok (.ok b)) :
    assemble fs inst ws cwd env cmd =
      .ok ⟨fs', if (r.merge (some (validate (b.put .resolved cmd.settings) env))).failed then none
          else some (b.put .resolved cmd.settings).build,
        r.merge (some (validate (b.put .resolved cmd.settings) env))⟩ := by
  simp only [baseBuilder] at h₄
  simp only [assemble, h₁, h₂, hr, h₃, h₄, Files.except_ok_bind, Files.except_pure,
    Bool.false_eq_true, if_false]
  split <;> rfl

/-- An assembly that returns either fails, with no configuration, or went through every
step: the installation directory, the files without an error, the environment and the token,
and then the checks decide. -/
theorem assemble_eq_ok_cases {a : Assembled} (h : assemble fs inst ws cwd env cmd = .ok a) :
    (a.config = none ∧ a.report.failed = true) ∨
    ∃ loaded r t b, ensureInstall fs inst = .ok a.tree ∧
      loadFiles a.tree inst ws = .ok (loaded, r) ∧ r.failed = false ∧
      environmentSettings env = .ok t ∧
      resolveToken a.tree inst env (baseBuilder inst (ws.getD cwd) loaded.options t) =
        .ok (.ok b) ∧
      a.report = r.merge (some (validate (b.put .resolved cmd.settings) env)) ∧
      a.config = if a.report.failed then none else some (b.put .resolved cmd.settings).build := by
  cases h₁ : ensureInstall fs inst with
  | error e =>
    rw [assemble_of_install_error h₁] at h
    cases h
    exact .inl ⟨rfl, rfl⟩
  | ok fs' =>
    cases h₂ : loadFiles fs' inst ws with
    | error f =>
      rw [assemble_of_files_failure h₁ h₂] at h
      cases h
    | ok lr =>
      obtain ⟨loaded, r⟩ := lr
      cases hr : r.failed with
      | true =>
        rw [assemble_of_files_failed h₁ h₂ hr] at h
        cases h
        exact .inl ⟨rfl, hr⟩
      | false =>
        cases h₃ : environmentSettings env with
        | error e =>
          rw [assemble_of_env_error h₁ h₂ hr h₃] at h
          cases h
          exact .inl ⟨rfl, Report.failed_withError r e⟩
        | ok t =>
          cases h₄ : resolveToken fs' inst env (baseBuilder inst (ws.getD cwd) loaded.options t) with
          | error f =>
            rw [assemble_of_token_failure h₁ h₂ hr h₃ h₄] at h
            cases h
          | ok res =>
            cases res with
            | error e =>
              rw [assemble_of_token_error h₁ h₂ hr h₃ h₄] at h
              cases h
              exact .inl ⟨rfl, Report.failed_withError r e⟩
            | ok b =>
              rw [assemble_of_token h₁ h₂ hr h₃ h₄, Except.ok.injEq] at h
              subst h
              -- Read the fields off the assembled record first: comparing them unreduced
              -- would evaluate the checks.
              dsimp only
              exact .inr ⟨loaded, r, t, b, rfl, h₂, hr, rfl, h₄, rfl, rfl⟩

/-- An assembly that gives a configuration went through every step: the installation
directory, the files without an error, the environment, the token, and the checks. -/
theorem assemble_eq_config {a : Assembled} {c : Config}
    (h : assemble fs inst ws cwd env cmd = .ok a) (hc : a.config = some c) :
    ∃ loaded r t b, ensureInstall fs inst = .ok a.tree ∧
      loadFiles a.tree inst ws = .ok (loaded, r) ∧ r.failed = false ∧
      environmentSettings env = .ok t ∧
      resolveToken a.tree inst env (baseBuilder inst (ws.getD cwd) loaded.options t) =
        .ok (.ok b) ∧
      c = (b.put .resolved cmd.settings).build ∧
      a.report = r.merge (some (validate (b.put .resolved cmd.settings) env)) ∧
      a.report.failed = false := by
  rcases assemble_eq_ok_cases h with ⟨hnone, -⟩ | ⟨loaded, r, t, b, h₁, h₂, hr, h₃, h₄, hrep, hcfg⟩
  · rw [hnone] at hc
    cases hc
  · rw [hcfg] at hc
    split at hc
    · cases hc
    case isFalse hv =>
      cases hc
      exact ⟨loaded, r, t, b, h₁, h₂, hr, h₃, h₄, rfl, hrep, Bool.eq_false_iff.2 hv⟩

end Steps

/-! ## The layers of an assembled configuration -/

theorem Command.settings_entries (c : Command) :
    c.settings.entries = [(.str "active_command", .str c.name),
      (.str "active_command_args", .list (c.args.map .str)), (.str "is_terminal_tty", .bool c.tty)] := by
  simp [Command.settings, Table.ofTexts, Table.putText, Table.put, Entries.insert,
    Entries.contains, Table.empty, Value.sameKey]

/-- The resolved settings are the token, if there is one, then the command's settings. -/
theorem tokenTable_putAll (token : Option String) (cmd : Command) :
    (⟨tokenEntries token⟩ : Table).putAll cmd.settings =
      ⟨tokenEntries token ++ cmd.settings.entries⟩ := by
  apply Table.putList_of_pairwise
  rw [Command.settings_entries]
  cases token <;> simp [tokenEntries]

theorem keyed_defaultSettings (inst : Install) (workspace : String) :
    (defaultSettings inst workspace).Keyed :=
  Table.keyed_ofTexts _

theorem baseBuilder_layers (inst : Install) (workspace : String) {options env : Table}
    (ho : options.Keyed) (he : env.Keyed) :
    (baseBuilder inst workspace options env).layers =
      ⟨defaultSettings inst workspace, options, env, {}⟩ := by
  simp only [baseBuilder, Builder.put, Layers.modify,
    (keyed_defaultSettings inst workspace).empty_putAll, ho.empty_putAll, he.empty_putAll]

/-- The layers of an assembled configuration: the defaults, the settings of the files, those
of the environment, and the resolved token and command. -/
theorem assemble_layers_eq {fs : Files.Tree} {inst : Install} {ws : Option String} {cwd : String}
    {env : Environ} {cmd : Command} {a : Assembled} {c : Config}
    (h : assemble fs inst ws cwd env cmd = .ok a) (hc : a.config = some c) :
    ∃ loaded r t saved, loadFiles a.tree inst ws = .ok (loaded, r) ∧
      environmentSettings env = .ok t ∧
      loadToken a.tree inst (tokenHost (baseBuilder inst (ws.getD cwd) loaded.options t)) =
        .ok saved ∧
      c.layers = ⟨defaultSettings inst (ws.getD cwd), loaded.options, t,
        ⟨tokenEntries (cloudToken env saved) ++ cmd.settings.entries⟩⟩ := by
  obtain ⟨loaded, r, t, b, -, h₂, -, h₃, h₄, rfl, -, -⟩ := assemble_eq_config h hc
  have hko := (loadFiles_typed h₂).1
  have hke := (environmentSettings_eq_ok h₃).1
  have hbase := baseBuilder_layers inst (ws.getD cwd) hko hke
  obtain ⟨saved, hload, hb⟩ := resolveToken_eq_ok (by rw [hbase]) h₄
  refine ⟨loaded, r, t, saved, h₂, h₃, hload, ?_⟩
  show (b.layers.modify .resolved (fun t => t.putAll cmd.settings)) = _
  rw [hb, hbase]
  simp only [Layers.modify, tokenTable_putAll]

/-! ## Runs on fixed inputs -/

theorem eq_ok_of_isOk {ε α : Type} {x : Except ε α} (d : α) (h : x.isOk = true) :
    x = .ok (x.toOption.getD d) := by
  cases x <;> simp_all [Except.isOk, Except.toBool, Except.toOption]

theorem eq_some_of_isSome {α : Type} {o : Option α} (d : α) (h : o.isSome = true) :
    o = some (o.getD d) := by
  cases o <;> simp_all

/-- An environment that sets a memory limit, a log level under an older name and a token. -/
def sampleEnv : Environ :=
  ⟨[("CHECKPIPE_MEMORY_MAX_MB", "512"), ("CP_LOG", "info"), ("CHECKPIPE_CLOUD_TOKEN", "tok")]⟩

/-- A command with one argument. -/
def sampleCommand : Command := ⟨"check", ["a"], false⟩

/-- What assembling gives in a fresh tree, with no configuration files, in `sampleEnv`. -/
def sampleAssembled : Assembled :=
  (assemble (Files.Tree.atDir "/w") ⟨"/inst"⟩ none "/w" sampleEnv sampleCommand).toOption.getD
    ⟨{}, none, {}⟩

/-- The configuration of `sampleAssembled`. -/
def sampleConfig : Config := sampleAssembled.config.getD {}

theorem assemble_sample :
    assemble (Files.Tree.atDir "/w") ⟨"/inst"⟩ none "/w" sampleEnv sampleCommand =
      .ok sampleAssembled :=
  eq_ok_of_isOk _ (by decide +kernel)

theorem sampleAssembled_config : sampleAssembled.config = some sampleConfig :=
  eq_some_of_isSome _ (by decide +kernel)

end Config

end Preflight
