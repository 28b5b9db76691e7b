import Preflight.Proofs.Config.Assemble

/-!
# The layers of a run's configuration

A configuration that assembling gives has four layers, and each is known exactly: the
defaults, the settings the configuration files give, the settings the environment gives,
and last the cloud token (the environment's when it is set and not empty, else the token
saved for the cloud host the configuration names) followed by the command being run.

So each setting takes its value from the highest layer that holds it: a setting that an
environment variable gives has the variable's value whenever the variable is present, even
empty; the log level is the first level variable that is not empty, else the files', else
`warn`; the diagnostics level is the current variable's if present, else the older one's.
-/

set_option autoImplicit false

namespace Preflight.Config

theorem Table.Typed.find?_ne_null {t : Table} (ht : t.Typed) (name : String) :
    t.find? (.str name) ≠ some .null := by
  intro h
  obtain ⟨sub, hsub, hkind⟩ := ht name _ h
  obtain ⟨k, hk, -, -, hnull⟩ := generalFields_kinds hsub
  rw [hk] at hkind
  cases k <;> simp_all [ValueKind.holds]

theorem getText_of_find? {c : Config} {k : String} {v : Value} (h : c.find? (.str k) = some v)
    (hv : v ≠ .null) (dflt : String) : c.getText k dflt = v.text := by
  cases v <;> simp_all [getText, present?]

/-- The resolved settings set nothing but the token and the command's settings. -/
theorem resolved_find? (token : Option String) (cmd : Command) {key : String}
    (hkey : key ∉ ["cloud_token", "active_command", "active_command_args", "is_terminal_tty"]) :
    (⟨tokenEntries token ++ cmd.settings.entries⟩ : Table).find? (.str key) = none := by
  simp only [List.mem_cons, List.not_mem_nil, or_false, not_or] at hkey
  obtain ⟨h₁, h₂, h₃, h₄⟩ := hkey
  rw [Command.settings_entries]
  cases token <;>
    simp [Table.find?, Entries.get?, tokenEntries, Ne.symm h₁, Ne.symm h₂, Ne.symm h₃, Ne.symm h₄]

theorem keyed_resolved (token : Option String) (cmd : Command) :
    (⟨tokenEntries token ++ cmd.settings.entries⟩ : Table).Keyed := by
  rw [← tokenTable_putAll]
  apply Table.Keyed.putAll
  cases token <;> simp [Table.Keyed, tokenEntries]

section Assembled

variable {fs : Files.Tree} {inst : Install} {ws : Option String} {cwd : String}
  {env : Environ} {cmd : Command} {a : Assembled} {c : Config}

theorem assemble_keyed (h : assemble fs inst ws cwd env cmd = .ok a) (hc : a.config = some c) :
    c.Keyed := by
  obtain ⟨loaded, r, t, saved, hload, henv, -, hlayers⟩ := assemble_layers_eq h hc
  rw [Keyed, hlayers]
  exact ⟨keyed_defaultSettings _ _, (loadFiles_typed hload).1, (environmentSettings_eq_ok henv).1,
    keyed_resolved _ _⟩

/-- A setting that an environment variable gives takes the variable's value, read as the
setting says, when the variable is present, and else the files' value or the default. -/
theorem assemble_find?_variable (h : assemble fs inst ws cwd env cmd = .ok a)
    (hc : a.config = some c) {x : String × String × Reading} (hx : x ∈ variableSettings) :
    match env.get? x.1 with
    | some raw => ∃ v, x.2.2.read raw = .ok v ∧ c.find? (.str x.2.1) = some v
    | none => c.find? (.str x.2.1) =
        (c.layers.file.find? (.str x.2.1)).or (c.layers.defaults.find? (.str x.2.1)) := by
  obtain ⟨loaded, r, t, saved, -, henv, -, hlayers⟩ := assemble_layers_eq h hc
  -- No variable sets a setting of the token or of the command.
  have hres : c.layers.resolved.find? (.str x.2.1) = none := by
    rw [hlayers]
    apply resolved_find?
    simp only [variableSettings, List.mem_cons, List.not_mem_nil, or_false] at hx
    rcases hx with rfl | rfl | rfl | rfl | rfl | rfl <;> decide
  have henv' : c.layers.environment = t := by rw [hlayers]
  have hown := (environmentSettings_eq_ok henv).2.1 x hx
  rw [(assemble_keyed h hc).find?_str, hres, henv', Option.none_or]
  split
  case h_1 raw hraw =>
    rw [hraw] at hown
    obtain ⟨v, hv, hfv⟩ := hown
    exact ⟨v, hv, by simp [hfv]⟩
  case h_2 hnone =>
    rw [hnone] at hown
    simp [hown]

end Assembled

/-- An assembled configuration holds exactly four layers: the defaults, the settings of the
configuration files, those of the environment, and the resolved cloud token followed by the
command's settings. Each setting takes its value from the highest layer that holds it, so a
variable of the environment that is present overrides the files and the defaults, the log
level comes from the first level variable that is not empty, and the diagnostics level from
the current variable, else the older one. -/
theorem assemble_layers {fs : Files.Tree} {inst : Install} {ws : Option String} {cwd : String}
    {env : Environ} {cmd : Command} {a : Assembled} {c : Config}
    (h : assemble fs inst ws cwd env cmd = .ok a) (hc : a.config = some c) :
    c.layers.defaults = defaultSettings inst (ws.getD cwd) ∧
      (loadFiles a.tree inst ws).map (·.1.options) = .ok c.layers.file ∧
      environmentSettings env = .ok c.layers.environment ∧
      (∃ saved, loadToken a.tree inst (c.getText "cloud_host") = .ok saved ∧
        c.layers.resolved = ⟨tokenEntries (cloudToken env saved) ++ cmd.settings.entries⟩) ∧
      (∀ key, c.find? (.str key) =
        (c.layers.resolved.find? (.str key)).or ((c.layers.environment.find? (.str key)).or
          ((c.layers.file.find? (.str key)).or (c.layers.defaults.find? (.str key))))) ∧
      (∀ x ∈ variableSettings, match env.get? x.1 with
        | some raw => ∃ v, x.2.2.read raw = .ok v ∧ c.find? (.str x.2.1) = some v
        | none => c.find? (.str x.2.1) =
            (c.layers.file.find? (.str x.2.1)).or (c.layers.defaults.find? (.str x.2.1))) ∧
      c.find? (.str "log_level") =
        (env.logLevel?.map .str).or ((c.layers.file.find? (.str "log_level")).or
          (some (.str "warn"))) ∧
      c.find? (.str "diagnostics_level") =
        (env.get? diagnosticsVariable <|> env.get? oldDiagnosticsVariable).map .str := by
  obtain ⟨loaded, r, t, saved, hload, henv, htoken, hlayers⟩ := assemble_layers_eq h hc
  obtain ⟨hkf, htf⟩ := loadFiles_typed hload
  obtain ⟨hkt, hvars, hlog, hdiag⟩ := environmentSettings_eq_ok henv
  have hfind := (assemble_keyed h hc).find?_str
  have hvar := fun x (hx : x ∈ variableSettings) => assemble_find?_variable h hc hx
  rw [hlayers] at hfind hvar ⊢
  -- The host whose token is read is the configuration's `cloud_host`.
  have hhost : c.getText "cloud_host" = tokenHost (baseBuilder inst (ws.getD cwd) loaded.options t) := by
    have hpeek : (baseBuilder inst (ws.getD cwd) loaded.options t).peek? (.str "cloud_host") =
        c.find? (.str "cloud_host") := by
      rw [Builder.peek?_eq, hfind, baseBuilder_layers _ _ hkf hkt, resolved_find? _ _ (by decide)]
      rfl
    have hdef : (defaultSettings inst (ws.getD cwd)).find? (.str "cloud_host") =
        some (.str defaultCloudHost) := by
      simp [defaultSettings, Table.ofTexts, Table.empty]
    -- The value is a text: the environment's, a file's (typed), or the default.
    have hval : ∃ v, c.find? (.str "cloud_host") = some v ∧ v ≠ .null := by
      rw [hfind, resolved_find? _ _ (by decide), hdef]
      have hcloud := hvars ("CHECKPIPE_CLOUD_HOST", "cloud_host", .text) (by decide)
      cases henvhost : env.get? "CHECKPIPE_CLOUD_HOST" with
      | some raw =>
        simp only [henvhost] at hcloud
        obtain ⟨v, hv, hfv⟩ := hcloud
        cases hv
        exact ⟨.str raw, by simp [hfv], by simp⟩
      | none =>
        simp only [henvhost] at hcloud
        rw [hcloud]
        cases hfile : loaded.options.find? (.str "cloud_host") with
        | some v => exact ⟨v, by simp, fun hn => htf.find?_ne_null "cloud_host" (hn ▸ hfile)⟩
        | none => exact ⟨.str defaultCloudHost, by simp, by simp⟩
    obtain ⟨v, hv, hnull⟩ := hval
    rw [tokenHost, hpeek, hv, getText_of_find? hv hnull]
    rfl
  refine ⟨rfl, by rw [hload]; rfl, by rw [henv], ⟨saved, hhost ▸ htoken, rfl⟩, hfind, hvar, ?_, ?_⟩
  · have hdef : (defaultSettings inst (ws.getD cwd)).find? (.str "log_level") = some (.str "warn") := by
      simp [defaultSettings, Table.ofTexts, Table.empty, LogLevel.standard, LogLevel.name]
    rw [hfind, resolved_find? _ _ (by decide), hlog, hdef]
    simp
  · -- No file and no default sets a diagnostics level.
    have hfile : loaded.options.find? (.str "diagnostics_level") = none := by
      cases hf : loaded.options.find? (.str "diagnostics_level") with
      | none => rfl
      | some v =>
        obtain ⟨sub, hsub, -⟩ := htf _ _ hf
        simp [generalFields] at hsub
    have hdef : (defaultSettings inst (ws.getD cwd)).find? (.str "diagnostics_level") = none := by
      simp [defaultSettings, Table.ofTexts, Table.empty]
    rw [hfind, resolved_find? _ _ (by decide), hdiag, hfile, hdef]
    simp

/-- An assembly in a fresh tree with a token and a memory limit in the environment. -/
theorem assemble_layers_sample :
    assemble (Files.Tree.atDir "/w") ⟨"/inst"⟩ none "/w" sampleEnv sampleCommand =
        .ok sampleAssembled ∧ sampleAssembled.config = some sampleConfig ∧
      (sampleConfig.layers.defaults = defaultSettings ⟨"/inst"⟩ ((none : Option String).getD "/w") ∧
      (loadFiles sampleAssembled.tree ⟨"/inst"⟩ none).map (·.1.options) =
        .ok sampleConfig.layers.file ∧
      environmentSettings sampleEnv = .ok sampleConfig.layers.environment ∧
      (∃ saved, loadToken sampleAssembled.tree ⟨"/inst"⟩ (sampleConfig.getText "cloud_host") =
          .ok saved ∧
        sampleConfig.layers.resolved =
          ⟨tokenEntries (cloudToken sampleEnv saved) ++ sampleCommand.settings.entries⟩) ∧
      (∀ key, sampleConfig.find? (.str key) =
        (sampleConfig.layers.resolved.find? (.str key)).or
          ((sampleConfig.layers.environment.find? (.str key)).or
            ((sampleConfig.layers.file.find? (.str key)).or
              (sampleConfig.layers.defaults.find? (.str key))))) ∧
      (∀ x ∈ variableSettings, match sampleEnv.get? x.1 with
        | some raw => ∃ v, x.2.2.read raw = .ok v ∧ sampleConfig.find? (.str x.2.1) = some v
        | none => sampleConfig.find? (.str x.2.1) =
            (sampleConfig.layers.file.find? (.str x.2.1)).or
              (sampleConfig.layers.defaults.find? (.str x.2.1))) ∧
      sampleConfig.find? (.str "log_level") =
        (sampleEnv.logLevel?.map .str).or ((sampleConfig.layers.file.find? (.str "log_level")).or
          (some (.str "warn"))) ∧
      sampleConfig.find? (.str "diagnostics_level") =
        (sampleEnv.get? diagnosticsVariable <|> sampleEnv.get? oldDiagnosticsVariable).map .str) :=
  ⟨assemble_sample, sampleAssembled_config, assemble_layers assemble_sample sampleAssembled_config⟩

end Preflight.Config
