import Preflight.Proofs.Config.Layering
import Preflight.Proofs.Config.Reporting
import Preflight.Proofs.Startup.Run

/-!
# The level the log runs at

The log level of a run is settled twice: the configuration takes it from the first non-empty
level variable, else from the configuration files, else `warn`, and checks that its lower
case names a level; the log reads it from the environment alone, stripped and lower-cased.
The preparation bridges the two by handing a level of the files to `CHECKPIPE_LOG_LEVEL`
when no level variable is present at all.

So the two agree, and the program's logger runs at the configuration's level, except when
level variables are present and all of them empty: the configuration then falls back to
the files, while nothing is handed over and the log keeps `warn`.

* `assemble_find?_log_level`: where the configuration's level comes from;
* `assemble_log_level_known`: the checks let through only a level name in lower case;
* `resolvedLevel_levelHandedOver`: after the hand-over, the environment asks for that level;
* `prepare_logs_at_configured_level`: the logger's level after a whole preparation.
-/

set_option autoImplicit false

namespace Preflight

namespace Report

theorem addWarnings_error (r : Report) (ws : List String) : (r.addWarnings ws).error = r.error := by
  induction ws generalizing r with
  | nil => rfl
  | cons w rest ih => rw [addWarnings, List.foldl_cons, ← addWarnings, ih, addWarning_error]

/-- Merging into a report without an error takes the other report's error. -/
theorem merge_error {r : Report} (hr : r.failed = false) (o : Report) :
    (r.merge (some o)).error = o.error := by
  have hnone : r.error = none := by simpa [failed] using hr
  simp [merge, hnone, addWarnings_error]

end Report

namespace Config

theorem Table.has_eq_isSome (t : Table) (k : Value) : t.has k = (t.find? k).isSome := by
  simp only [Table.has, Table.find?, Entries.contains, Entries.get?, Option.isSome_map]
  exact List.isSome_find?.symm

section Assembled

variable {fs : Files.Tree} {inst : Install} {ws : Option String} {cwd : String}
  {env : Environ} {cmd : Command} {a : Assembled} {c : Config}

/-- The configuration's log level: the first non-empty level variable's, else the files',
else `warn`. -/
theorem assemble_find?_log_level (h : assemble fs inst ws cwd env cmd = .ok a)
    (hc : a.config = some c) :
    c.find? (.str "log_level") =
      (env.logLevel?.map .str).or ((c.layers.file.find? (.str "log_level")).or
        (some (.str "warn"))) := by
  obtain ⟨loaded, r, t, saved, -, henv, -, hlayers⟩ := assemble_layers_eq h hc
  have hfind := (assemble_keyed h hc).find?_str "log_level"
  have hdef : (defaultSettings inst (ws.getD cwd)).find? (.str "log_level") = some (.str "warn") := by
    simp [defaultSettings, Table.ofTexts, Table.empty, LogLevel.standard, LogLevel.name]
  rw [hlayers] at hfind ⊢
  rw [hfind, resolved_find? _ _ (by decide), (environmentSettings_eq_ok henv).2.2.1, hdef]
  simp

/-- The configuration's log level is a text, never a null. -/
theorem assemble_log_level_text (h : assemble fs inst ws cwd env cmd = .ok a)
    (hc : a.config = some c) : ∃ v, c.find? (.str "log_level") = some v ∧ v ≠ .null := by
  obtain ⟨loaded, r, t, saved, hload, -, -, hlayers⟩ := assemble_layers_eq h hc
  have htyped : c.layers.file.Typed := by
    rw [hlayers]
    exact (loadFiles_typed hload).2
  rw [assemble_find?_log_level h hc]
  cases env.logLevel? with
  | some l => exact ⟨.str l, rfl, by simp⟩
  | none =>
    cases hfile : c.layers.file.find? (.str "log_level") with
    | some v => exact ⟨v, by simp, fun hn => htyped.find?_ne_null "log_level" (hn ▸ hfile)⟩
    | none => exact ⟨.str "warn", by simp, by simp⟩

/-- The checks let a configuration through only when its log level, in lower case, names a
level. -/
theorem assemble_log_level_known (h : assemble fs inst ws cwd env cmd = .ok a)
    (hc : a.config = some c) : ∃ l, LogLevel.ofName? (Text.lower (c.getText "log_level")) = some l := by
  obtain ⟨v, hv, hnull⟩ := assemble_log_level_text h hc
  have hfind := (assemble_keyed h hc).find?_str "log_level"
  obtain ⟨loaded, r, t, b, -, -, hr, -, -, rfl, hrep, hfailed⟩ := assemble_eq_config h hc
  -- The report's error is that of the checks, since the files left none.
  have hcheck : levelCheck (b.put .resolved cmd.settings) = none := by
    have herr := Report.merge_error hr (validate (b.put .resolved cmd.settings) env)
    rw [← hrep, validate_error] at herr
    have hnone : a.report.error = none := by simpa [Report.failed] using hfailed
    rw [hnone] at herr
    cases hl : levelCheck (b.put .resolved cmd.settings) with
    | none => rfl
    | some e => simp [hl] at herr
  -- The checks read the level the configuration holds.
  have hpeek : (b.put .resolved cmd.settings).peek? (.str "log_level") = some v := by
    rw [Builder.peek?_eq, ← hv, hfind]
    rfl
  unfold levelCheck at hcheck
  rw [hpeek] at hcheck
  cases hknown : LogLevel.ofName? (Text.lower v.text) with
  | none => simp [hknown] at hcheck
  | some l => exact ⟨l, by rw [getText_of_find? hv hnull, hknown]⟩

end Assembled

end Config

namespace Startup

open Config (Command Assembled)

/-- After the hand-over, the environment asks the log for the configuration's level, unless
level variables are present and all of them empty. -/
theorem resolvedLevel_levelHandedOver {fs : Files.Tree} {inst : Install} {ws : Option String}
    {cwd : String} {env : Environ} {cmd : Command} {a : Assembled} {c : Config}
    (h : Config.assemble fs inst ws cwd env cmd = .ok a) (hc : a.config = some c)
    (henv : env.logLevelSet = true → env.logLevel?.isSome = true) {l : LogLevel}
    (hl : LogLevel.ofName? (Text.lower (c.getText "log_level")) = some l) :
    (levelHandedOver c env).resolvedLevel = l := by
  obtain ⟨v, hv, hnull⟩ := Config.assemble_log_level_text h hc
  have hsrc := Config.assemble_find?_log_level h hc
  rw [hv] at hsrc
  rw [Config.getText_of_find? hv hnull] at hl
  cases hlev : env.logLevel? with
  | some raw =>
    -- A level variable asks for the level: nothing is handed over, and it is the configuration's.
    rw [hlev] at hsrc
    cases hsrc
    have hkeep : c.needsLevelReset env = false := by
      simp [Config.needsLevelReset, Environ.logLevelSet_of_logLevel? hlev]
    rw [levelHandedOver, hkeep]
    exact Environ.resolvedLevel_of_logLevel? hlev hl
  | none =>
    -- No level variable is present at all, so the files' level, if any, is handed over.
    have hunset : env.logLevelSet = false := by
      cases hset : env.logLevelSet with
      | false => rfl
      | true => simpa [hlev] using henv hset
    rw [hlev] at hsrc
    cases hfile : c.layers.file.find? (.str "log_level") with
    | some f =>
      rw [hfile] at hsrc
      cases hsrc
      have hhand : c.needsLevelReset env = true := by
        simp [Config.needsLevelReset, hunset, Config.Table.has_eq_isSome, hfile]
      rw [levelHandedOver, if_pos hhand, Config.getText_of_find? hv hnull]
      exact Environ.resolvedLevel_of_logLevel?
        (Environ.logLevel?_set_first env (LogLevel.ne_empty_of_ofName?_lower hl)) hl
    | none =>
      rw [hfile] at hsrc
      cases hsrc
      have hkeep : c.needsLevelReset env = false := by
        simp [Config.needsLevelReset, Config.Table.has_eq_isSome, hfile]
      have hwarn : LogLevel.ofName? (Text.lower "warn") = some .warn := by decide
      rw [levelHandedOver, hkeep, if_neg Bool.false_ne_true, Environ.resolvedLevel_of_logLevel?_none hlev]
      simp only [Value.text, hwarn, Option.some.injEq] at hl
      rw [← hl]
      rfl

/-- A preparation of any command but the service that gives a configuration leaves the
program's logger at the configuration's log level, read in lower case, and the environment
asking for that same level; unless the environment holds level variables that are all
empty. -/
theorem prepare_logs_at_configured_level {m : Machine} {dir ws : Option String} {cmd : Command}
    {s s' : State} {p : Prepared} {c : Config} (h : (prepare m dir ws cmd).exec s = (.ok p, s'))
    (hc : p.config = some c) (hsvc : Notice.isService cmd.name = false)
    (henv : s.env.logLevelSet = true → s.env.logLevel?.isSome = true) :
    ∃ l, LogLevel.ofName? (Text.lower (c.getText "log_level")) = some l ∧
      s'.env.resolvedLevel = l ∧ s'.log.level = l.severity := by
  obtain ⟨inst, w, fs, a, -, -, ha, hac, -, hhand, hlevel⟩ := prepare_eq_ok h hc
  obtain ⟨l, hl⟩ := Config.assemble_log_level_known ha hac
  have hres : s'.env.resolvedLevel = l := by
    rw [hhand]
    exact resolvedLevel_levelHandedOver ha hac henv hl
  exact ⟨l, hl, hres, by rw [hlevel hsvc, hres]⟩

/-- A configuration file that sets the log level, in capitals. -/
def levelFileText : String := "options:\n  general:\n    log_level: DEBUG\n"

/-- A tree whose installation `/inst` holds `levelFileText` as its one configuration file. -/
def levelFileTree : Files.Tree :=
  (Files.Tree.atDir "/w").plant "/inst/config/a.yaml"
    (.file (levelFileText.toList.map (fun ch => ch.toNat.toUInt8)))

/-- A preparation of `check` in `/inst`, with no variable in the environment. -/
def levelRun : Except Halt Prepared × State :=
  (prepare sampleMachine (some "/inst") none ⟨"check", [], false⟩).exec
    { log := { tree := levelFileTree }, env := {} }

/-- What the preparation gives the command. -/
def levelPrepared : Prepared := levelRun.1.toOption.getD { command := ⟨"check", [], false⟩ }

/-- The configuration of the preparation. -/
def levelConfig : Config := levelPrepared.config.getD {}

theorem prepare_logs_at_configured_level_sample :
    levelRun = (.ok levelPrepared, levelRun.2) ∧ levelPrepared.config = some levelConfig ∧
      Notice.isService "check" = false ∧
      ((({} : Environ).logLevelSet = true → ({} : Environ).logLevel?.isSome = true) ∧
      ∃ l, LogLevel.ofName? (Text.lower (levelConfig.getText "log_level")) = some l ∧
        levelRun.2.env.resolvedLevel = l ∧ levelRun.2.log.level = l.severity) := by
  have hrun : levelRun = (.ok levelPrepared, levelRun.2) :=
    Prod.ext (Config.eq_ok_of_isOk _ (by decide +kernel)) rfl
  have hcfg : levelPrepared.config = some levelConfig := Config.eq_some_of_isSome _ (by decide +kernel)
  have henv : ({} : Environ).logLevelSet = true → ({} : Environ).logLevel?.isSome = true := by decide
  exact ⟨hrun, hcfg, by decide, henv, prepare_logs_at_configured_level hrun hcfg (by decide) henv⟩

/-- The level of the file went to the environment as written, and the logger is at `debug`. -/
example : levelRun.2.env.get? "CHECKPIPE_LOG_LEVEL" = some "DEBUG" ∧ levelRun.2.log.level = 10 := by
  decide +kernel

end Startup

end Preflight
