import Preflight.Proofs.Config.Layering
import Preflight.Proofs.Startup.Run

/-!
# The directories a configuration reports

A run finds its installation directory and its workspace before it assembles the
configuration: a flag that is given and not empty wins, else a variable that is set and not
empty, else a default. The configuration reports both directories as settings too, but
reads them its own way: the defaults are the directories found, and a variable overrides
them whenever it is present, even empty, and whatever the flags say. No configuration file
sets either.

So the configuration reports the variable's text when the variable is present, and the
directory actually used otherwise (`prepare_reports_directories`). The two part ways when a
flag overrides a variable, or when a variable is present but empty
(`prepare_reports_variable_over_flag`).
-/

set_option autoImplicit false

namespace Preflight

namespace Config

section Assembled

variable {fs : Files.Tree} {inst : Install} {ws : Option String} {cwd : String}
  {env : Environ} {cmd : Command} {a : Assembled} {c : Config}

/-- A setting that only a variable and the defaults give, as text: the variable's text when
it is present, else the default. -/
theorem assemble_getText_variable (h : assemble fs inst ws cwd env cmd = .ok a)
    (hc : a.config = some c) {name key : String} (hx : (name, key, Reading.text) ∈ variableSettings)
    (hfile : key ∉ generalFields.map (·.1)) {d : String}
    (hd : (defaultSettings inst (ws.getD cwd)).find? (.str key) = some (.str d)) :
    c.getText key = (env.get? name).getD d := by
  have hvar := assemble_find?_variable h hc hx
  cases hname : env.get? name with
  | some raw =>
    simp only [hname] at hvar
    obtain ⟨v, hv, hfind⟩ := hvar
    cases hv
    exact getText_of_find? hfind (by simp) ""
  | none =>
    simp only [hname] at hvar
    obtain ⟨loaded, r, t, saved, hload, -, -, hlayers⟩ := assemble_layers_eq h hc
    -- The files give only the settings of their schema, which has no such key.
    have hnofile : c.layers.file.find? (.str key) = none := by
      cases hf : c.layers.file.find? (.str key) with
      | none => rfl
      | some v =>
        have htyped : c.layers.file.Typed := by
          rw [hlayers]
          exact (loadFiles_typed hload).2
        obtain ⟨sub, hsub, -⟩ := htyped key v hf
        exact absurd (List.mem_map_of_mem (f := (·.1)) hsub) hfile
    have hdefaults : c.layers.defaults = defaultSettings inst (ws.getD cwd) := by rw [hlayers]
    rw [hnofile, Option.none_or, hdefaults, hd] at hvar
    exact getText_of_find? hvar (by simp) ""

end Assembled

end Config

namespace Startup

open Config (Command)

/-- A preparation that gives a configuration reports, as its installation directory and
workspace, the texts of `CHECKPIPE_INSTALL_DIR` and `CHECKPIPE_MOD_LOCATION` when they are
present, even empty, and otherwise the directories it found and used. -/
theorem prepare_reports_directories {m : Machine} {dir ws : Option String} {cmd : Command}
    {s s' : State} {p : Prepared} {c : Config} (h : (prepare m dir ws cmd).exec s = (.ok p, s'))
    (hc : p.config = some c) :
    ∃ inst w, resolveInstall m.homes s.env dir = .ok inst ∧ workspace m s.env ws = .ok w ∧
      p.install = some inst ∧
      c.getText "install_dir" = (s.env.get? installDirVariable).getD inst.dir ∧
      c.getText "mod_location" = (s.env.get? modLocationVariable).getD w := by
  obtain ⟨inst, w, fs, a, hinst, hw, ha, hac, hpi, -, -⟩ := prepare_eq_ok h hc
  refine ⟨inst, w, hinst, hw, hpi, ?_, ?_⟩
  · exact Config.assemble_getText_variable ha hac (by decide) (by decide)
      (by simp [Config.defaultSettings, Config.Table.ofTexts, Config.Table.empty])
  · exact Config.assemble_getText_variable ha hac (by decide) (by decide)
      (by simp [Config.defaultSettings, Config.Table.ofTexts, Config.Table.empty])

/-- A preparation of `version` given the installation directory `/w/install` by its flag,
while `CHECKPIPE_INSTALL_DIR` names `other`. -/
def flagRun : Except Halt Prepared × State :=
  (prepare sampleMachine (some "/w/install") (some "/w/workspace") ⟨"version", [], false⟩).exec
    { log := { tree := Files.Tree.atDir "/w" },
      env := ⟨[("CHECKPIPE_INSTALL_DIR", "other"), ("CHECKPIPE_UPDATE_CHECK", "false")]⟩ }

/-- What the preparation gives the command. -/
def flagPrepared : Prepared := flagRun.1.toOption.getD { command := ⟨"version", [], false⟩ }

/-- The configuration of the preparation. -/
def flagConfig : Config := flagPrepared.config.getD {}

theorem prepare_reports_directories_sample :
    flagRun = (.ok flagPrepared, flagRun.2) ∧ flagPrepared.config = some flagConfig ∧
      ∃ inst w, resolveInstall sampleMachine.homes ⟨[("CHECKPIPE_INSTALL_DIR", "other"),
          ("CHECKPIPE_UPDATE_CHECK", "false")]⟩ (some "/w/install") = .ok inst ∧
        workspace sampleMachine ⟨[("CHECKPIPE_INSTALL_DIR", "other"),
          ("CHECKPIPE_UPDATE_CHECK", "false")]⟩ (some "/w/workspace") = .ok w ∧
        flagPrepared.install = some inst ∧
        flagConfig.getText "install_dir" = (some "other").getD inst.dir ∧
        flagConfig.getText "mod_location" = none.getD w := by
  have hrun : flagRun = (.ok flagPrepared, flagRun.2) :=
    Prod.ext (Config.eq_ok_of_isOk _ (by decide +kernel)) rfl
  have hcfg : flagPrepared.config = some flagConfig := Config.eq_some_of_isSome _ (by decide +kernel)
  exact ⟨hrun, hcfg, prepare_reports_directories hrun hcfg⟩

/-- The preparation uses the installation directory of the flag, while its configuration
reports the variable's `other`. -/
theorem prepare_reports_variable_over_flag :
    (flagRun.1.toOption.bind Prepared.install).map Install.dir = some "/w/install" ∧
      (flagRun.1.toOption.bind Prepared.config).map (·.getText "install_dir") = some "other" := by
  decide +kernel

end Startup

end Preflight
