import Preflight.Startup
import Preflight.Proofs.Log.Level

/-!
# Running the preparation

A step of a run (`StartM`) maps the state of the run to an outcome and the state it leaves;
`StartM.exec` names that map. A run that gets past a step went through it
(`StartM.exec_bind_eq_ok`), so a whole preparation is taken apart one step at a time.

Once the configuration is assembled, most steps of the preparation touch neither the
environment nor the level of the program's logger: logging the warnings, starting
housekeeping and capping the address space all keep them (`KeepsLevel`). Two steps change
them: handing a log level of the configuration files to the environment, and setting the
log up again on its file. So a preparation that gives a configuration leaves the
environment as the hand-over made it, and the program's logger at the level that environment
asks for (`prepare_eq_ok`).
-/

set_option autoImplicit false

namespace Preflight.Startup

open Config (Command)

variable {α β : Type}

/-- Runs a step of the preparation from a state: its outcome and the state it leaves. -/
def StartM.exec (x : StartM α) (s : State) : Except Halt α × State := x.run.run s

namespace StartM

theorem exec_bind (x : StartM α) (f : α → StartM β) (s : State) :
    (x >>= f).exec s = match x.exec s with
      | (.ok a, s₁) => (f a).exec s₁
      | (.error e, s₁) => (.error e, s₁) := by
  simp only [exec, ExceptT.run_bind, StateT.run_bind]
  generalize (ExceptT.run x).run s = r
  rcases r with ⟨_ | a, s₁⟩ <;> rfl

theorem exec_bind_eq_ok {x : StartM α} {f : α → StartM β} {s s' : State} {b : β} :
    (x >>= f).exec s = (.ok b, s') ↔ ∃ a s₁, x.exec s = (.ok a, s₁) ∧ (f a).exec s₁ = (.ok b, s') := by
  rw [exec_bind]
  rcases x.exec s with ⟨_ | a, s₁⟩
  · simp
  · exact ⟨fun h => ⟨a, s₁, rfl, h⟩, fun ⟨_, _, he, h⟩ => by cases he; exact h⟩

theorem exec_map_eq_ok {x : StartM α} {f : α → β} {s s' : State} {b : β} :
    (f <$> x).exec s = (.ok b, s') ↔ ∃ a, x.exec s = (.ok a, s') ∧ f a = b := by
  rw [map_eq_pure_bind, exec_bind_eq_ok]
  constructor
  · rintro ⟨a, s₁, hx, hp⟩
    cases hp
    exact ⟨a, hx, rfl⟩
  · rintro ⟨a, hx, rfl⟩
    exact ⟨a, s', hx, rfl⟩

@[simp] theorem exec_pure (a : α) (s : State) : (pure a : StartM α).exec s = (.ok a, s) := rfl

@[simp] theorem exec_throw (h : Halt) (s : State) : (throw h : StartM α).exec s = (.error h, s) := rfl

@[simp] theorem exec_get (s : State) : (get : StartM State).exec s = (.ok s, s) := rfl

@[simp] theorem exec_set (s s₁ : State) : (set s₁ : StartM PUnit).exec s = (.ok ⟨⟩, s₁) := rfl

@[simp] theorem exec_modify (f : State → State) (s : State) :
    (modify f : StartM PUnit).exec s = (.ok ⟨⟩, f s) := rfl

/-! Running a step and then the rest, for the steps that always end well or always fail. -/

@[simp] theorem exec_get_bind (f : State → StartM β) (s : State) :
    (get >>= f).exec s = (f s).exec s := rfl

@[simp] theorem exec_set_bind (s₁ : State) (f : PUnit → StartM β) (s : State) :
    (set s₁ >>= f).exec s = (f ⟨⟩).exec s₁ := rfl

@[simp] theorem exec_modify_bind (g : State → State) (f : PUnit → StartM β) (s : State) :
    (modify g >>= f).exec s = (f ⟨⟩).exec (g s) := rfl

@[simp] theorem exec_pure_bind (a : α) (f : α → StartM β) (s : State) :
    (pure a >>= f).exec s = (f a).exec s := rfl

@[simp] theorem exec_throw_bind (h : Halt) (f : α → StartM β) (s : State) :
    (throw h >>= f).exec s = (.error h, s) := rfl

end StartM

open StartM

theorem exec_orFail_eq_ok {r : Except Failure α} {s s' : State} {a : α} :
    (orFail r).exec s = (.ok a, s') ↔ r = .ok a ∧ s' = s := by
  cases r <;> simp [orFail, fail, eq_comm]

theorem exec_orFail_bind_eq_ok {r : Except Failure α} {f : α → StartM β} {s s' : State} {b : β} :
    (orFail r >>= f).exec s = (.ok b, s') ↔ ∃ a, r = .ok a ∧ (f a).exec s = (.ok b, s') := by
  cases r <;> simp [orFail, fail]

theorem exec_setUpLog (m : Machine) (s : State) :
    (setUpLog m).exec s =
      (.ok ⟨⟩, { s with log := (s.log.configure m.clock s.env.resolvedLevel.name m.execution).1 }) :=
  rfl

theorem exec_setUpLog_bind (m : Machine) (f : PUnit → StartM β) (s : State) :
    (setUpLog m >>= f).exec s =
      (f ⟨⟩).exec { s with log := (s.log.configure m.clock s.env.resolvedLevel.name m.execution).1 } :=
  rfl

/-! ## Steps that keep the level -/

/-- A step that, whenever it ends well, leaves the environment and the level of the program's
logger as they were. -/
def KeepsLevel (x : StartM α) : Prop :=
  ∀ ⦃s a s'⦄, x.exec s = (.ok a, s') → s'.env = s.env ∧ s'.log.level = s.log.level

namespace KeepsLevel

theorem pure (a : α) : KeepsLevel (pure a : StartM α) := by
  intro s b s' h
  cases h
  exact ⟨rfl, rfl⟩

theorem bind {x : StartM α} {f : α → StartM β} (hx : KeepsLevel x) (hf : ∀ a, KeepsLevel (f a)) :
    KeepsLevel (x >>= f) := by
  intro s b s' h
  obtain ⟨a, s₁, h₁, h₂⟩ := exec_bind_eq_ok.1 h
  obtain ⟨he₁, hl₁⟩ := hx h₁
  obtain ⟨he₂, hl₂⟩ := hf a h₂
  exact ⟨he₂.trans he₁, hl₂.trans hl₁⟩

theorem map {x : StartM α} (f : α → β) (hx : KeepsLevel x) : KeepsLevel (f <$> x) := by
  intro s b s' h
  obtain ⟨a, hx', -⟩ := exec_map_eq_ok.1 h
  exact hx hx'

end KeepsLevel

theorem keepsLevel_modify {f : State → State}
    (hf : ∀ s, (f s).env = s.env ∧ (f s).log.level = s.log.level) : KeepsLevel (modify f) := by
  intro s a s' h
  cases h
  exact hf s

theorem keepsLevel_get : KeepsLevel (get : StartM State) := by
  intro s a s' h
  cases h
  exact ⟨rfl, rfl⟩

theorem keepsLevel_orFail (r : Except Failure α) : KeepsLevel (orFail r) := by
  intro s a s' h
  obtain ⟨-, rfl⟩ := exec_orFail_eq_ok.1 h
  exact ⟨rfl, rfl⟩

theorem keepsLevel_log (m : Machine) (logger : String) (severity : Nat) (msg : String) :
    KeepsLevel (log m logger severity msg) :=
  keepsLevel_modify fun _ => ⟨rfl, Log.Logging.emit_level _ _ _ _ _⟩

/-- A loop whose every turn keeps the level keeps it; the induction is on the list. -/
theorem keepsLevel_forIn {xs : List β} {body : β → PUnit → StartM (ForInStep PUnit)}
    (h : ∀ x u, KeepsLevel (body x u)) : ∀ u, KeepsLevel (forIn xs u body) := by
  induction xs with
  | nil => exact fun u => KeepsLevel.pure u
  | cons x rest ih =>
    intro u
    rw [List.forIn_cons]
    refine (h x u).bind fun step => ?_
    cases step with
    | done u' => exact KeepsLevel.pure u'
    | yield u' => exact ih u'

theorem keepsLevel_ite {p : Prop} [Decidable p] {x y : StartM α} (hx : KeepsLevel x)
    (hy : KeepsLevel y) : KeepsLevel (if p then x else y) := by
  split
  · exact hx
  · exact hy

theorem keepsLevel_absorb (r : Tasks.Run Chores) : KeepsLevel (absorb r) :=
  keepsLevel_modify fun _ => ⟨rfl, rfl⟩

theorem keepsLevel_startHousekeeping (m : Machine) (inst : Install) (c : Config) (cmd : Command)
    (warnings : List String) : KeepsLevel (startHousekeeping m inst c cmd warnings) := by
  unfold startHousekeeping
  dsimp only
  refine (keepsLevel_orFail _).bind fun _ => ?_
  refine KeepsLevel.bind (keepsLevel_modify fun _ => ⟨rfl, rfl⟩) fun _ => ?_
  refine keepsLevel_get.bind fun _ => ?_
  exact (keepsLevel_absorb _).bind fun _ => KeepsLevel.pure _

theorem keepsLevel_capMemory (m : Machine) (c : Config) : KeepsLevel (capMemory m c) := by
  unfold capMemory
  dsimp only
  refine (keepsLevel_orFail _).bind fun mb => ?_
  refine KeepsLevel.bind (keepsLevel_modify fun _ => ⟨rfl, rfl⟩) fun _ => ?_
  -- A warning of the outcome, then the limit set: each is one record, no more.
  have hlimit := keepsLevel_ite (p := (Memory.cap (.whole mb) m.hardLimit m.refusal).capped = true)
    (keepsLevel_log m loggerName 20 s!"memory limit set to {mb} MB") (KeepsLevel.pure ⟨⟩)
  split
  · exact (keepsLevel_log _ _ _ _).bind fun _ => hlimit
  · exact hlimit

/-! ## A whole preparation -/

/-- The environment after the preparation hands the log level of the configuration files
over to `CHECKPIPE_LOG_LEVEL`, which it does when no level variable is present. -/
def levelHandedOver (c : Config) (env : Environ) : Environ :=
  if c.needsLevelReset env then env.set levelVariable (c.getText "log_level") else env

/-- A step that may change the state first runs the rest from the state it leaves. -/
theorem exec_ite_modify_eq_ok {p : Prop} [Decidable p] {g : State → State} {x : StartM α}
    {s s' : State} {b : α} (h : (if p then (modify g >>= fun _ => x) else x).exec s = (.ok b, s')) :
    ∃ s₁, s₁ = (if p then g s else s) ∧ x.exec s₁ = (.ok b, s') := by
  refine ⟨_, rfl, ?_⟩
  split at h
  case isTrue hp => simpa [exec_bind, hp] using h
  case isFalse hp => simpa [hp] using h

/-- Setting the log up first, or not, leaves the environment as it was. -/
theorem exec_ite_setUpLog_eq_ok {b : Bool} {m : Machine} {x : StartM α} {s s' : State} {a : α}
    (h : (if b = true then (setUpLog m >>= fun _ => x) else x).exec s = (.ok a, s')) :
    ∃ s₁, s₁.env = s.env ∧ x.exec s₁ = (.ok a, s') := by
  split at h
  · rw [exec_setUpLog_bind] at h
    exact ⟨_, by rfl, h⟩
  · exact ⟨s, rfl, h⟩

/-- A preparation that gives a configuration went through every step: it found the
installation directory and the workspace from the environment it started with, assembled the
configuration there, handed the log level over, and, for any command but the service, set the
log up again at the level the environment then asks for. -/
theorem prepare_eq_ok {m : Machine} {dir ws : Option String} {cmd : Command} {s s' : State}
    {p : Prepared} {c : Config} (h : (prepare m dir ws cmd).exec s = (.ok p, s'))
    (hc : p.config = some c) :
    ∃ inst w fs a, resolveInstall m.homes s.env dir = .ok inst ∧ workspace m s.env ws = .ok w ∧
      Config.assemble fs inst (some w) m.cwd s.env cmd = .ok a ∧ a.config = some c ∧
      p.install = some inst ∧ s'.env = levelHandedOver c s.env ∧
      (Notice.isService cmd.name = false → s'.log.level = s'.env.resolvedLevel.severity) := by
  unfold prepare at h
  by_cases hcomp : (cmd.name == completionCommand) = true
  · rw [if_pos hcomp, exec_pure] at h
    cases h
    cases hc
  rw [if_neg hcomp] at h
  -- The installation, the workspace and the configuration, from the environment as it was.
  obtain ⟨s₁, hs₁, h⟩ := exec_ite_setUpLog_eq_ok h
  rw [exec_get_bind] at h
  obtain ⟨inst, hinst, h⟩ := exec_orFail_bind_eq_ok.1 h
  obtain ⟨w, hw, h⟩ := exec_orFail_bind_eq_ok.1 h
  rw [exec_get_bind] at h
  obtain ⟨a, ha, h⟩ := exec_orFail_bind_eq_ok.1 h
  rw [exec_modify_bind, hs₁] at h
  rw [hs₁] at hinst hw ha
  -- A failed assembly ends the preparation.
  rcases hf : Notice.failure? a.report with _ | ⟨text, status⟩
  case some =>
    simp only [hf, exec_modify_bind, exec_throw_bind] at h
    cases h
  rcases hac : a.config with _ | c'
  case none =>
    simp only [hf, hac, exec_throw] at h
    cases h
  simp only [hf, hac] at h
  -- The warnings are logged, then a level of the files may be handed over.
  obtain ⟨_, s₈, h₈, h⟩ := exec_bind_eq_ok.1 h
  have he₈ : s₈.env = s.env :=
    (keepsLevel_forIn (fun _ _ => (keepsLevel_log _ _ _ _).bind fun _ => KeepsLevel.pure _) _ h₈).1
  obtain ⟨s₉, hs₉, h⟩ := exec_ite_modify_eq_ok h
  have he₉ : s₉.env = levelHandedOver c' s.env := by
    by_cases hr : c'.needsLevelReset s.env = true <;> simp [levelHandedOver, hs₉, hr, he₈]
  -- What is left: the log moved to its file unless the command is the service, then the
  -- housekeeping and the memory cap, which keep the environment and the level.
  suffices hend : p.install = some inst ∧ p.config = some c' ∧ s'.env = s₉.env ∧
      (Notice.isService cmd.name = false → s'.log.level = s'.env.resolvedLevel.severity) by
    obtain ⟨hpi, hpc, hend, hlevel⟩ := hend
    rw [hc] at hpc
    cases hpc
    exact ⟨inst, w, _, a, hinst, hw, ha, hac, hpi, hend.trans he₉, hlevel⟩
  cases hsvc : Notice.isService cmd.name with
  | true =>
    simp only [hsvc, Bool.not_true, Bool.false_eq_true, ↓reduceIte, exec_pure_bind] at h
    obtain ⟨_, s₁₀, h₁₀, h⟩ := exec_bind_eq_ok.1 h
    rw [exec_pure] at h
    cases h
    exact ⟨rfl, rfl, (keepsLevel_capMemory m c' h₁₀).1, fun hno => nomatch hno⟩
  | false =>
    simp only [hsvc, Bool.not_false, Bool.false_eq_true, ↓reduceIte, exec_get_bind] at h
    rcases hat : (Log.attach m.clock inst.logDir).run.run s₉.log with ⟨_ | _, l⟩
    case error =>
      simp only [hat, exec_set_bind, fail, exec_throw_bind] at h
      cases h
    simp only [hat, exec_set_bind, exec_setUpLog_bind] at h
    obtain ⟨tasks, s₁₂, h₁₂, h⟩ := exec_bind_eq_ok.1 h
    obtain ⟨_, s₁₃, h₁₃, h⟩ := exec_bind_eq_ok.1 h
    rw [exec_pure] at h
    cases h
    have hk₁₂ := (keepsLevel_startHousekeeping m inst c' cmd a.report.warnings).map some h₁₂
    have hk₁₃ := keepsLevel_capMemory m c' h₁₃
    refine ⟨rfl, rfl, hk₁₃.1.trans hk₁₂.1, fun _ => ?_⟩
    rw [hk₁₃.2, hk₁₂.2, hk₁₃.1, hk₁₂.1]
    show (Log.Logging.configure _ _ _ _).1.level = _
    rw [Log.Logging.configure_level, Log.Logging.levelSeverity_name]

/-- A machine working in `/w`, on the fifteenth of January 2026. -/
def sampleMachine : Machine :=
  { homes := ⟨"/home", []⟩, cwd := "/w",
    clock := ⟨⟨2026, 1, 15⟩, "2026-01-15 12:00:00.000"⟩,
    now := ⟨⟨2026, 1, 15⟩, 12, 0, 0, 0, some 0⟩, execution := "run" }

end Preflight.Startup
