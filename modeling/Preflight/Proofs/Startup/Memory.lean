import Mathlib
import Preflight.Proofs.Startup.Failure

/-!
# Capping the memory of a preparation

The last step of a preparation caps the address space (`capMemory`). It reads the cap, in
megabytes, from the configuration as an integer, and asks the system for new limits when the
cap is positive: the soft limit is the cap in bytes, lowered to the hard limit when one is
set (`Memory.softLimit`), and the hard limit stays. The hard limit that stands for none is
below every real limit, so it is never taken as the smaller. Which limits are asked turns on
the cap and the hard limit only (`Memory.cap_asked`); a refusal of the system only decides
whether the cap holds (`Memory.cap_capped`) and what is logged.

A preparation of any command but completion that ends well reaches the cap with no limits
asked before it (`prepare_caps_last`). No other step reads the refusal, so a preparation on a
machine that refuses ends as one on a machine that does not, and asks for the same limits
(`agreeOnLimits_prepare`). Together they give the limits of a whole preparation
(`prepare_caps_memory`).
-/

set_option autoImplicit false

namespace Preflight

namespace Memory

/-- The soft limit a cap of `mb` megabytes asks for under the hard limit `hard`: the cap in
bytes, lowered to the hard limit when one is set. -/
def softLimit (mb hard : Int) : Int :=
  if hard = unlimited then mb * 2 ^ 20 else min (mb * 2 ^ 20) hard

/-- The soft limit is at most the cap, and at most the hard limit when one is set. -/
theorem softLimit_le (mb hard : Int) :
    softLimit mb hard ≤ mb * 2 ^ 20 ∧ (hard ≠ unlimited → softLimit mb hard ≤ hard) := by
  unfold softLimit
  by_cases hh : hard = unlimited
  · simp [hh]
  · simp only [hh, if_false]
    omega

theorem toBytes_whole (mb : Int) : (Amount.whole mb).toBytes = .whole (mb * 2 ^ 20) := by
  simp [Amount.toBytes, bytesPerMegabyte]

theorem atMost_whole (n hard : Int) : (Amount.whole n).atMost hard = .whole (min n hard) := by
  unfold Amount.atMost Amount.exceeds
  by_cases h : hard < n
  · simp only [h, decide_true, if_true, Amount.whole.injEq]
    omega
  · simp only [h, decide_false, Bool.false_eq_true, if_false, Amount.whole.injEq]
    omega

/-- A cap in bytes is not positive exactly when the cap in megabytes is not. -/
theorem nonPositive_toBytes_whole (mb : Int) :
    (Amount.whole mb).toBytes.nonPositive = decide (mb ≤ 0) := by
  rw [toBytes_whole, Amount.nonPositive, decide_eq_decide]
  omega

/-- A cap of a whole number of megabytes asks for one pair of limits when it is positive and
for none otherwise; whether the system refuses plays no part. -/
@[simp] theorem cap_asked (mb hard : Int) (refusal : Option Refusal) :
    (cap (.whole mb) hard refusal).asked =
      if 0 < mb then [(.whole (softLimit mb hard), hard)] else [] := by
  unfold cap
  dsimp only
  rw [nonPositive_toBytes_whole, toBytes_whole]
  by_cases hmb : 0 < mb
  · have hsoft : (if hard == unlimited then Amount.whole (mb * 2 ^ 20)
        else (Amount.whole (mb * 2 ^ 20)).atMost hard) = .whole (softLimit mb hard) := by
      by_cases hh : hard = unlimited <;> simp [hh, softLimit, atMost_whole]
    rw [if_neg (by simpa using hmb), hsoft, if_pos hmb]
    cases refusal <;> rfl
  · rw [if_pos (by simpa using hmb), if_neg hmb]

/-- A cap holds exactly when it is positive and the system does not refuse it. -/
@[simp] theorem cap_capped (mb hard : Int) (refusal : Option Refusal) :
    (cap (.whole mb) hard refusal).capped = (decide (0 < mb) && refusal.isNone) := by
  unfold cap
  dsimp only
  rw [nonPositive_toBytes_whole]
  by_cases hmb : 0 < mb
  · rw [if_neg (by simpa using hmb)]
    cases refusal <;> simp [hmb]
  · rw [if_pos (by simpa using hmb)]
    simp [hmb]

end Memory

namespace Startup

open Config (Command)
open StartM

variable {α β : Type}

/-- Capping the memory with an integer cap asks for the limits of `Memory.cap` and changes
nothing but the log. -/
theorem exec_capMemory_ok {m : Machine} {c : Config} {mb : Int}
    (h : c.getInt "memory_max_mb" = .ok mb) (s : State) :
    ∃ l : Log.Logging, (capMemory m c).exec s = (.ok ⟨⟩, { s with
      log := l
      limits := s.limits ++ (Memory.cap (.whole mb) m.hardLimit m.refusal).asked }) := by
  unfold capMemory
  simp only [h, Except.mapError, exec_orFail_ok_bind, exec_modify_bind]
  -- the warning and the notice of the cap write to the log and to nothing else
  split <;> split <;> exact ⟨_, rfl⟩

/-- Capping the memory fails, changing nothing, when the cap is not an integer. -/
theorem exec_capMemory_error {m : Machine} {c : Config} {e : Config.ConfigFault}
    (h : c.getInt "memory_max_mb" = .error e) (s : State) :
    (capMemory m c).exec s = (.error (.failure e.toFailure), s) := by
  unfold capMemory
  simp only [h, Except.mapError, orFail, fail, exec_throw_bind]

/-! ## Steps that keep a view of the state -/

/-- A step that, whenever it ends well, leaves a view of the state as it was. -/
def Keeps {σ : Type} (view : State → σ) (x : StartM α) : Prop :=
  ∀ ⦃s a s'⦄, x.exec s = (.ok a, s') → view s' = view s

section Keeps

variable {σ : Type} {view : State → σ}

theorem Keeps.pure (a : α) : Keeps view (pure a : StartM α) := by
  intro s b s' h
  cases h
  rfl

theorem Keeps.bind {x : StartM α} {f : α → StartM β} (hx : Keeps view x)
    (hf : ∀ a, Keeps view (f a)) : Keeps view (x >>= f) := by
  intro s b s' h
  obtain ⟨a, s₁, h₁, h₂⟩ := exec_bind_eq_ok.1 h
  exact (hf a h₂).trans (hx h₁)

theorem Keeps.map {x : StartM α} (f : α → β) (hx : Keeps view x) : Keeps view (f <$> x) := by
  intro s b s' h
  obtain ⟨a, hx', -⟩ := exec_map_eq_ok.1 h
  exact hx hx'

/-- A step that may run first keeps the view up to the rest of the run. -/
theorem Keeps.ite_bind {p : Prop} [Decidable p] {y : StartM PUnit} {x : StartM α} {s s' : State}
    {a : α} (hy : Keeps view y) (h : (if p then (y >>= fun _ => x) else x).exec s = (.ok a, s')) :
    ∃ s₁, view s₁ = view s ∧ x.exec s₁ = (.ok a, s') := by
  split at h
  · obtain ⟨_, s₁, h₁, h⟩ := exec_bind_eq_ok.1 h
    exact ⟨s₁, hy h₁, h⟩
  · exact ⟨s, rfl, h⟩

theorem keeps_modify {f : State → State} (hf : ∀ s, view (f s) = view s) : Keeps view (modify f) := by
  intro s a s' h
  cases h
  exact hf s

theorem keeps_get : Keeps view (get : StartM State) := by
  intro s a s' h
  cases h
  rfl

theorem keeps_orFail (r : Except Failure α) : Keeps view (orFail r) := by
  intro s a s' h
  obtain ⟨-, rfl⟩ := exec_orFail_eq_ok.1 h
  rfl

/-- A loop whose every turn keeps the view keeps it; the induction is on the list. -/
theorem keeps_forIn {xs : List β} {body : β → PUnit → StartM (ForInStep PUnit)}
    (h : ∀ x u, Keeps view (body x u)) : ∀ u, Keeps view (forIn xs u body) := by
  induction xs with
  | nil => exact fun u => Keeps.pure u
  | cons x rest ih =>
    intro u
    rw [List.forIn_cons]
    refine (h x u).bind fun step => ?_
    cases step with
    | done u' => exact Keeps.pure u'
    | yield u' => exact ih u'

end Keeps

/-! ## The steps before the cap ask for no limits -/

theorem keeps_limits_log (m : Machine) (logger : String) (severity : Nat) (msg : String) :
    Keeps State.limits (log m logger severity msg) :=
  keeps_modify fun _ => rfl

theorem keeps_limits_setUpLog (m : Machine) : Keeps State.limits (setUpLog m) :=
  keeps_modify fun _ => rfl

theorem keeps_limits_startHousekeeping (m : Machine) (inst : Install) (c : Config)
    (cmd : Command) (warnings : List String) :
    Keeps State.limits (startHousekeeping m inst c cmd warnings) := by
  unfold startHousekeeping
  dsimp only
  refine (keeps_orFail _).bind fun _ => ?_
  refine (keeps_modify fun _ => by rfl).bind fun _ => ?_
  refine keeps_get.bind fun _ => ?_
  exact (keeps_modify fun _ => by rfl).bind fun _ => Keeps.pure _

/-- A preparation of any command but completion that ends well caps the memory last: it
gives the configuration it caps by, and before the cap it asked for no limits. -/
theorem prepare_caps_last {m : Machine} {dir ws : Option String} {cmd : Command} {s s' : State}
    {p : Prepared} (h : (prepare m dir ws cmd).exec s = (.ok p, s'))
    (hcmd : cmd.name ≠ completionCommand) :
    ∃ c s₁, p.config = some c ∧ s₁.limits = s.limits ∧ (capMemory m c).exec s₁ = (.ok ⟨⟩, s') := by
  unfold prepare at h
  rw [if_neg (by simpa using hcmd)] at h
  obtain ⟨s₁, hs₁, h⟩ := (keeps_limits_setUpLog m).ite_bind h
  rw [exec_get_bind] at h
  obtain ⟨inst, -, h⟩ := exec_orFail_bind_eq_ok.1 h
  obtain ⟨_, -, h⟩ := exec_orFail_bind_eq_ok.1 h
  rw [exec_get_bind] at h
  obtain ⟨a, -, h⟩ := exec_orFail_bind_eq_ok.1 h
  rw [exec_modify_bind] at h
  -- A failed assembly ends the preparation.
  rcases hf : Notice.failure? a.report with _ | ⟨text, status⟩
  case some =>
    simp only [hf, exec_modify_bind, exec_throw_bind] at h
    cases h
  rcases hac : a.config with _ | c
  case none =>
    simp only [hf, hac, exec_throw] at h
    cases h
  simp only [hf, hac] at h
  -- The warnings, the level handed over and the log moved to its file ask for no limits.
  obtain ⟨_, s₈, h₈, h⟩ := exec_bind_eq_ok.1 h
  have hs₈ := (keeps_forIn (fun _ _ => (keeps_limits_log _ _ _ _).bind fun _ => Keeps.pure _) _ :
    Keeps State.limits _) h₈
  obtain ⟨s₉, hs₉, h⟩ := (keeps_modify fun _ => by rfl : Keeps State.limits _).ite_bind h
  cases hsvc : Notice.isService cmd.name with
  | true =>
    simp only [hsvc, Bool.not_true, Bool.false_eq_true, ↓reduceIte, exec_pure_bind] at h
    obtain ⟨_, s₁₀, h₁₀, h⟩ := exec_bind_eq_ok.1 h
    rw [exec_pure] at h
    cases h
    exact ⟨c, s₉, rfl, hs₉.trans (hs₈.trans hs₁), h₁₀⟩
  | false =>
    simp only [hsvc, Bool.not_false, Bool.false_eq_true, ↓reduceIte, exec_get_bind] at h
    rcases hat : (Log.attach m.clock inst.logDir).run.run s₉.log with ⟨_ | _, l⟩
    case error =>
      simp only [hat, exec_set_bind, fail, exec_throw_bind] at h
      cases h
    simp only [hat, exec_set_bind, exec_setUpLog_bind] at h
    obtain ⟨tasks, s₁₂, h₁₂, h⟩ := exec_bind_eq_ok.1 h
    obtain ⟨_, s₁₃, h₁₃, h⟩ := exec_bind_eq_ok.1 h
    rw [exec_pure] at h
    cases h
    have hs₁₂ := ((keeps_limits_startHousekeeping m inst c cmd a.report.warnings).map some) h₁₂
    exact ⟨c, s₁₂, rfl, hs₁₂.trans (hs₉.trans (hs₈.trans hs₁)), h₁₃⟩

/-! ## The refusal of the system plays no part in the run -/

/-- Two steps agree on the limits: from every state they end the same way and leave the same
limits asked of the system. -/
def AgreeOnLimits (x y : StartM α) : Prop :=
  ∀ s, (x.exec s).1 = (y.exec s).1 ∧ (x.exec s).2.limits = (y.exec s).2.limits

theorem AgreeOnLimits.refl (x : StartM α) : AgreeOnLimits x x := fun _ => ⟨rfl, rfl⟩

/-- The same step, then steps that agree. -/
theorem AgreeOnLimits.bind {x : StartM α} {f g : α → StartM β} (h : ∀ a, AgreeOnLimits (f a) (g a)) :
    AgreeOnLimits (x >>= f) (x >>= g) := by
  intro s
  rw [exec_bind, exec_bind]
  rcases x.exec s with ⟨_ | a, s₁⟩
  · exact ⟨rfl, rfl⟩
  · exact h a s₁

/-- Steps that agree, then a result that reads nothing of the state. -/
theorem AgreeOnLimits.bind_pure {x y : StartM α} (f : α → β) (h : AgreeOnLimits x y) :
    AgreeOnLimits (x >>= fun a => pure (f a)) (y >>= fun a => pure (f a)) := by
  intro s
  rw [exec_bind, exec_bind]
  obtain ⟨hr, hl⟩ := h s
  rcases hx : x.exec s with ⟨_ | a, s₁⟩ <;> rcases hy : y.exec s with ⟨_ | b, s₂⟩ <;>
    simp_all

theorem AgreeOnLimits.ite {p : Prop} [Decidable p] {x y x' y' : StartM α} (hx : AgreeOnLimits x x')
    (hy : AgreeOnLimits y y') : AgreeOnLimits (if p then x else y) (if p then x' else y') := by
  split
  · exact hx
  · exact hy

section Refusal

variable (m : Machine) (r : Option Memory.Refusal)

/-- Only the cap reads the refusal of the machine. -/
theorem setUpLog_refusal : setUpLog { m with refusal := r } = setUpLog m := rfl

theorem log_refusal : log { m with refusal := r } = log m := rfl

theorem workspace_refusal : workspace { m with refusal := r } = workspace m := rfl

theorem startHousekeeping_refusal :
    startHousekeeping { m with refusal := r } = startHousekeeping m := rfl

/-- The cap ends the same way and asks for the same limits whether or not the system refuses
it: only the log differs. -/
theorem agreeOnLimits_capMemory (c : Config) :
    AgreeOnLimits (capMemory { m with refusal := r } c) (capMemory m c) := by
  intro s
  cases h : c.getInt "memory_max_mb" with
  | error e =>
    rw [exec_capMemory_error h, exec_capMemory_error h]
    exact ⟨rfl, rfl⟩
  | ok mb =>
    obtain ⟨l, hl⟩ := exec_capMemory_ok (m := { m with refusal := r }) h s
    obtain ⟨l', hl'⟩ := exec_capMemory_ok (m := m) h s
    rw [hl, hl']
    exact ⟨rfl, by simp⟩

/-- A preparation ends the same way and asks for the same limits whether or not the system
refuses the cap. -/
theorem agreeOnLimits_prepare (dir ws : Option String) (cmd : Command) :
    AgreeOnLimits (prepare { m with refusal := r } dir ws cmd) (prepare m dir ws cmd) := by
  unfold prepare
  simp only [setUpLog_refusal, log_refusal, workspace_refusal, startHousekeeping_refusal]
  -- Every step but the cap is now the same on both sides: descend through the binds, the
  -- conditions and the matches until the cap, or a step that is the same, is reached.
  repeat' (first
    | with_reducible exact AgreeOnLimits.bind_pure _ (agreeOnLimits_capMemory m r _)
    | with_reducible refine AgreeOnLimits.bind fun _ => ?_
    | with_reducible refine AgreeOnLimits.ite ?_ ?_
    | split
    | with_reducible exact AgreeOnLimits.refl _)

end Refusal

/-! ## Capping the memory of a preparation -/

/-- A preparation that ends well asks the system for limits at most once, last, and only when
its configuration caps the memory at a positive number of megabytes. Completion asks for
none. Any other command reads the cap as an integer from its configuration, whichever layer
or name gave it; a positive cap asks for a soft limit of that many megabytes, lowered to the
hard limit when one is set, with the hard limit kept. The soft limit is then at most the cap
and at most a set hard limit. The cap holds unless the system refuses it, and a refusal
changes neither the end of the preparation nor the limits asked. -/
theorem prepare_caps_memory {m : Machine} {dir ws : Option String} {cmd : Command} {s s' : State}
    {p : Prepared} (h : (prepare m dir ws cmd).exec s = (.ok p, s')) :
    (cmd.name = completionCommand → s' = s) ∧
    (cmd.name ≠ completionCommand → ∃ c mb, p.config = some c ∧
      c.getInt "memory_max_mb" = .ok mb ∧
      s'.limits = s.limits ++
        (if 0 < mb then [(.whole (Memory.softLimit mb m.hardLimit), m.hardLimit)] else []) ∧
      (Memory.softLimit mb m.hardLimit ≤ mb * 2 ^ 20 ∧
        (m.hardLimit ≠ Memory.unlimited → Memory.softLimit mb m.hardLimit ≤ m.hardLimit)) ∧
      (Memory.cap (.whole mb) m.hardLimit m.refusal).capped = (decide (0 < mb) && m.refusal.isNone) ∧
      ∀ r, ∃ s'', (prepare { m with refusal := r } dir ws cmd).exec s = (.ok p, s'') ∧
        s''.limits = s'.limits) := by
  constructor
  · intro hcmd
    unfold prepare at h
    rw [if_pos (by simp [hcmd]), exec_pure] at h
    cases h
    rfl
  · intro hcmd
    obtain ⟨c, s₁, hc, hs₁, hcap⟩ := prepare_caps_last h hcmd
    cases hmb : c.getInt "memory_max_mb" with
    | error e =>
      rw [exec_capMemory_error hmb] at hcap
      cases hcap
    | ok mb =>
      obtain ⟨l, hl⟩ := exec_capMemory_ok hmb s₁
      rw [hl] at hcap
      cases hcap
      refine ⟨c, mb, hc, hmb, by simp [hs₁], Memory.softLimit_le mb m.hardLimit,
        Memory.cap_capped _ _ _, fun r => ?_⟩
      -- The refused preparation agrees with this one.
      obtain ⟨hr, hlim⟩ := agreeOnLimits_prepare m r dir ws cmd s
      rw [h] at hr hlim
      exact ⟨((prepare { m with refusal := r } dir ws cmd).exec s).2, Prod.ext hr rfl, hlim⟩

/-- A configuration file that caps the memory at 2048 megabytes, under the cap's deprecated
name. -/
def memoryCapText : String := "options:\n  general:\n    max_memory_mb: 2048\n"

/-- A tree whose installation `/inst` holds `memoryCapText` as its one configuration file. -/
def memoryCapTree : Files.Tree :=
  (Files.Tree.atDir "/w").plant "/inst/config/a.yaml"
    (.file (memoryCapText.toList.map (fun ch => ch.toNat.toUInt8)))

/-- A machine whose address space has a hard limit of one gigabyte, and that refuses new
limits. -/
def refusingMachine : Machine :=
  { sampleMachine with hardLimit := 2 ^ 30, refusal := some .notPermitted }

/-- A preparation of `check` in `/inst` on `refusingMachine`, with no variable in the
environment. -/
def memoryCapRun : Except Halt Prepared × State :=
  (prepare refusingMachine (some "/inst") none ⟨"check", [], false⟩).exec
    { log := { tree := memoryCapTree }, env := {} }

/-- What the preparation gives the command. -/
def memoryCapPrepared : Prepared := memoryCapRun.1.toOption.getD { command := ⟨"check", [], false⟩ }

theorem prepare_caps_memory_sample :
    memoryCapRun = (.ok memoryCapPrepared, memoryCapRun.2) ∧
    (("check" : String) = completionCommand → memoryCapRun.2 = { log := { tree := memoryCapTree }, env := {} }) ∧
    (("check" : String) ≠ completionCommand → ∃ c mb, memoryCapPrepared.config = some c ∧
      c.getInt "memory_max_mb" = .ok mb ∧
      memoryCapRun.2.limits = [] ++
        (if 0 < mb then [(.whole (Memory.softLimit mb (2 ^ 30)), 2 ^ 30)] else []) ∧
      (Memory.softLimit mb (2 ^ 30) ≤ mb * 2 ^ 20 ∧
        ((2 ^ 30 : Int) ≠ Memory.unlimited → Memory.softLimit mb (2 ^ 30) ≤ 2 ^ 30)) ∧
      (Memory.cap (.whole mb) (2 ^ 30) (some .notPermitted)).capped =
        (decide (0 < mb) && (some Memory.Refusal.notPermitted).isNone) ∧
      ∀ r, ∃ s'', (prepare { refusingMachine with refusal := r } (some "/inst") none
          ⟨"check", [], false⟩).exec { log := { tree := memoryCapTree }, env := {} } =
          (.ok memoryCapPrepared, s'') ∧ s''.limits = memoryCapRun.2.limits) := by
  have hrun : memoryCapRun = (.ok memoryCapPrepared, memoryCapRun.2) :=
    Prod.ext (Config.eq_ok_of_isOk _ (by decide +kernel)) rfl
  exact ⟨hrun, prepare_caps_memory hrun⟩

/-- The cap of 2048 megabytes is lowered to the hard limit of one gigabyte. -/
example : memoryCapRun.2.limits.map (fun l => (l.1.wholePart, l.2)) = [(2 ^ 30, 2 ^ 30)] := by
  decide +kernel


end Startup

end Preflight
