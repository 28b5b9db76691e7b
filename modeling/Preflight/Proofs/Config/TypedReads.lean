import Preflight.Proofs.Config.Layering
import Preflight.Proofs.Config.Reporting

/-!
# Reading the limits of an assembled configuration

A run reads two settings of its configuration with a kind: whether to check for updates, as
a truth value, and the memory limit, as an integer. The first read always succeeds: every
layer that can set `update_check` holds a truth value there. The second fails exactly when
no memory variable is in the environment and the configuration files give the limit as a
float: the files' schema takes an integral float such as `1.0` for an integer, while the
integer read takes only integers and texts.
-/

set_option autoImplicit false

namespace Preflight.Config

/-! ## Kinds of values -/

theorem ValueKind.holds_integer {v : Value} (h : ValueKind.integer.holds v = true) :
    (∃ n, v = .int n) ∨ ∃ x, v = .float x := by
  cases v <;> simp_all [ValueKind.holds]

theorem ValueKind.holds_boolean {v : Value} (h : ValueKind.boolean.holds v = true) :
    ∃ b, v = .bool b := by
  cases v <;> simp_all [ValueKind.holds]

theorem generalFields_unique {name : String} {sub sub' : Schema} (h : (name, sub) ∈ generalFields)
    (h' : (name, sub') ∈ generalFields) : sub = sub' := by
  have hnd : (generalFields.map Prod.fst).Nodup := by decide
  exact (Prod.mk.inj (List.inj_on_of_nodup_map hnd h h' rfl)).2

/-- A setting of a typed table has the kind the schema gives its name. -/
theorem Table.Typed.holds_of_find? {t : Table} (ht : t.Typed) {name : String} {k : ValueKind}
    (hk : (name, Schema.ofKind k) ∈ generalFields) {v : Value}
    (h : t.find? (.str name) = some v) : k.holds v = true := by
  obtain ⟨sub, hsub, hany⟩ := ht name v h
  rw [generalFields_unique hsub hk] at hany
  simpa [Schema.ofKind, Schema.kinds] using hany

theorem Reading.read_truth {raw : String} {v : Value} (h : Reading.truth.read raw = .ok v) :
    ∃ b, v = .bool b := by
  cases hb : coerceBool (.str raw) with
  | error f => simp [Reading.read, hb, Except.map] at h
  | ok b =>
    simp only [Reading.read, hb, Except.map, Except.ok.injEq] at h
    exact ⟨b, h.symm⟩

theorem Reading.read_count {raw : String} {v : Value} (h : Reading.count.read raw = .ok v) :
    ∃ n, v = .int n := by
  cases hn : coerceInt (.str raw) with
  | error f => simp [Reading.read, hn, Except.map] at h
  | ok n =>
    simp only [Reading.read, hn, Except.map, Except.ok.injEq] at h
    exact ⟨n, h.symm⟩

/-! ## Typed reads -/

theorem present?_of_find? {c : Config} {k v : Value} (h : c.find? k = some v) (hv : v ≠ .null) :
    c.present? k = some v := by
  unfold present?
  rw [h]
  split
  case h_1 hnull =>
    cases hnull
    exact absurd rfl hv
  case h_2 => rfl

theorem getOr_of_present? {α : Type} {c : Config} {k : String} {v : Value}
    (h : c.present? (.str k) = some v) (dflt : α) (read : Value → Except ConfigFault α) :
    c.getOr (.str k) dflt read = read v := by
  simp [getOr, checkKey, Value.unhashableKind?, h]

theorem getInt_of_find?_int {c : Config} {k : String} {n : Int}
    (h : c.find? (.str k) = some (.int n)) (dflt : Int) : c.getInt k dflt = .ok n := by
  rw [getInt, getOr_of_present? (present?_of_find? h (by simp))]
  rfl

theorem getInt_of_find?_float {c : Config} {k : String} {x : Float}
    (h : c.find? (.str k) = some (.float x)) (dflt : Int) :
    c.getInt k dflt = .error (.coerce (.notInteger (.float x))) := by
  rw [getInt, getOr_of_present? (present?_of_find? h (by simp))]
  rfl

theorem getBool_of_find?_bool {c : Config} {k : String} {b : Bool}
    (h : c.find? (.str k) = some (.bool b)) (dflt : Bool) : c.getBool k dflt = .ok b := by
  rw [getBool, getOr_of_present? (present?_of_find? h (by simp))]
  rfl

/-! ## The two settings in an assembled configuration -/

section Assembled

variable {fs : Files.Tree} {inst : Install} {ws : Option String} {cwd : String}
  {env : Environ} {cmd : Command} {a : Assembled} {c : Config}

/-- Where a setting that a variable and the files may give comes from: the variable, when
present; else the files, with a value of the setting's kind; else the default. -/
theorem assemble_find?_setting (h : assemble fs inst ws cwd env cmd = .ok a)
    (hc : a.config = some c) {x : String × String × Reading} (hx : x ∈ variableSettings)
    {k : ValueKind} (hk : (x.2.1, Schema.ofKind k) ∈ generalFields) {d : Value}
    (hd : (defaultSettings inst (ws.getD cwd)).find? (.str x.2.1) = some d) :
    (∃ raw v, env.get? x.1 = some raw ∧ x.2.2.read raw = .ok v ∧ c.find? (.str x.2.1) = some v) ∨
    (env.get? x.1 = none ∧ ∃ v, c.layers.file.find? (.str x.2.1) = some v ∧ k.holds v = true ∧
      c.find? (.str x.2.1) = some v) ∨
    (env.get? x.1 = none ∧ c.layers.file.find? (.str x.2.1) = none ∧ c.find? (.str x.2.1) = some d) := by
  obtain ⟨loaded, r, t, saved, hload, -, -, hlayers⟩ := assemble_layers_eq h hc
  have htyped : c.layers.file.Typed := by
    rw [hlayers]
    exact (loadFiles_typed hload).2
  have hdefaults : c.layers.defaults = defaultSettings inst (ws.getD cwd) := by rw [hlayers]
  have hvar := assemble_find?_variable h hc hx
  cases henv : env.get? x.1 with
  | some raw =>
    rw [henv] at hvar
    obtain ⟨v, hv, hfind⟩ := hvar
    exact .inl ⟨raw, v, rfl, hv, hfind⟩
  | none =>
    rw [henv] at hvar
    cases hfile : c.layers.file.find? (.str x.2.1) with
    | some v =>
      refine .inr (.inl ⟨rfl, v, rfl, htyped.holds_of_find? hk hfile, ?_⟩)
      rw [hvar, hfile]
      rfl
    | none =>
      refine .inr (.inr ⟨rfl, rfl, ?_⟩)
      rw [hvar, hfile, hdefaults, hd]
      rfl

theorem assemble_update_check (h : assemble fs inst ws cwd env cmd = .ok a)
    (hc : a.config = some c) : ∃ b, c.find? (.str "update_check") = some (.bool b) := by
  have hd : (defaultSettings inst (ws.getD cwd)).find? (.str "update_check") = some (.bool true) := by
    simp [defaultSettings, Table.ofTexts, Table.empty]
  rcases assemble_find?_setting h hc (x := ("CHECKPIPE_UPDATE_CHECK", "update_check", .truth))
      (by decide) (k := .boolean) (by simp [generalFields]) hd with
    ⟨raw, v, -, hv, hfind⟩ | ⟨-, v, -, hholds, hfind⟩ | ⟨-, -, hfind⟩
  · obtain ⟨b, rfl⟩ := Reading.read_truth hv
    exact ⟨b, hfind⟩
  · obtain ⟨b, rfl⟩ := ValueKind.holds_boolean hholds
    exact ⟨b, hfind⟩
  · exact ⟨true, hfind⟩

/-- The memory limit is an integer, unless the environment sets none and the files give a
float. -/
theorem assemble_memory (h : assemble fs inst ws cwd env cmd = .ok a) (hc : a.config = some c) :
    (∃ n, c.find? (.str "memory_max_mb") = some (.int n)) ∨
    ∃ x, env.get? "CHECKPIPE_MEMORY_MAX_MB" = none ∧
      c.layers.file.find? (.str "memory_max_mb") = some (.float x) ∧
      c.find? (.str "memory_max_mb") = some (.float x) := by
  have hd : (defaultSettings inst (ws.getD cwd)).find? (.str "memory_max_mb") = some (.int 0) := by
    simp [defaultSettings, Table.ofTexts, Table.empty]
  rcases assemble_find?_setting h hc (x := ("CHECKPIPE_MEMORY_MAX_MB", "memory_max_mb", .count))
      (by decide) (k := .integer) (by simp [generalFields]) hd with
    ⟨raw, v, -, hv, hfind⟩ | ⟨henv, v, hfile, hholds, hfind⟩ | ⟨-, -, hfind⟩
  · obtain ⟨n, rfl⟩ := Reading.read_count hv
    exact .inl ⟨n, hfind⟩
  · rcases ValueKind.holds_integer hholds with ⟨n, rfl⟩ | ⟨x, rfl⟩
    · exact .inl ⟨n, hfind⟩
    · exact .inr ⟨x, henv, hfile, hfind⟩
  · exact .inl ⟨0, hfind⟩

/-- The two typed reads of an assembled configuration: whether to check for updates always
reads as a truth value, and the memory limit reads as an integer exactly unless no memory
variable is set and the configuration files give the limit as a float. -/
theorem assemble_typed_reads (h : assemble fs inst ws cwd env cmd = .ok a)
    (hc : a.config = some c) :
    (∃ u, c.getBool "update_check" true = .ok u) ∧
    ((∃ n, c.getInt "memory_max_mb" = .ok n) ↔
      ¬(env.get? "CHECKPIPE_MEMORY_MAX_MB" = none ∧
        ∃ x, c.layers.file.find? (.str "memory_max_mb") = some (.float x))) := by
  obtain ⟨b, hb⟩ := assemble_update_check h hc
  refine ⟨⟨b, getBool_of_find?_bool hb true⟩, ?_⟩
  rcases assemble_memory h hc with ⟨n, hn⟩ | ⟨x, henv, hfile, hx⟩
  · -- An integer limit reads; and the files cannot give a float then, for the files'
    -- value would be the configuration's.
    refine iff_of_true ⟨n, getInt_of_find?_int hn 0⟩ ?_
    rintro ⟨henv, y, hy⟩
    have hvar := assemble_find?_variable h hc (x := ("CHECKPIPE_MEMORY_MAX_MB", "memory_max_mb", .count))
      (by decide)
    simp only [henv] at hvar
    rw [hvar, hy, Option.some_or] at hn
    cases hn
  · refine iff_of_false ?_ (not_not.2 ⟨henv, x, hfile⟩)
    rintro ⟨n, hn⟩
    rw [getInt_of_find?_float hx 0] at hn
    cases hn

end Assembled

/-! ## A run whose memory limit cannot be read -/

/-- A file read without an error to a document that is a mapping gives that mapping's
settings. -/
theorem readFile_of_dict {fs : Files.Tree} {path : String} {r : Report} {bytes : List UInt8}
    {text : String} {d : Yaml.Document} {es : List (Value × Value)}
    (h1 : fs.read path = .ok bytes) (h2 : Text.readText bytes = .ok text)
    (h3 : Yaml.loadDocument text = .ok (some d)) (hdict : d.value = .dict es) {t : Table}
    {r' : Report} (h : readFile fs path r = .ok (.ok (t, r'))) :
    (t, r') = generalSettings path d.value r := by
  unfold readFile at h
  simp only [h1, h2, h3, Files.except_pure, Files.except_ok_bind] at h
  rw [hdict] at h ⊢
  simp only [Bool.false_eq_true, if_false] at h
  cases h4 : firstViolation (fileSchema.violations ⟨d.valueAt, d.field?⟩ d.root) with
  | some v => simp [h4] at h
  | none =>
    simp only [h4, Except.ok.injEq] at h
    exact h.symm

/-- Reading a single configuration file without an error gives its settings. -/
theorem loadFiles_of_single {fs : Files.Tree} {inst : Install} {ws : Option String} {p : String}
    {loaded : Loaded} {r : Report} (hfiles : configFiles fs inst ws = [p])
    (h : loadFiles fs inst ws = .ok (loaded, r)) (hr : r.failed = false) :
    ∃ t, readFile fs p {} = .ok (.ok (t, r)) ∧ loaded.options = ({} : Table).putAll t := by
  rw [loadFiles_eq, hfiles] at h
  simp only [List.foldlM_cons, List.foldlM_nil, bind_pure] at h
  have hempty : ({} : Report).failed = false := rfl
  cases hread : readFile fs p {} with
  | error f => simp [loadStep, hempty, hread] at h
  | ok res =>
    rcases res with e | ⟨t, r'⟩
    · -- A file that cannot be read leaves an error in the report.
      simp only [loadStep, hempty, Bool.false_eq_true, if_false, hread, Except.ok.injEq,
        Prod.mk.injEq] at h
      rw [← h.2, Report.failed_withError] at hr
      cases hr
    · simp only [loadStep, hempty, Bool.false_eq_true, if_false, hread, Except.ok.injEq,
        Prod.mk.injEq] at h
      obtain ⟨rfl, rfl⟩ := h
      exact ⟨t, rfl, rfl⟩

/-- A configuration file that gives the memory limit, under its deprecated name, as a float. -/
def floatLimitText : String := "options:\n  general:\n    max_memory_mb: 2.0\n"

/-- The bytes of `floatLimitText`, all of them ASCII. -/
def floatLimitBytes : List UInt8 := floatLimitText.toList.map (fun ch => ch.toNat.toUInt8)

/-- A tree whose installation `/inst` holds `floatLimitText` as its one configuration file. -/
def floatLimitTree : Files.Tree :=
  (Files.Tree.atDir "/w").plant "/inst/config/a.yaml" (.file floatLimitBytes)

theorem Value.eq_float_of_kindName {v : Value} (h : v.kindName = "float") : ∃ x, v = .float x := by
  cases v <;> simp [Value.kindName] at h ⊢
  case cycle m => cases m <;> simp at h

theorem eq_ok_some_of_join {ε α : Type} {x : Except ε (Option α)} {a : α}
    (h : x.toOption.join = some a) : x = .ok (some a) := by
  rcases x with e | _ | a'
  · cases h
  · cases h
  · cases h
    rfl

/-- The file of `floatLimitTree`, when it is read without an error, gives the memory limit
as a float: its old name is renamed, and its value kept. -/
theorem readFile_floatLimit {t : Table} {r : Report}
    (h : readFile floatLimitTree "/inst/config/a.yaml" {} = .ok (.ok (t, r))) :
    ∃ x, t.find? (.str "memory_max_mb") = some (.float x) := by
  -- The document is a mapping, and its renamed settings give the limit a float.
  have hdoc : (Yaml.loadDocument floatLimitText).toOption.join.map (fun d =>
      (ValueKind.object.holds d.value,
        ((generalSettings "/inst/config/a.yaml" d.value {}).1.find? (.str "memory_max_mb")).map
          Value.kindName)) = some (true, some "float") := by
    decide +kernel
  obtain ⟨d, hd, hkinds⟩ := Option.map_eq_some_iff.1 hdoc
  simp only [Prod.mk.injEq] at hkinds
  obtain ⟨hobject, hfloat⟩ := hkinds
  obtain ⟨es, hdict⟩ := ValueKind.holds_object hobject
  obtain ⟨v, hv, hkind⟩ := Option.map_eq_some_iff.1 hfloat
  obtain ⟨x, rfl⟩ := Value.eq_float_of_kindName hkind
  have hbytes : Text.readText floatLimitBytes = .ok floatLimitText := calc
    Text.readText floatLimitBytes = .ok ((Text.readText floatLimitBytes).toOption.getD "") :=
      eq_ok_of_isOk "" (by decide +kernel)
    _ = .ok floatLimitText := congrArg Except.ok (by decide +kernel)
  have hgen := readFile_of_dict (by decide +kernel) hbytes (eq_ok_some_of_join hd) hdict h
  refine ⟨x, ?_⟩
  rw [← hv, ← hgen]

/-- With no variable in the environment and the files of `floatLimitTree`, a configuration
that assembling gives has a memory limit that cannot be read as an integer. -/
theorem getInt_floatLimit {a : Assembled} {c : Config}
    (h : assemble floatLimitTree ⟨"/inst"⟩ none "/w" ⟨[]⟩ sampleCommand = .ok a)
    (hc : a.config = some c) :
    ∃ x, c.getInt "memory_max_mb" = .error (.coerce (.notInteger (.float x))) := by
  obtain ⟨loaded, r, t₀, saved, hload, -, -, hlayers⟩ := assemble_layers_eq h hc
  obtain ⟨loaded', r', -, -, hinst, hload', hr, -⟩ := assemble_eq_config h hc
  obtain ⟨rfl, rfl⟩ := Prod.mk.inj (Except.ok.inj (hload'.symm.trans hload))
  -- The installation directory is there, so the tree is left as it is.
  have htree : a.tree = floatLimitTree := by
    have hex : ensureInstall floatLimitTree ⟨"/inst"⟩ = .ok floatLimitTree := by
      rw [ensureInstall, if_pos (by decide +kernel)]
    rw [hex] at hinst
    exact (Except.ok.inj hinst).symm
  rw [htree] at hload
  obtain ⟨t, hread, hopts⟩ :=
    loadFiles_of_single (p := "/inst/config/a.yaml") (by decide +kernel) hload hr
  obtain ⟨x, hx⟩ := readFile_floatLimit hread
  have hfile : c.layers.file.find? (.str "memory_max_mb") = some (.float x) := by
    rw [hlayers]
    dsimp only
    rw [hopts, (readFile_typed hread).1.find?_putAll, Table.find?_empty, Option.or_none, hx]
  -- No memory variable is set, so the files' float is the configuration's.
  have hvar := assemble_find?_variable h hc
    (x := ("CHECKPIPE_MEMORY_MAX_MB", "memory_max_mb", .count)) (by decide)
  simp only [show (⟨[]⟩ : Environ).get? "CHECKPIPE_MEMORY_MAX_MB" = none from rfl] at hvar
  rw [hfile, Option.some_or] at hvar
  exact ⟨x, getInt_of_find?_float hvar 0⟩

/-- The assembly of `floatLimitTree`, when it gives a configuration, gives one whose memory
limit cannot be read as an integer. Whether it gives one turns on the schema's check of the
float, which only a run decides. -/
theorem float_limit_unreadable :
    match assemble floatLimitTree ⟨"/inst"⟩ none "/w" ⟨[]⟩ sampleCommand with
    | .ok a => match a.config with
      | some c => ∃ x, c.getInt "memory_max_mb" = .error (.coerce (.notInteger (.float x)))
      | none => True
    | .error _ => True := by
  split
  case h_1 a h =>
    split
    case h_1 c hc => exact getInt_floatLimit h hc
    case h_2 => trivial
  case h_2 => trivial

/-- The typed reads of the assembly of `sampleEnv`, whose memory variable sets the limit. -/
theorem assemble_typed_reads_sample :
    assemble (Files.Tree.atDir "/w") ⟨"/inst"⟩ none "/w" sampleEnv sampleCommand =
        .ok sampleAssembled ∧ sampleAssembled.config = some sampleConfig ∧
      ((∃ u, sampleConfig.getBool "update_check" true = .ok u) ∧
      ((∃ n, sampleConfig.getInt "memory_max_mb" = .ok n) ↔
        ¬(sampleEnv.get? "CHECKPIPE_MEMORY_MAX_MB" = none ∧
          ∃ x, sampleConfig.layers.file.find? (.str "memory_max_mb") = some (.float x)))) :=
  ⟨assemble_sample, sampleAssembled_config,
    assemble_typed_reads assemble_sample sampleAssembled_config⟩

end Preflight.Config
