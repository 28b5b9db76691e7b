import Preflight.Proofs.Config.Table

/-!
# Builder sessions

A configuration builder collects settings layer by layer and builds configurations from
what it holds. A session is a run of operations on one builder, started empty: updates and
single settings of a named layer, and builds, each of which keeps the configuration built.

What a session keeps: the layers of the builder hold each key once at every point
(`Session.keyed_run`), so looking a key up in the builder, highest layer first, agrees with
the configuration it would build, a null value included; configurations already built are
never changed by later operations (`Session.built_prefix_run`); and an operation naming no
layer is refused without changing anything. The main statement is `run_peek_build`.
-/

set_option autoImplicit false

namespace Preflight.Config

/-- An operation of a builder session. -/
inductive BuilderOp where
  /-- Sets the settings of a mapping in a named layer. -/
  | update (layer : String) (values : Table)
  /-- Sets one key in a named layer, as an update with a mapping of that key alone. -/
  | set (layer key : String) (value : Value)
  /-- Builds a configuration from the layers collected so far. -/
  | build

/-- A builder and the configurations built from it, oldest first. -/
structure Session where
  /-- The builder. -/
  builder : Builder := {}
  /-- The configurations built so far. -/
  built : List Config := []

namespace Session

/-- Updates a named layer; a name that is no layer is refused and changes nothing. -/
def update (s : Session) (layer : String) (values : Table) : Session × Option ConfigFault :=
  match s.builder.update layer values with
  | .ok b => ({ s with builder := b }, none)
  | .error f => (s, some f)

/-- Performs one operation: the session after it and the fault it reports, if any. -/
def step (s : Session) : BuilderOp → Session × Option ConfigFault
  | .update layer values => s.update layer values
  | .set layer key value => s.update layer ⟨[(.str key, value)]⟩
  | .build => ({ s with built := s.built ++ [s.builder.build] }, none)

/-- Performs operations one after the other, going on after a refused one. -/
def run (s : Session) (ops : List BuilderOp) : Session :=
  ops.foldl (fun s op => (s.step op).1) s

@[simp] theorem run_nil (s : Session) : s.run [] = s := rfl

@[simp] theorem run_cons (s : Session) (op : BuilderOp) (ops : List BuilderOp) :
    s.run (op :: ops) = (s.step op).1.run ops := rfl

theorem run_append (s : Session) (ops more : List BuilderOp) :
    s.run (ops ++ more) = (s.run ops).run more := by
  simp [run, List.foldl_append]

/-- An update naming no layer is refused and leaves the session as it was. -/
theorem update_of_unknown (s : Session) {layer : String} (h : layer ∉ Layer.order.map Layer.name)
    (values : Table) : s.update layer values = (s, some (.unknownLayer layer)) := by
  have hnone : Layer.ofName? layer = none := by
    rw [Layer.ofName?, List.find?_eq_none]
    intro l hl hname
    exact h (List.mem_map.2 ⟨l, hl, (beq_iff_eq.1 hname)⟩)
  simp [update, Builder.update, hnone]

/-- An update of a layer sets the mapping into that layer alone. -/
theorem update_of_known (s : Session) {layer : String} {l : Layer} (h : Layer.ofName? layer = some l)
    (values : Table) : s.update layer values = ({ s with builder := s.builder.put l values }, none) := by
  simp [update, Builder.update, h, Builder.put]

/-! ## What one operation keeps -/

/-- The layers of a builder each hold every key once. -/
def Keyed (s : Session) : Prop :=
  s.builder.build.Keyed

theorem keyed_empty : ({} : Session).Keyed :=
  ⟨Table.keyed_empty, Table.keyed_empty, Table.keyed_empty, Table.keyed_empty⟩

theorem Keyed.put {s : Session} (hs : s.Keyed) (l : Layer) (values : Table) :
    (⟨s.builder.put l values, s.built⟩ : Session).Keyed := by
  obtain ⟨hd, hf, he, hr⟩ := hs
  cases l
  · exact ⟨hd.putAll values, hf, he, hr⟩
  · exact ⟨hd, hf.putAll values, he, hr⟩
  · exact ⟨hd, hf, he.putAll values, hr⟩
  · exact ⟨hd, hf, he, hr.putAll values⟩

theorem Keyed.update {s : Session} (hs : s.Keyed) (layer : String) (values : Table) :
    (s.update layer values).1.Keyed := by
  cases hl : Layer.ofName? layer with
  | none => simp [Session.update, Builder.update, hl, hs]
  | some l =>
    rw [update_of_known s hl]
    exact hs.put l values

/-- Every operation keeps each key once in each layer. -/
theorem Keyed.step {s : Session} (hs : s.Keyed) (op : BuilderOp) : (s.step op).1.Keyed := by
  cases op with
  | update layer values => exact hs.update layer values
  | set layer key value => exact hs.update layer _
  | build => exact hs

/-- Every operation keeps the configurations built before it, and a build adds one. -/
theorem built_prefix_step (s : Session) (op : BuilderOp) : s.built <+: (s.step op).1.built := by
  cases op with
  | update layer values =>
    cases hl : Layer.ofName? layer with
    | none => simp [step, update, Builder.update, hl]
    | some l => simp [step, update_of_known s hl]
  | set layer key value =>
    cases hl : Layer.ofName? layer with
    | none => simp [step, update, Builder.update, hl]
    | some l => simp [step, update_of_known s hl]
  | build => exact List.prefix_append _ _

/-! ## What a session keeps -/

/-- In every session the layers hold each key once. -/
theorem keyed_run {s : Session} (hs : s.Keyed) (ops : List BuilderOp) : (s.run ops).Keyed := by
  induction ops generalizing s with
  | nil => exact hs
  | cons op ops ih => exact ih (hs.step op)

/-- The configurations built before a run of operations are kept by it. -/
theorem built_prefix_run (s : Session) (ops : List BuilderOp) : s.built <+: (s.run ops).built := by
  induction ops generalizing s with
  | nil => exact List.prefix_refl _
  | cons op ops ih => exact (built_prefix_step s op).trans (ih _)

/-- Looking a key up in a builder whose layers hold each key once agrees with the
configuration it builds. -/
theorem Keyed.peek?_eq {s : Session} (hs : s.Keyed) (k : String) :
    s.builder.peek? (.str k) = s.builder.build.find? (.str k) := by
  rw [Builder.peek?_eq, Config.Keyed.find?_str hs]
  rfl

end Session

/-- A builder session started empty. At every point, the value a key would have in the
builder (that of the highest layer holding it, a null value included) is its value in the
configuration built then, and it is missing from that configuration exactly when the
builder has no layer holding it. A configuration once built stays as it was built,
whatever operations follow. An update or a single setting naming no layer is refused with
a `ValueError` naming the layer, and leaves the session unchanged. -/
theorem run_peek_build (ops : List BuilderOp) :
    (∀ k : String,
      (Session.run {} ops).builder.peek? (.str k) = (Session.run {} ops).builder.build.find? (.str k)) ∧
    (∀ more : List BuilderOp,
      (Session.run {} (ops ++ .build :: more)).built[(Session.run {} ops).built.length]? =
        some (Session.run {} ops).builder.build) ∧
    (∀ layer, layer ∉ Layer.order.map Layer.name → ∀ values key value,
      (Session.run {} ops).step (.update layer values) = (Session.run {} ops, some (.unknownLayer layer)) ∧
      (Session.run {} ops).step (.set layer key value) = (Session.run {} ops, some (.unknownLayer layer)) ∧
      (ConfigFault.unknownLayer layer).toFailure = ⟨.badValue, "unknown configuration layer: " ++ layer⟩) := by
  have hkeyed := Session.keyed_run Session.keyed_empty ops
  refine ⟨hkeyed.peek?_eq, fun more => ?_, fun layer hlayer values key value =>
    ⟨Session.update_of_unknown _ hlayer values, Session.update_of_unknown _ hlayer _, rfl⟩⟩
  -- The build appends the configuration at the end of those built, and what follows keeps it.
  rw [Session.run_append, Session.run_cons]
  obtain ⟨rest, hrest⟩ := Session.built_prefix_run ((Session.run {} ops).step .build).1 more
  rw [← hrest]
  simp [Session.step]

/-- A session of the tests: a default, a build, then a file setting over the default. -/
def sampleSession : List BuilderOp :=
  [.update "defaults" (Table.ofTexts [("telemetry", .str "info")]), .build,
    .set "file" "telemetry" (.str "none")]

/-- The configuration built before the file setting keeps the default; the builder now
reads the file's value. -/
example :
    ((Session.run {} sampleSession).built.head?.bind (·.find? (.str "telemetry"))).map Value.text =
        some "info" ∧
      ((Session.run {} sampleSession).builder.peek? (.str "telemetry")).map Value.text =
        some "none" := by
  decide

theorem run_peek_build_sample :
    "cli" ∉ Layer.order.map Layer.name ∧
      ((Session.run {} sampleSession).step (.update "cli" {}) =
          (Session.run {} sampleSession, some (.unknownLayer "cli")) ∧
        (Session.run {} sampleSession).step (.set "cli" "telemetry" .null) =
          (Session.run {} sampleSession, some (.unknownLayer "cli")) ∧
        (ConfigFault.unknownLayer "cli").toFailure =
          ⟨.badValue, "unknown configuration layer: " ++ "cli"⟩) :=
  ⟨by decide, (run_peek_build sampleSession).2.2 "cli" (by decide) {} "telemetry" .null⟩

end Preflight.Config
