import Preflight.Config.File
import Preflight.Proofs.Yaml.Document
import Preflight.Proofs.Files.Lookup

/-!
# What the configuration files can set

A configuration file is checked against its schema before its settings are taken, but the
two read the document differently: the schema goes node by node, the settings come from
the document unfolded as one value. The check is sound for the settings all the same:
every setting a file gives is one the schema names, with a value of a kind the schema
allows (`Table.Typed`), and this holds after the old names are renamed, and for the
settings of all the files together (`loadFiles_typed`).
-/

set_option autoImplicit false

namespace Preflight

/-! ## Schemas -/

/-- The kinds a schema allows. -/
def Schema.kinds : Schema → List ValueKind
  | .mk ks .. => ks

theorem ValueKind.holds_object {v : Value} (h : ValueKind.object.holds v = true) :
    ∃ es, v = .dict es := by
  cases v <;> simp_all [ValueKind.holds]

theorem Value.field?_eq_some {v w : Value} {key : String} (h : v.field? key = some w) :
    ∃ es, v = .dict es ∧ Entries.get? es (.str key) = some w := by
  cases v <;> simp_all [Value.field?]

namespace Schema

section Check

variable {α : Type} {r : Reading α} {fuel : Nat} {kinds : List ValueKind}
  {required : List String} {fields : List (String × Schema)} {closed : Bool}
  {minLength : Option Nat} {pattern : Option TextRule} {choices : Option (List Value)}
  {minimum : Option Int} {a : α}

/-- A value that passes a check is of one of the kinds allowed. -/
theorem check_kinds
    (h : check r (fuel + 1) (.mk kinds required fields closed minLength pattern choices minimum) a = []) :
    (kinds.isEmpty || kinds.any (·.holds (r.value a))) = true := by
  rw [check.eq_def] at h
  simp only [List.append_eq_nil_iff] at h
  obtain ⟨⟨⟨⟨⟨⟨⟨hk, -⟩, -⟩, -⟩, -⟩, -⟩, -⟩, -⟩ := h
  split at hk
  · assumption
  · cases hk

/-- A mapping that passes a check has each known field pass its own schema. -/
theorem check_field
    (h : check r (fuel + 1) (.mk kinds required fields closed minLength pattern choices minimum) a = [])
    {es : Entries} (hv : r.value a = .dict es) {name : String} {sub : Schema}
    (hmem : (name, sub) ∈ fields) {x : α} (hx : r.field? a name = some x) :
    check r fuel sub x = [] := by
  rw [check.eq_def] at h
  simp only [List.append_eq_nil_iff] at h
  obtain ⟨⟨⟨⟨⟨⟨⟨-, -⟩, hf⟩, -⟩, -⟩, -⟩, -⟩, -⟩ := h
  simp only [hv, List.flatMap_eq_nil_iff] at hf
  have hsub := hf _ hmem
  simp only [hx, List.map_eq_nil_iff] at hsub
  exact hsub

/-- A mapping that passes a closed check has only known fields, all named by texts. -/
theorem check_closed
    (h : check r (fuel + 1) (.mk kinds required fields true minLength pattern choices minimum) a = [])
    {es : Entries} (hv : r.value a = .dict es) {k w : Value} (hmem : (k, w) ∈ es) :
    ∃ s, k = .str s ∧ fields.any (·.1 == s) = true := by
  rw [check.eq_def] at h
  simp only [List.append_eq_nil_iff] at h
  obtain ⟨-, hx⟩ := h
  simp only [hv, if_true] at hx
  split at hx
  case isTrue hempty =>
    -- Sorting keeps the length, so nothing was left out of the known fields.
    have hlen := congrArg List.length (List.isEmpty_iff.1 hempty)
    rw [List.length_mergeSort, List.length_nil, List.length_eq_zero_iff,
      List.filterMap_eq_nil_iff] at hlen
    have hk := hlen _ hmem
    split at hk
    · cases k <;> simp_all
    · cases hk
  case isFalse => cases hx

end Check

end Schema

namespace Config

open Yaml

theorem firstViolation_eq_none {vs : List Violation} (h : firstViolation vs = none) : vs = [] := by
  simp only [firstViolation, Option.map_eq_none_iff, List.head?_eq_none_iff] at h
  have hlen := congrArg List.length h
  rw [List.length_mergeSort, List.length_map, List.length_nil] at hlen
  exact List.length_eq_zero_iff.1 hlen

/-- Every setting a file may give has one kind: a text, an integer or a truth value. -/
theorem generalFields_kinds {name : String} {sub : Schema} (h : (name, sub) ∈ generalFields) :
    ∃ k, sub.kinds = [k] ∧ k ≠ .object ∧ k ≠ .array ∧ k ≠ .null := by
  simp only [generalFields, List.mem_cons, Prod.mk.injEq, List.mem_nil_iff, or_false] at h
  rcases h with ⟨-, rfl⟩ | ⟨-, rfl⟩ | ⟨-, rfl⟩ | ⟨-, rfl⟩ | ⟨-, rfl⟩ | ⟨-, rfl⟩ | ⟨-, rfl⟩ |
    ⟨-, rfl⟩ <;> exact ⟨_, rfl, by decide, by decide, by decide⟩

/-! ## Typed tables -/

/-- Every setting of a table named by a text is one a configuration file may give, with a
value of a kind its schema allows. -/
def Table.Typed (t : Table) : Prop :=
  ∀ name v, t.find? (.str name) = some v →
    ∃ sub, (name, sub) ∈ generalFields ∧ sub.kinds.any (·.holds v) = true

namespace Table

theorem typed_empty : ({} : Table).Typed := by
  intro name v h
  simp at h

theorem Typed.remove {t : Table} (ht : t.Typed) (k : Value) : (t.remove k).Typed := by
  intro name v h
  rw [find?_remove_str] at h
  split at h
  · cases h
  · exact ht name v h

theorem Typed.putText {t : Table} (ht : t.Typed) {k : String} {v : Value} {sub : Schema}
    (hk : (k, sub) ∈ generalFields) (hv : sub.kinds.any (·.holds v) = true) :
    (t.putText k v).Typed := by
  intro name w h
  rw [find?_putText] at h
  split at h
  case isTrue heq =>
    subst heq
    cases h
    exact ⟨sub, hk, hv⟩
  case isFalse => exact ht name w h

theorem Typed.putAll {t u : Table} (ht : t.Typed) (hu : u.Typed) (hk : u.Keyed) :
    (t.putAll u).Typed := by
  intro name v h
  rw [hk.find?_putAll] at h
  cases hw : u.find? (.str name) with
  | some w =>
    rw [hw] at h
    cases h
    exact hu name _ hw
  | none =>
    rw [hw] at h
    exact ht name v h

end Table

/-! ## The settings of one document -/

/-- The entries a document's settings come from: those under `options` and then `general`. -/
def generalEntries (doc : Value) : Entries :=
  match doc.field? "options" with
  | some opts =>
    match opts.field? "general" with
    | some (.dict es) => es
    | _ => []
  | none => []

/-- The settings named by texts among some entries, later ones overriding earlier ones. -/
def textSettings (es : Entries) (t : Table) : Table :=
  es.foldl (fun t e => match e.1 with
    | .str k => t.putText k e.2
    | _ => t) t

/-- One renaming: the value of the old name moves to the new name unless that is set, with
a warning. -/
def renameStep (path : String) (acc : Table × Report) (names : String × String) :
    Table × Report :=
  match acc.1.find? (.str names.1) with
  | some v =>
    let t := acc.1.remove (.str names.1)
    (if t.has (.str names.2) then t else t.putText names.2 v,
      acc.2.addWarning s!"{path}: option '{names.1}' is deprecated - use '{names.2}'")
  | none => acc

theorem generalSettings_eq (path : String) (doc : Value) (r : Report) :
    generalSettings path doc r =
      renamedSettings.foldl (renameStep path) (textSettings (generalEntries doc) {}, r) := rfl

theorem mem_generalEntries {doc k v : Value} (h : (k, v) ∈ generalEntries doc) :
    ∃ opts es, doc.field? "options" = some opts ∧ opts.field? "general" = some (.dict es) ∧
      (k, v) ∈ es := by
  unfold generalEntries at h
  split at h
  case h_1 opts ho =>
    split at h
    case h_1 es hg => exact ⟨opts, es, ho, hg, h⟩
    all_goals cases h
  case h_2 => cases h

/-- The check of a document is sound for its settings: each entry under a text key of its
`general` mapping is a setting the schema names, with a value of a kind it allows. -/
theorem generalEntries_typed {d : Document}
    (hs : fileSchema.violations ⟨d.valueAt, d.field?⟩ d.root = []) {name : String} {v : Value}
    (hv : (.str name, v) ∈ generalEntries d.value) :
    ∃ sub, (name, sub) ∈ generalFields ∧ sub.kinds.any (·.holds v) = true := by
  obtain ⟨opts, es, ho, hg, hmem⟩ := mem_generalEntries hv
  -- Down from the root to `general`, one mapping at a time.
  obtain ⟨es0, hv0, hget0⟩ := Value.field?_eq_some ho
  obtain ⟨f0, -, hr1, hroot⟩ := (reach_root d).down hv0
  rw [hroot] at hget0
  obtain ⟨o, ho', rfl⟩ := Option.map_eq_some_iff.1 hget0
  obtain ⟨es1, hv1, hget1⟩ := Value.field?_eq_some hg
  obtain ⟨f1, -, hr2, hopts⟩ := hr1.down hv1
  rw [hopts] at hget1
  obtain ⟨g, hg', hgv⟩ := Option.map_eq_some_iff.1 hget1
  obtain ⟨f2, -, hr3, hgen⟩ := hr2.down hgv
  have hget := (keyed_of_valueOf_eq_dict d.built hgv).find?_of_mem hmem
  rw [Table.find?, hgen] at hget
  obtain ⟨x, hx, rfl⟩ := Option.map_eq_some_iff.1 hget
  -- The same path through the schema, node by node.
  have hs0 : Schema.check ⟨d.valueAt, d.field?⟩ (63 + 1)
      (.mk [.object] [] [("options", Schema.closedObject [("general",
        Schema.closedObject generalFields)])] true none none none none) d.root = [] := hs
  have hs1 := Schema.check_field hs0 hv0 List.mem_cons_self ho'
  obtain ⟨eso, hvo⟩ := ValueKind.holds_object (by simpa using Schema.check_kinds hs1)
  have hs2 := Schema.check_field hs1 hvo List.mem_cons_self hg'
  obtain ⟨esg, hvg⟩ := ValueKind.holds_object (by simpa using Schema.check_kinds hs2)
  -- The schema's mapping at `general` holds the key too, so the key is a known field.
  have hg_lt : g < d.built.graph.nodes.size := hr3.2.2 g List.mem_cons_self
  obtain ⟨n, hn⟩ : ∃ n, d.built.graph.nodes.size + 1 = n + 2 :=
    ⟨d.built.graph.nodes.size - 1, by omega⟩
  have hvg' : valueOf d.built (n + 2) [] g = .dict esg := by
    rw [← hn]
    exact hvg
  have hkey : Entries.get? esg (.str name) = some (valueOf d.built (n + 1) [g] x) := by
    rw [get?_valueOf d hvg', hx]
    rfl
  obtain ⟨s, hs_eq, hany⟩ := Schema.check_closed hs2 hvg (Entries.mem_of_get?_str hkey)
  cases hs_eq
  obtain ⟨⟨name', sub⟩, hsub, hname⟩ := List.any_eq_true.1 hany
  obtain rfl : name' = name := by simpa using hname
  refine ⟨sub, hsub, ?_⟩
  -- The value's node passes the setting's schema, so it is of its one kind on every path.
  have hs3 := Schema.check_field hs2 hvg hsub hx
  obtain ⟨k, hk, hobj, harr, hnull⟩ := generalFields_kinds hsub
  obtain ⟨kinds, req, flds, cl, ml, pat, ch, mn⟩ := sub
  simp only [Schema.kinds] at hk
  subst hk
  have hholds : k.holds (d.valueAt x) = true := by simpa using Schema.check_kinds hs3
  rw [valueOf_of_holds d.built hholds hobj harr hnull]
  simp only [Schema.kinds, List.any_cons, List.any_nil, Bool.or_false]
  exact hholds

/-! ## Renaming and the settings of a file -/

theorem textSettings_find? {es : Entries} {t : Table} {name : String} {v : Value}
    (h : (textSettings es t).find? (.str name) = some v) :
    (.str name, v) ∈ es ∨ t.find? (.str name) = some v := by
  induction es generalizing t with
  | nil => exact .inr h
  | cons e es ih =>
    rcases ih h with hin | hstep
    · exact .inl (List.mem_cons_of_mem _ hin)
    · -- The first entry was set only if its key is a text.
      obtain ⟨k, w⟩ := e
      cases k
      case str k =>
        simp only [Table.find?_putText] at hstep
        split at hstep
        case isTrue heq =>
          subst heq
          cases hstep
          exact .inl List.mem_cons_self
        case isFalse => exact .inr hstep
      all_goals exact .inr hstep

theorem Table.Keyed.textSettings {t : Table} (ht : t.Keyed) (es : Entries) :
    (Config.textSettings es t).Keyed := by
  induction es generalizing t with
  | nil => exact ht
  | cons e es ih =>
    apply ih
    obtain ⟨k, w⟩ := e
    cases k
    case str k => exact ht.putText k w
    all_goals exact ht

theorem Table.Typed.textSettings {t : Table} (ht : t.Typed) {es : Entries}
    (hes : ∀ name v, (.str name, v) ∈ es →
      ∃ sub, (name, sub) ∈ generalFields ∧ sub.kinds.any (·.holds v) = true) :
    (Config.textSettings es t).Typed := by
  intro name v h
  rcases textSettings_find? h with hin | hin
  · exact hes name v hin
  · exact ht name v hin

/-- An old name and its new name allow the same kinds. -/
theorem renamed_kinds {old new : String} (hn : (old, new) ∈ renamedSettings) {sub : Schema}
    (hsub : (old, sub) ∈ generalFields) :
    ∃ sub', (new, sub') ∈ generalFields ∧ sub'.kinds = sub.kinds := by
  simp only [renamedSettings, List.mem_cons, Prod.mk.injEq, List.mem_nil_iff, or_false] at hn
  rcases hn with ⟨rfl, rfl⟩ | ⟨rfl, rfl⟩
  · simp [generalFields] at hsub
    subst hsub
    exact ⟨_, by simp [generalFields], rfl⟩
  · simp [generalFields] at hsub
    subst hsub
    exact ⟨_, by simp [generalFields], rfl⟩

theorem renameStep_error (path : String) (acc : Table × Report) (names : String × String) :
    (renameStep path acc names).2.error = acc.2.error := by
  unfold renameStep
  split
  · simp only [Report.addWarning]
    split <;> rfl
  · rfl

theorem renameStep_keyed (path : String) {acc : Table × Report} (h : acc.1.Keyed)
    (names : String × String) : (renameStep path acc names).1.Keyed := by
  unfold renameStep
  split
  · dsimp only
    split
    · exact h.remove _
    · exact (h.remove _).putText _ _
  · exact h

theorem renameStep_typed (path : String) {acc : Table × Report} (h : acc.1.Typed)
    {names : String × String} (hn : names ∈ renamedSettings) :
    (renameStep path acc names).1.Typed := by
  unfold renameStep
  split
  case h_1 v hv =>
    dsimp only
    split
    · exact h.remove _
    · -- The value moves to the new name, which allows the kinds the old one did.
      obtain ⟨sub, hsub, hkind⟩ := h _ _ hv
      obtain ⟨sub', hsub', hsame⟩ := renamed_kinds hn hsub
      exact (h.remove _).putText hsub' (hsame ▸ hkind)
  case h_2 => exact h

theorem foldl_renameStep {path : String} (ns : List (String × String))
    (hns : ∀ n ∈ ns, n ∈ renamedSettings) {acc : Table × Report} (hk : acc.1.Keyed)
    (ht : acc.1.Typed) :
    (ns.foldl (renameStep path) acc).1.Keyed ∧ (ns.foldl (renameStep path) acc).1.Typed ∧
      (ns.foldl (renameStep path) acc).2.error = acc.2.error := by
  induction ns generalizing acc with
  | nil => exact ⟨hk, ht, rfl⟩
  | cons n ns ih =>
    have hn := hns n List.mem_cons_self
    obtain ⟨hk', ht', he'⟩ := ih (fun m hm => hns m (List.mem_cons_of_mem _ hm))
      (renameStep_keyed path hk n) (renameStep_typed path ht hn)
    exact ⟨hk', ht', he'.trans (renameStep_error path acc n)⟩

/-- The settings of a document that passes the check are typed, each key once, and taking
them adds warnings only. -/
theorem generalSettings_typed (path : String) {d : Document}
    (hs : fileSchema.violations ⟨d.valueAt, d.field?⟩ d.root = []) (r : Report) :
    (generalSettings path d.value r).1.Keyed ∧ (generalSettings path d.value r).1.Typed ∧
      (generalSettings path d.value r).2.error = r.error := by
  rw [generalSettings_eq]
  exact foldl_renameStep renamedSettings (fun _ h => h) (Table.keyed_empty.textSettings _)
    (Table.typed_empty.textSettings (fun _ _ h => generalEntries_typed hs h))

/-! ## Reading the files -/

theorem readFile_eq_ok {fs : Files.Tree} {path : String} {r : Report} {t : Table} {r' : Report}
    (h : readFile fs path r = .ok (.ok (t, r'))) :
    (t = {} ∧ r' = r) ∨ ∃ d : Document, fileSchema.violations ⟨d.valueAt, d.field?⟩ d.root = [] ∧
      (t, r') = generalSettings path d.value r := by
  unfold readFile at h
  cases h1 : fs.read path with
  | error f => simp [h1] at h
  | ok bytes =>
    cases h2 : Text.readText bytes with
    | error f => simp [h1, h2] at h
    | ok text =>
      cases h3 : loadDocument text with
      | error e => cases e <;> simp [h1, h2, h3] at h
      | ok doc? =>
        cases doc? with
        | none =>
          simp [h1, h2, h3] at h
          exact .inl ⟨h.1.symm, h.2.symm⟩
        | some d =>
          simp only [h1, h2, h3, Files.except_pure, Files.except_ok_bind] at h
          split at h
          · simp at h
            exact .inl ⟨h.1.symm, h.2.symm⟩
          · cases h4 : firstViolation (fileSchema.violations ⟨d.valueAt, d.field?⟩ d.root) with
            | some v => simp [h4] at h
            | none =>
              simp only [h4, Bool.false_eq_true, if_false, Except.ok.injEq] at h
              exact .inr ⟨d, firstViolation_eq_none h4, h.symm⟩

/-- A file read without an error gives typed settings, each key once, and adds warnings
only. -/
theorem readFile_typed {fs : Files.Tree} {path : String} {r : Report} {t : Table} {r' : Report}
    (h : readFile fs path r = .ok (.ok (t, r'))) : t.Keyed ∧ t.Typed ∧ r'.error = r.error := by
  rcases readFile_eq_ok h with ⟨rfl, rfl⟩ | ⟨d, hs, hgen⟩
  · exact ⟨Table.keyed_empty, Table.typed_empty, rfl⟩
  · obtain ⟨hk, ht, he⟩ := generalSettings_typed path hs r
    rw [← hgen] at hk ht he
    exact ⟨hk, ht, he⟩

/-- A file read without an error leaves the report failed exactly when it was. -/
theorem readFile_failed {fs : Files.Tree} {path : String} {r : Report} {t : Table} {r' : Report}
    (h : readFile fs path r = .ok (.ok (t, r'))) : r'.failed = r.failed := by
  simp only [Report.failed, (readFile_typed h).2.2]

/-- One file's turn in reading the files. -/
def loadStep (fs : Files.Tree) (acc : Loaded × Report) (path : String) :
    Except Failure (Loaded × Report) :=
  if acc.2.failed then .ok acc
  else
    match readFile fs path acc.2 with
    | .error f => .error f
    | .ok (.error e) => .ok (acc.1, acc.2.withError e)
    | .ok (.ok (t, r')) =>
      .ok ({ options := acc.1.options.putAll t, sources := acc.1.sources ++ [path] }, r')

/-! What one file's turn does, by how reading the file ends. -/

section Step

variable {fs : Files.Tree} {acc : Loaded × Report} {path : String}

theorem loadStep_of_failed (h : acc.2.failed = true) (path : String) :
    loadStep fs acc path = .ok acc := by
  simp [loadStep, h]

theorem loadStep_of_read_error (h₀ : acc.2.failed = false) {f : Failure}
    (h : readFile fs path acc.2 = .error f) : loadStep fs acc path = .error f := by
  simp only [loadStep, h₀, Bool.false_eq_true, if_false, h]

theorem loadStep_of_read_rejected (h₀ : acc.2.failed = false) {e : String}
    (h : readFile fs path acc.2 = .ok (.error e)) :
    loadStep fs acc path = .ok (acc.1, acc.2.withError e) := by
  simp only [loadStep, h₀, Bool.false_eq_true, if_false, h]

theorem loadStep_of_read_ok (h₀ : acc.2.failed = false) {t : Table} {r' : Report}
    (h : readFile fs path acc.2 = .ok (.ok (t, r'))) :
    loadStep fs acc path =
      .ok ({ options := acc.1.options.putAll t, sources := acc.1.sources ++ [path] }, r') := by
  simp only [loadStep, h₀, Bool.false_eq_true, if_false, h]

end Step

theorem loadFiles_eq (fs : Files.Tree) (inst : Install) (workspace : Option String) :
    loadFiles fs inst workspace =
      (configFiles fs inst workspace).foldlM (loadStep fs) ({}, {}) := by
  unfold loadFiles
  congr 1
  funext acc path
  obtain ⟨loaded, r⟩ := acc
  unfold loadStep
  by_cases hf : r.failed = true
  · simp [hf]
  · simp only [hf, Bool.false_eq_true, if_false]
    cases readFile fs path r with
    | error f => rfl
    | ok res => rcases res with e | ⟨t, r'⟩ <;> rfl

theorem loadStep_typed {fs : Files.Tree} {acc acc' : Loaded × Report} {path : String}
    (h : loadStep fs acc path = .ok acc') (hk : acc.1.options.Keyed)
    (ht : acc.1.options.Typed) : acc'.1.options.Keyed ∧ acc'.1.options.Typed := by
  unfold loadStep at h
  split at h
  · cases h
    exact ⟨hk, ht⟩
  · split at h
    · cases h
    · cases h
      exact ⟨hk, ht⟩
    case h_3 t r' hread =>
      cases h
      obtain ⟨hkt, htt, -⟩ := readFile_typed hread
      exact ⟨hk.putAll t, ht.putAll htt hkt⟩

/-- The settings of all the configuration files together are typed, each key once. -/
theorem loadFiles_typed {fs : Files.Tree} {inst : Install} {workspace : Option String}
    {loaded : Loaded} {r : Report} (h : loadFiles fs inst workspace = .ok (loaded, r)) :
    loaded.options.Keyed ∧ loaded.options.Typed := by
  rw [loadFiles_eq] at h
  -- Each file's turn keeps the settings gathered so far typed.
  suffices ∀ (paths : List String) (acc res : Loaded × Report), acc.1.options.Keyed →
      acc.1.options.Typed → paths.foldlM (loadStep fs) acc = .ok res →
      res.1.options.Keyed ∧ res.1.options.Typed from
    this _ _ _ Table.keyed_empty Table.typed_empty h
  intro paths
  induction paths with
  | nil =>
    intro acc res hk ht hrun
    cases hrun
    exact ⟨hk, ht⟩
  | cons p ps ih =>
    intro acc res hk ht hrun
    rw [List.foldlM_cons] at hrun
    cases hstep : loadStep fs acc p with
    | error f => simp [hstep] at hrun
    | ok acc' =>
      rw [hstep] at hrun
      obtain ⟨hk', ht'⟩ := loadStep_typed hstep hk ht
      exact ih acc' res hk' ht' hrun

end Config

end Preflight
