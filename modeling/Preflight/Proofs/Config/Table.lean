import Preflight.Config.Layers

/-!
# Settings named by texts

The settings a run reads are named by texts, and a text key is the same key only as
itself: no number, truth value or other kind of key is the same key as a text. A lookup
by a text key in a mapping or a table is therefore exact, and every way of writing
settings acts on it as a finite map does.

The main results: tables built by setting keys hold each key once (`Table.Keyed`), and such
a table set into an empty one is given back unchanged; the merged view of a configuration
is its layers set one over the other, lowest first, so a setting named by a text takes its
value from the highest layer that holds it.
-/

set_option autoImplicit false

namespace Preflight

/-! ## Text keys -/

@[simp] theorem Value.sameKey_str_right (x : Value) (s : String) :
    Value.sameKey x (.str s) = true ↔ x = .str s := by
  cases x <;> simp [Value.sameKey, Value.numeric?]

@[simp] theorem Value.sameKey_str_left (x : Value) (s : String) :
    Value.sameKey (.str s) x = true ↔ x = .str s := by
  cases x <;> simp [Value.sameKey, Value.numeric?]
  exact eq_comm

@[simp] theorem Value.sameKey_str_str (a b : String) :
    Value.sameKey (.str a) (.str b) = (a == b) :=
  Bool.eq_iff_iff.2 (by simp)

theorem Value.sameKey_str_comm (x : Value) (s : String) :
    Value.sameKey (.str s) x = Value.sameKey x (.str s) :=
  Bool.eq_iff_iff.2 (by simp)

/-! ## Mappings -/

namespace Entries

@[simp] theorem get?_nil (k : Value) : get? [] k = none := rfl

theorem get?_append (es es' : Entries) (k : Value) :
    get? (es ++ es') k = (get? es k).or (get? es' k) := by
  simp [get?, List.find?_append, Option.map_or]

/-- A text key finds nothing in a mapping that does not hold it. -/
theorem get?_str_eq_none {es : Entries} {key : String}
    (h : es.contains (.str key) = false) : get? es (.str key) = none := by
  simp only [contains, List.any_eq_false] at h
  simp only [get?, Option.map_eq_none_iff, List.find?_eq_none]
  exact fun e he => by simpa using h e he

theorem mem_of_get?_str {es : Entries} {key : String} {v : Value}
    (h : get? es (.str key) = some v) : (.str key, v) ∈ es := by
  obtain ⟨e, he, rfl⟩ := Option.map_eq_some_iff.1 h
  have hkey : e.1 = .str key := by simpa using List.find?_some he
  have hmem := List.mem_of_find?_eq_some he
  rwa [← hkey]

/-- Storing a value changes the lookup of one text key only. -/
theorem get?_insert_str (es : Entries) (k v : Value) (key : String) :
    get? (insert es k v) (.str key) =
      if Value.sameKey k (.str key) then some v else get? es (.str key) := by
  unfold insert
  split
  case isTrue hin =>
    -- The entries keep their keys, so the lookup finds the same entry as before.
    have hkeys : ((fun e : Value × Value => Value.sameKey e.1 (.str key)) ∘
        (fun e => if Value.sameKey e.1 k then (e.1, v) else e)) =
        (fun e => Value.sameKey e.1 (.str key)) := by
      funext e
      simp only [Function.comp_apply]
      split <;> rfl
    simp only [get?, List.find?_map, hkeys, Option.map_map]
    cases hf : es.find? (fun e => Value.sameKey e.1 (.str key)) with
    | none =>
      have hk : Value.sameKey k (.str key) = false := by
        rw [Bool.eq_false_iff]
        intro hk
        rw [Value.sameKey_str_right] at hk
        subst hk
        obtain ⟨e, he, hek⟩ := List.any_eq_true.1 hin
        exact absurd (List.find?_eq_none.1 hf e he) (by simpa using hek)
      simp [hk]
    | some e =>
      have he : e.1 = .str key := by simpa using List.find?_some hf
      simp only [Option.map_some, Function.comp_apply, he, Value.sameKey_str_comm]
      split <;> rfl
  case isFalse hout =>
    rw [get?_append]
    by_cases hk : Value.sameKey k (.str key) = true
    · rw [Value.sameKey_str_right] at hk
      subst hk
      rw [get?_str_eq_none (Bool.eq_false_iff.2 hout)]
      simp [get?]
    · simp [hk, get?]

/-- Removing an entry changes the lookup of one text key only. -/
theorem get?_erase_str (es : Entries) (k : Value) (key : String) :
    get? (erase es k) (.str key) =
      if Value.sameKey k (.str key) then none else get? es (.str key) := by
  unfold erase get?
  rw [List.find?_filter]
  split
  case isTrue hk =>
    rw [Value.sameKey_str_right] at hk
    subst hk
    simp
  case isFalse hk =>
    -- An entry under the text key is not under `k`, so the filter keeps it.
    congr 2
    funext e
    by_cases he : Value.sameKey e.1 (.str key) = true
    · rw [Value.sameKey_str_right] at he
      rw [he, Value.sameKey_str_comm]
      simp [hk]
    · simp [he]

/-- Storing the values of a list one after the other: the last one stored under a text key
is the one found. -/
theorem get?_foldl_insert_str {β : Type} (xs : List β) (f g : β → Value) (es : Entries)
    (key : String) :
    get? (xs.foldl (fun acc x => insert acc (f x) (g x)) es) (.str key) =
      ((xs.reverse.find? (fun x => Value.sameKey (f x) (.str key))).map g).or
        (get? es (.str key)) := by
  induction xs generalizing es with
  | nil => simp
  | cons x xs ih =>
    rw [List.foldl_cons, ih, get?_insert_str, List.reverse_cons, List.find?_append]
    by_cases hx : Value.sameKey (f x) (.str key) = true
    · simp [hx]
    · simp [hx]

end Entries

/-! ## Tables -/

namespace Config.Table

@[simp] theorem find?_empty (k : Value) : ({} : Table).find? k = none := rfl

theorem find?_put_str (t : Table) (k v : Value) (key : String) :
    (t.put k v).find? (.str key) =
      if Value.sameKey k (.str key) then some v else t.find? (.str key) :=
  Entries.get?_insert_str t.entries k v key

@[simp] theorem find?_putText (t : Table) (k key : String) (v : Value) :
    (t.putText k v).find? (.str key) = if k = key then some v else t.find? (.str key) := by
  simp [putText, find?_put_str]

@[simp] theorem find?_remove_str (t : Table) (k : Value) (key : String) :
    (t.remove k).find? (.str key) =
      if Value.sameKey k (.str key) then none else t.find? (.str key) :=
  Entries.get?_erase_str t.entries k key

theorem putList_entries (t : Table) (u : Entries) :
    (t.putList u).entries = u.foldl (fun es e => Entries.insert es e.1 e.2) t.entries := by
  induction u generalizing t with
  | nil => rfl
  | cons e u ih => exact ih (t.put e.1 e.2)

/-- Setting a list of settings: the last value under a text key wins over the table's. -/
theorem find?_putList_str (t : Table) (u : Entries) (key : String) :
    (t.putList u).find? (.str key) =
      ((u.reverse.find? (fun e => Value.sameKey e.1 (.str key))).map (·.2)).or
        (t.find? (.str key)) := by
  rw [find?, putList_entries]
  exact Entries.get?_foldl_insert_str u (·.1) (·.2) t.entries key

/-! ### Tables that hold each key once -/

/-- A table holds each key once: no two of its entries have the same key. -/
def Keyed (t : Table) : Prop :=
  t.entries.Pairwise (fun a b => Value.sameKey a.1 b.1 = false)

theorem keyed_empty : ({} : Table).Keyed := List.Pairwise.nil

theorem Keyed.put {t : Table} (ht : t.Keyed) (k v : Value) : (t.put k v).Keyed := by
  unfold Keyed Table.put Entries.insert
  split
  · -- Values change and keys stay, so the keys are as distinct as before.
    refine List.pairwise_map.2 (ht.imp ?_)
    intro a b hab
    split <;> split <;> exact hab
  case isFalse hout =>
    refine List.pairwise_append.2 ⟨ht, List.pairwise_singleton _ _, ?_⟩
    intro a ha b hb
    rw [List.mem_singleton] at hb
    subst hb
    simp only [Entries.contains, List.any_eq_true, not_exists, not_and] at hout
    simpa using hout a ha

theorem Keyed.putList {t : Table} (ht : t.Keyed) (u : Entries) : (t.putList u).Keyed := by
  induction u generalizing t with
  | nil => exact ht
  | cons e u ih => exact ih (ht.put e.1 e.2)

theorem Keyed.putAll {t : Table} (ht : t.Keyed) (u : Table) : (t.putAll u).Keyed :=
  ht.putList u.entries

theorem Keyed.putText {t : Table} (ht : t.Keyed) (k : String) (v : Value) :
    (t.putText k v).Keyed :=
  ht.put (.str k) v

theorem Keyed.remove {t : Table} (ht : t.Keyed) (k : Value) : (t.remove k).Keyed :=
  List.Pairwise.filter _ ht

theorem keyed_ofTexts (u : List (String × Value)) : (Table.ofTexts u).Keyed := by
  unfold ofTexts
  suffices ∀ t : Table, t.Keyed → (u.foldl (fun acc e => acc.putText e.1 e.2) t).Keyed from
    this empty keyed_empty
  induction u with
  | nil => exact fun t ht => ht
  | cons e u ih => exact fun t ht => ih _ (ht.putText e.1 e.2)

/-- Storing the values of a list one after the other keeps each key once. -/
theorem keyed_foldl_insert {β : Type} (xs : List β) (f g : β → Value) {es : Entries}
    (h : (⟨es⟩ : Table).Keyed) :
    (⟨xs.foldl (fun acc x => Entries.insert acc (f x) (g x)) es⟩ : Table).Keyed := by
  induction xs generalizing es with
  | nil => exact h
  | cons x xs ih => exact ih (h.put (f x) (g x))

/-- Setting keys that are new, one after the other, appends them in order. -/
theorem putList_of_pairwise (acc u : Entries)
    (h : (acc ++ u).Pairwise (fun a b => Value.sameKey a.1 b.1 = false)) :
    (⟨acc⟩ : Table).putList u = ⟨acc ++ u⟩ := by
  induction u generalizing acc with
  | nil => simp [putList]
  | cons e u ih =>
    have hnew : Entries.contains acc e.1 = false := by
      simp only [Entries.contains, List.any_eq_false]
      intro a ha
      have := List.pairwise_append.1 h |>.2.2 a ha e List.mem_cons_self
      simp [this]
    have hput : (⟨acc⟩ : Table).put e.1 e.2 = ⟨acc ++ [e]⟩ := by
      simp [put, Entries.insert, hnew]
    show ((⟨acc⟩ : Table).put e.1 e.2).putList u = _
    rw [hput, ih (acc ++ [e]) (by simpa using h)]
    simp

/-- A table that holds each key once, set into an empty table, is given back. -/
theorem Keyed.empty_putAll {u : Table} (hu : u.Keyed) : ({} : Table).putAll u = u :=
  putList_of_pairwise [] u.entries hu

/-- In a table that holds each key once, the first entry under a text key is the last. -/
theorem Keyed.find?_reverse {u : Table} (hu : u.Keyed) (key : String) :
    u.entries.reverse.find? (fun e => Value.sameKey e.1 (.str key)) =
      u.entries.find? (fun e => Value.sameKey e.1 (.str key)) := by
  obtain ⟨es⟩ := u
  unfold Keyed at hu
  induction es with
  | nil => rfl
  | cons e es ih =>
    rw [List.reverse_cons, List.find?_append, ih (List.pairwise_cons.1 hu).2, List.find?_cons]
    by_cases he : Value.sameKey e.1 (.str key) = true
    · -- No later entry has the key of `e`.
      have hnone : es.find? (fun e => Value.sameKey e.1 (.str key)) = none := by
        rw [List.find?_eq_none]
        intro e' he'
        have hsep := (List.pairwise_cons.1 hu).1 e' he'
        rw [Value.sameKey_str_right] at he
        rw [he, Value.sameKey_str_comm] at hsep
        simp [hsep]
      simp [he, hnone]
    · simp [he]

/-- In a table that holds each key once, an entry under a text key is the one found. -/
theorem Keyed.find?_of_mem {t : Table} (ht : t.Keyed) {key : String} {v : Value}
    (hmem : (.str key, v) ∈ t.entries) : t.find? (.str key) = some v := by
  obtain ⟨es⟩ := t
  unfold Keyed at ht
  induction es with
  | nil => cases hmem
  | cons e es ih =>
    have hrest := List.pairwise_cons.1 ht
    simp only [find?, Entries.get?, List.find?_cons] at ih ⊢
    by_cases he : Value.sameKey e.1 (.str key) = true
    · -- `e` holds the key, so the entry is `e` itself: no later entry has its key.
      simp only [he]
      rcases List.mem_cons.1 hmem with heq | hin
      · rw [← heq]
        rfl
      · have hsep := hrest.1 _ hin
        rw [Value.sameKey_str_right] at he
        rw [he, (Value.sameKey_str_right _ _).2 rfl] at hsep
        cases hsep
    · simp only [Bool.eq_false_iff.2 he]
      rcases List.mem_cons.1 hmem with heq | hin
      · rw [← heq] at he
        simp at he
      · exact ih hrest.2 hin

/-- Setting a table that holds each key once: its value under a text key wins. -/
theorem Keyed.find?_putAll {u : Table} (hu : u.Keyed) (t : Table) (key : String) :
    (t.putAll u).find? (.str key) = (u.find? (.str key)).or (t.find? (.str key)) := by
  rw [Table.putAll, find?_putList_str, hu.find?_reverse]
  rfl

end Config.Table

/-! ## The merged view -/

namespace Config

/-- A merged view as a mapping: its keys and values. -/
def pairsOf (ss : List Setting) : Entries :=
  ss.map (fun s => (s.key, s.value))

/-- Adding a layer to a merged view sets its settings as a table does. -/
theorem pairsOf_overlay (merged : List Setting) (l : Layer) (t : Table) :
    pairsOf (overlay merged l t) = ((⟨pairsOf merged⟩ : Table).putAll t).entries := by
  rw [Table.putAll, Table.putList_entries]
  unfold overlay
  show pairsOf (t.entries.foldl _ merged) = t.entries.foldl _ (pairsOf merged)
  generalize t.entries = es
  induction es generalizing merged with
  | nil => rfl
  | cons e es ih =>
    rw [List.foldl_cons, List.foldl_cons, ih]
    congr 1
    have hany : merged.any (fun s => Value.sameKey s.key e.1) =
        Entries.contains (pairsOf merged) e.1 := by
      simp [Entries.contains, pairsOf, List.any_map, Function.comp_def]
    unfold Entries.insert
    rw [← hany]
    split
    · simp only [pairsOf, List.map_map]
      congr 1
      funext s
      simp only [Function.comp_apply]
      split <;> rfl
    · simp [pairsOf]

/-- The merged view is the layers set one over the other, lowest first. -/
theorem pairsOf_items (c : Config) :
    pairsOf c.items = ((((({} : Table).putAll c.layers.defaults).putAll c.layers.file).putAll
      c.layers.environment).putAll c.layers.resolved).entries := by
  simp only [items, Layer.order, List.foldl_cons, List.foldl_nil, pairsOf_overlay, Layers.get]
  rfl

theorem find?_eq_get? (c : Config) (k : Value) : c.find? k = Entries.get? (pairsOf c.items) k := by
  simp [find?, setting?, Entries.get?, pairsOf, List.find?_map, Option.map_map,
    Function.comp_def]

/-- The layers of a configuration each hold every key once. -/
def Keyed (c : Config) : Prop :=
  c.layers.defaults.Keyed ∧ c.layers.file.Keyed ∧ c.layers.environment.Keyed ∧
    c.layers.resolved.Keyed

/-- A setting named by a text takes its value from the highest layer that holds it. -/
theorem Keyed.find?_str {c : Config} (hc : c.Keyed) (key : String) :
    c.find? (.str key) =
      (c.layers.resolved.find? (.str key)).or ((c.layers.environment.find? (.str key)).or
        ((c.layers.file.find? (.str key)).or (c.layers.defaults.find? (.str key)))) := by
  obtain ⟨hd, hf, he, hr⟩ := hc
  rw [find?_eq_get?, pairsOf_items]
  show Table.find? _ _ = _
  rw [hr.find?_putAll, he.find?_putAll, hf.find?_putAll, hd.find?_putAll]
  simp

end Config

/-! ## Builders -/

namespace Config

theorem Layers.get_modify (ls : Layers) (l l' : Layer) (f : Table → Table) :
    (ls.modify l f).get l' = if l = l' then f (ls.get l) else ls.get l' := by
  cases l <;> cases l' <;> rfl

@[simp] theorem Builder.put_get (b : Builder) (l l' : Layer) (t : Table) :
    (b.put l t).layers.get l' = if l = l' then (b.layers.get l).putAll t else b.layers.get l' :=
  Layers.get_modify _ _ _ _

/-- The value a key would have: that of the highest layer holding it. -/
theorem Builder.peek?_eq (b : Builder) (k : Value) :
    b.peek? k = ((b.layers.get .resolved).find? k).or (((b.layers.get .environment).find? k).or
      (((b.layers.get .file).find? k).or ((b.layers.get .defaults).find? k))) := by
  simp only [peek?, Layer.order, List.reverse_cons, List.reverse_nil, List.nil_append,
    List.cons_append, List.findSome?_cons]
  cases (b.layers.get .resolved).find? k <;> cases (b.layers.get .environment).find? k <;>
    cases (b.layers.get .file).find? k <;> cases (b.layers.get .defaults).find? k <;> rfl

end Config

end Preflight
