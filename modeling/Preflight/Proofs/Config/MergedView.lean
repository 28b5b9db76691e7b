import Mathlib.Data.List.Induction
import Mathlib.Data.Finset.Card
import Mathlib.Data.List.Find
import Mathlib.Data.String.Basic
import Preflight.Proofs.Config.Table

/-!
# The merged view of named layers

A configuration is made from a mapping of layer names to mappings of settings. Its merged
view holds each key once: in the place where the key first appears, scanning the layers
lowest first and each in its own order, with the value and the layer of the last entry that
sets it, which is the entry of the highest layer that holds it.

The ladder: merging the entries one at a time, as each layer's overlay does, gives
`mergedView`, the description by first position and last entry (`foldl_mergeSetting`); a
configuration whose layers are settings named by texts has that view as its items
(`items_eq_mergedView`); making a configuration from named layers gives each layer its
settings, or refuses every name that is no layer (`ofNamed_get`, `ofNamed_unknown`). The main
statement, `ofNamed_merged_view`, puts them together with the typed reads.
-/

set_option autoImplicit false

namespace Preflight.Config

/-! ## Keeping the first occurrence -/

theorem eraseDups_append_singleton {α : Type} [BEq α] [LawfulBEq α] (l : List α) (a : α) :
    (l ++ [a]).eraseDups = if a ∈ l then l.eraseDups else l.eraseDups ++ [a] := by
  rw [List.eraseDups_append]
  by_cases ha : a ∈ l
  · have hnil : [a].removeAll l = [] := by simp [List.removeAll, ha]
    simp [hnil, ha]
  · have hone : [a].removeAll l = [a] := by simp [List.removeAll, ha]
    simp [hone, ha, List.eraseDups_cons]

theorem eraseDups_nodup {α : Type} [BEq α] [LawfulBEq α] (l : List α) : l.eraseDups.Nodup := by
  induction l using List.reverseRecOn with
  | nil => simp
  | append_singleton l a ih =>
    rw [eraseDups_append_singleton]
    split
    · exact ih
    case isFalse ha =>
      refine List.nodup_append.2 ⟨ih, List.nodup_singleton a, ?_⟩
      intro x hx y hy
      rw [List.mem_singleton] at hy
      subst hy
      rintro rfl
      exact ha (List.mem_eraseDups.1 hx)

/-! ## Merging settings one at a time -/

/-- Adds one entry of a layer to a merged view, as the layer's overlay does: a key already
present takes the new value and layer in its old position, a new key goes last. -/
def mergeSetting (acc : List Setting) (l : Layer) (e : Value × Value) : List Setting :=
  if acc.any (fun s => Value.sameKey s.key e.1) then
    acc.map (fun s => if Value.sameKey s.key e.1 then ⟨s.key, e.2, l⟩ else s)
  else acc ++ [⟨e.1, e.2, l⟩]

theorem overlay_eq_foldl (merged : List Setting) (l : Layer) (t : Table) :
    overlay merged l t = t.entries.foldl (fun acc e => mergeSetting acc l e) merged := rfl

/-- An entry of a layer named by a text: the layer, the key and the value. -/
structure LayerEntry where
  /-- The layer that holds the entry. -/
  layer : Layer
  /-- The key. -/
  key : String
  /-- The value. -/
  value : Value

/-- The last entry of a key among entries met in order. -/
def lastOf? (xs : List LayerEntry) (k : String) : Option LayerEntry :=
  xs.reverse.find? (·.key == k)

/-- The merged view of entries met in order: each key once, in the order of its first entry,
with the value and the layer of its last entry. -/
def mergedView (xs : List LayerEntry) : List Setting :=
  (xs.map (·.key)).eraseDups.filterMap fun k =>
    (lastOf? xs k).map fun x => ⟨.str k, x.value, x.layer⟩

theorem lastOf?_append_singleton (xs : List LayerEntry) (x : LayerEntry) (k : String) :
    lastOf? (xs ++ [x]) k = if x.key = k then some x else lastOf? xs k := by
  by_cases hk : x.key = k <;> simp [lastOf?, hk]

theorem lastOf?_isSome_iff (xs : List LayerEntry) (k : String) :
    (lastOf? xs k).isSome ↔ k ∈ xs.map (·.key) := by
  simp [lastOf?, List.find?_isSome]

/-- The keys of a merged view are those of its entries, each once, in the order of its
first entry. -/
theorem mergedView_keys (xs : List LayerEntry) :
    (mergedView xs).map (·.key) = (xs.map (·.key)).eraseDups.map .str := by
  rw [mergedView, List.map_filterMap]
  conv_rhs => rw [← List.filterMap_eq_map]
  apply List.filterMap_congr
  intro k hk
  obtain ⟨x, hx⟩ := Option.isSome_iff_exists.1
    ((lastOf?_isSome_iff xs k).2 (List.mem_eraseDups.1 hk))
  simp [hx]

theorem any_mergedView (xs : List LayerEntry) (k : String) :
    (mergedView xs).any (fun s => Value.sameKey s.key (.str k)) =
      decide (k ∈ xs.map (·.key)) := by
  have h := congrArg (fun l => l.any (fun v => Value.sameKey v (.str k))) (mergedView_keys xs)
  simp only [List.any_map, Function.comp_def] at h
  rw [h, Bool.eq_iff_iff]
  simp [List.mem_eraseDups]

theorem mergeSetting_mergedView (xs : List LayerEntry) (x : LayerEntry) :
    mergeSetting (mergedView xs) x.layer (.str x.key, x.value) = mergedView (xs ++ [x]) := by
  have hlast := lastOf?_append_singleton xs x
  unfold mergeSetting
  rw [any_mergedView]
  by_cases hmem : x.key ∈ xs.map (·.key)
  · -- The key is present: its setting takes the new value and layer where it stands.
    rw [decide_eq_true hmem, if_pos rfl]
    unfold mergedView
    rw [List.map_append, List.map_singleton, eraseDups_append_singleton, if_pos hmem, List.map_filterMap]
    apply List.filterMap_congr
    intro k _
    rw [hlast]
    by_cases hk : x.key = k
    · subst hk
      obtain ⟨y, hy⟩ := Option.isSome_iff_exists.1 ((lastOf?_isSome_iff xs x.key).2 hmem)
      simp [hy]
    · cases lastOf? xs k <;> simp [hk, Ne.symm hk]
  · -- The key is new: it goes last.
    rw [decide_eq_false hmem, if_neg Bool.false_ne_true]
    unfold mergedView
    rw [List.map_append, List.map_singleton, eraseDups_append_singleton, if_neg hmem, List.filterMap_append]
    congr 1
    · apply List.filterMap_congr
      intro k hk
      have hne : x.key ≠ k := fun h => hmem (h ▸ List.mem_eraseDups.1 hk)
      rw [hlast, if_neg hne]
    · simp [hlast]

/-- Merging entries one at a time gives their merged view. -/
theorem foldl_mergeSetting (xs : List LayerEntry) :
    xs.foldl (fun acc x => mergeSetting acc x.layer (.str x.key, x.value)) [] = mergedView xs := by
  induction xs using List.reverseRecOn with
  | nil => rfl
  | append_singleton xs x ih => rw [List.foldl_append, ih, List.foldl_cons, List.foldl_nil,
      mergeSetting_mergedView]

theorem find?_beq_self {α : Type} [BEq α] [LawfulBEq α] (l : List α) (a : α) :
    l.find? (· == a) = if a ∈ l then some a else none := by
  induction l with
  | nil => simp
  | cons b l ih =>
    by_cases h : b = a
    · simp [h]
    · simp [h, Ne.symm h, ih]

/-- The setting of a text key in a merged view: the value and the layer of its last entry. -/
theorem find?_mergedView (xs : List LayerEntry) (k : String) :
    (mergedView xs).find? (fun s => Value.sameKey s.key (.str k)) =
      (lastOf? xs k).map fun x => ⟨.str k, x.value, x.layer⟩ := by
  rw [mergedView, List.find?_filterMap]
  -- Every key of the view has a last entry, so a key is found exactly when it is `k`.
  have hpred : ∀ k' ∈ (xs.map (·.key)).eraseDups,
      ((lastOf? xs k').map fun x => (⟨.str k', x.value, x.layer⟩ : Setting)).any
        (fun s => Value.sameKey s.key (.str k)) = (k' == k) := by
    intro k' hk'
    obtain ⟨y, hy⟩ := Option.isSome_iff_exists.1
      ((lastOf?_isSome_iff xs k').2 (List.mem_eraseDups.1 hk'))
    simp [hy]
  rw [List.find?_congr hpred, find?_beq_self]
  by_cases hk : k ∈ xs.map (·.key)
  · rw [if_pos (List.mem_eraseDups.2 hk)]
    rfl
  · have hnone : lastOf? xs k = none := by
      rw [← Option.not_isSome_iff_eq_none, lastOf?_isSome_iff]
      exact hk
    rw [if_neg (mt List.mem_eraseDups.1 hk), hnone]
    rfl

/-! ## Configurations of layers named by texts -/

/-- A setting named by a text, as an entry of a mapping. -/
def textEntry (e : String × Value) : Value × Value := (.str e.1, e.2)

/-- The entries of layers of settings named by texts, in the order a configuration reads
them: the layers lowest first, each in its own order. -/
def layerEntries (es : Layer → List (String × Value)) : List LayerEntry :=
  Layer.order.flatMap fun l => (es l).map fun e => ⟨l, e.1, e.2⟩

/-- The merged view of layers of settings named by texts. -/
theorem items_eq_mergedView {c : Config} {es : Layer → List (String × Value)}
    (hc : ∀ l, c.layers.get l = ⟨(es l).map textEntry⟩) :
    c.items = mergedView (layerEntries es) := by
  rw [← foldl_mergeSetting, layerEntries, List.foldl_flatMap, items]
  congr 1
  funext acc l
  rw [overlay_eq_foldl, hc, List.foldl_map, List.foldl_map]
  rfl

theorem lookup_eq_find? {β : Type} (es : List (String × β)) (k : String) :
    es.lookup k = (es.find? (·.1 == k)).map (·.2) := by
  induction es with
  | nil => rfl
  | cons e es ih =>
    obtain ⟨a, v⟩ := e
    by_cases h : a = k
    · simp [h]
    · have hka : (k == a) = false := beq_false_of_ne (Ne.symm h)
      simp [List.lookup_cons, hka, h, ih]

theorem mem_of_lookup_eq_some {β : Type} {es : List (String × β)} {k : String} {v : β}
    (h : es.lookup k = some v) : (k, v) ∈ es := by
  rw [lookup_eq_find?] at h
  obtain ⟨e, he, rfl⟩ := Option.map_eq_some_iff.1 h
  have hk : e.1 = k := by simpa using List.find?_some he
  rw [← hk]
  exact List.mem_of_find?_eq_some he

/-- In a list whose keys are distinct, the last entry of a key is the first. -/
theorem find?_reverse_of_nodup {es : List (String × Value)} (h : (es.map (·.1)).Nodup)
    (k : String) : es.reverse.find? (·.1 == k) = es.find? (·.1 == k) := by
  induction es with
  | nil => rfl
  | cons e es ih =>
    rw [List.map_cons, List.nodup_cons] at h
    rw [List.reverse_cons, List.find?_append, ih h.2, List.find?_cons]
    by_cases he : e.1 = k
    · -- No later entry has the key of `e`.
      have hnone : es.find? (·.1 == k) = none := by
        rw [List.find?_eq_none]
        intro e' he' hk
        exact h.1 (he ▸ (beq_iff_eq.1 hk) ▸ List.mem_map_of_mem he')
      simp [he, hnone]
    · have hb : (e.1 == k) = false := beq_false_of_ne he
      simp [hb]

/-- The last entry of a key is in the highest layer that holds it, with its value there. -/
theorem lastOf?_layerEntries {es : Layer → List (String × Value)}
    (hes : ∀ l, ((es l).map (·.1)).Nodup) (k : String) :
    (lastOf? (layerEntries es) k).map (fun x => (x.layer, x.value)) =
      Layer.order.reverse.findSome? fun l => ((es l).lookup k).map (l, ·) := by
  rw [lastOf?, layerEntries, List.reverse_flatMap, List.find?_flatMap, List.map_findSome?]
  congr 1
  funext l
  have hkey : ((fun x : LayerEntry => x.key == k) ∘ fun e : String × Value =>
      (⟨l, e.1, e.2⟩ : LayerEntry)) = (·.1 == k) := rfl
  simp only [Function.comp_apply]
  rw [← List.map_reverse, List.find?_map, hkey, find?_reverse_of_nodup (hes l), lookup_eq_find?,
    Option.map_map, Option.map_map]
  rfl

section TextLayers

variable {c : Config} {es : Layer → List (String × Value)}

/-- The setting of a key: that of its last entry. -/
theorem setting?_of_texts (hc : ∀ l, c.layers.get l = ⟨(es l).map textEntry⟩) (k : String) :
    c.setting? (.str k) =
      (lastOf? (layerEntries es) k).map fun x => ⟨.str k, x.value, x.layer⟩ := by
  rw [setting?, items_eq_mergedView hc, find?_mergedView]

/-- The highest layer holding a key gives its value and source. -/
theorem setting?_top (hc : ∀ l, c.layers.get l = ⟨(es l).map textEntry⟩)
    (hes : ∀ l, ((es l).map (·.1)).Nodup) (k : String) :
    (c.setting? (.str k)).map (fun s => (s.layer, s.value)) =
      Layer.order.reverse.findSome? fun l => ((es l).lookup k).map (l, ·) := by
  rw [setting?_of_texts hc, Option.map_map, ← lastOf?_layerEntries hes]
  rfl

theorem size_of_texts (hc : ∀ l, c.layers.get l = ⟨(es l).map textEntry⟩) :
    c.size = ((layerEntries es).map (·.key)).toFinset.card := by
  have hkeys := congrArg List.length (mergedView_keys (layerEntries es))
  rw [List.length_map, List.length_map] at hkeys
  have hset : ((layerEntries es).map (·.key)).eraseDups.toFinset =
      ((layerEntries es).map (·.key)).toFinset := by
    ext k
    simp [List.mem_eraseDups]
  rw [size, items_eq_mergedView hc, hkeys, ← hset, List.toFinset_card_of_nodup (eraseDups_nodup _)]

end TextLayers

/-- A typed read gives the default exactly when the key is missing or null. -/
theorem getOr_str (c : Config) (k : String) {α : Type} (d : α)
    (read : Value → Except ConfigFault α) :
    c.getOr (.str k) d read = match c.find? (.str k) with
      | some .null | none => .ok d
      | some v => read v := by
  unfold getOr present?
  cases c.find? (.str k) with
  | none => rfl
  | some v => cases v <;> rfl

theorem getText_eq (c : Config) (k d : String) :
    c.getText k d = match c.find? (.str k) with
      | some .null | none => d
      | some v => v.text := by
  unfold getText present?
  cases c.find? (.str k) with
  | none => rfl
  | some v => cases v <;> rfl

/-! ## Named layers -/

/-- Layers named by texts, each with its settings named by texts: the mapping of mappings a
configuration is made from. -/
abbrev NamedLayers := List (String × List (String × Value))

namespace NamedLayers

/-- The named layers as values, each layer's settings as a mapping. -/
def toNamed (named : NamedLayers) : List (String × Value) :=
  named.map fun e => (e.1, .dict (e.2.map textEntry))

/-- The settings given to a layer: those of the first entry that names it, or none. -/
def layer (named : NamedLayers) (l : Layer) : List (String × Value) :=
  (named.lookup l.name).getD []

/-- Every setting of the named layers, in the order a configuration reads them. -/
def entries (named : NamedLayers) : List LayerEntry :=
  layerEntries named.layer

/-- The highest layer that holds a key, with the key's value there. -/
def top? (named : NamedLayers) (k : String) : Option (Layer × Value) :=
  Layer.order.reverse.findSome? fun l => ((named.layer l).lookup k).map (l, ·)

/-- Gives a layer the settings its name is given, if any. -/
def loadLayer (named : NamedLayers) (ls : Layers) (l : Layer) : Layers :=
  match named.lookup l.name with
  | some es => ls.modify l (fun _ => ⟨es.map textEntry⟩)
  | none => ls

theorem find?_toNamed (named : NamedLayers) (n : String) :
    named.toNamed.find? (fun e => e.1 == n) =
      (named.lookup n).map fun es => (n, .dict (es.map textEntry)) := by
  induction named with
  | nil => rfl
  | cons e named ih =>
    obtain ⟨a, es⟩ := e
    by_cases h : a = n
    · subst h
      simp [toNamed]
    · have han : (a == n) = false := beq_false_of_ne h
      have hna : (n == a) = false := beq_false_of_ne (Ne.symm h)
      simp only [toNamed, List.map_cons, List.find?_cons, han, List.lookup_cons, hna] at ih ⊢
      exact ih

theorem loadLayer_get_of_ne (named : NamedLayers) (ls : Layers) {l l' : Layer} (h : l' ≠ l) :
    (named.loadLayer ls l').get l = ls.get l := by
  unfold loadLayer
  split
  · rw [Layers.get_modify, if_neg h]
  · rfl

theorem loadLayer_get_self (named : NamedLayers) {ls : Layers} {l : Layer} (hl : ls.get l = {}) :
    (named.loadLayer ls l).get l = ⟨(named.layer l).map textEntry⟩ := by
  unfold loadLayer layer
  split
  case h_1 es hes => rw [Layers.get_modify, if_pos rfl, hes]; rfl
  case h_2 hnone => rw [hnone, hl]; rfl

/-- Loading the layers of a list that names each once gives each its settings. -/
theorem foldl_loadLayer_get (named : NamedLayers) {L : List Layer} (hL : L.Nodup) {ls : Layers}
    (hls : ∀ l ∈ L, ls.get l = {}) (l : Layer) :
    (L.foldl named.loadLayer ls).get l =
      if l ∈ L then ⟨(named.layer l).map textEntry⟩ else ls.get l := by
  induction L generalizing ls with
  | nil => simp
  | cons a L ih =>
    rw [List.nodup_cons] at hL
    -- Loading `a` leaves the layers still to come empty.
    have hrest : ∀ l' ∈ L, (named.loadLayer ls a).get l' = {} := fun l' hl' => by
      have hne : a ≠ l' := by
        rintro rfl
        exact hL.1 hl'
      rw [loadLayer_get_of_ne named ls hne, hls l' (List.mem_cons_of_mem a hl')]
    rw [List.foldl_cons, ih hL.2 hrest]
    by_cases hlL : l ∈ L
    · simp [hlL]
    · by_cases hla : l = a
      · subst hla
        simp [hlL, loadLayer_get_self named (hls l List.mem_cons_self)]
      · simp [hlL, hla, loadLayer_get_of_ne named ls (Ne.symm hla)]

theorem layer_nodup {named : NamedLayers} (hkeys : ∀ e ∈ named, (e.2.map (·.1)).Nodup)
    (l : Layer) : ((named.layer l).map (·.1)).Nodup := by
  unfold NamedLayers.layer
  cases hl : named.lookup l.name with
  | none => exact List.nodup_nil
  | some es => exact hkeys _ (mem_of_lookup_eq_some hl)

end NamedLayers

/-! ## Making a configuration from named layers -/

theorem mem_insertSorted {s b : String} {l : List String} :
    b ∈ insertSorted s l ↔ b = s ∨ b ∈ l := by
  induction l with
  | nil => simp [insertSorted]
  | cons x xs ih =>
    unfold insertSorted
    by_cases hsx : s = x
    · subst hsx
      simp
    · rw [if_neg (by simpa using hsx)]
      by_cases hlt : s < x
      · rw [if_pos hlt]
        simp
      · rw [if_neg hlt, List.mem_cons, List.mem_cons, ih]
        exact or_left_comm

theorem pairwise_insertSorted (s : String) {l : List String} (h : l.Pairwise (· < ·)) :
    (insertSorted s l).Pairwise (· < ·) := by
  induction l with
  | nil => simp [insertSorted]
  | cons x xs ih =>
    have hx := List.pairwise_cons.1 h
    unfold insertSorted
    by_cases hsx : s = x
    · rw [if_pos (beq_iff_eq.2 hsx)]
      exact h
    · rw [if_neg (by simpa using hsx)]
      by_cases hlt : s < x
      · rw [if_pos hlt]
        refine List.pairwise_cons.2 ⟨fun y hy => ?_, h⟩
        rcases List.mem_cons.1 hy with rfl | hy
        · exact hlt
        · exact lt_trans hlt (hx.1 y hy)
      · rw [if_neg hlt]
        have hxs : x < s := lt_of_le_of_ne (not_lt.1 hlt) (Ne.symm hsx)
        refine List.pairwise_cons.2 ⟨fun y hy => ?_, ih hx.2⟩
        rcases mem_insertSorted.1 hy with rfl | hy
        · exact hxs
        · exact hx.1 y hy

/-- The names gathered as naming no layer stay sorted, each once. -/
theorem pairwise_foldl_unknown (named : List (String × Value)) {acc : List String}
    (hacc : acc.Pairwise (· < ·)) :
    (named.foldl (fun acc e => if (Layer.ofName? e.1).isSome then acc else insertSorted e.1 acc)
      acc).Pairwise (· < ·) := by
  induction named generalizing acc with
  | nil => exact hacc
  | cons e named ih =>
    rw [List.foldl_cons]
    apply ih
    split
    · exact hacc
    · exact pairwise_insertSorted e.1 hacc

/-- The names gathered as naming no layer are exactly those. -/
theorem mem_foldl_unknown (named : List (String × Value)) (acc : List String) (n : String) :
    n ∈ named.foldl (fun acc e => if (Layer.ofName? e.1).isSome then acc else insertSorted e.1 acc)
      acc ↔ n ∈ acc ∨ (n ∈ named.map (·.1) ∧ Layer.ofName? n = none) := by
  induction named generalizing acc with
  | nil => simp
  | cons e named ih =>
    rw [List.foldl_cons, ih, List.map_cons, List.mem_cons]
    by_cases he : (Layer.ofName? e.1).isSome
    · rw [if_pos he]
      have hne : n = e.1 → Layer.ofName? n ≠ none := fun h => h ▸ Option.isSome_iff_ne_none.1 he
      tauto
    · rw [if_neg he, mem_insertSorted]
      have hnone : Layer.ofName? e.1 = none := Option.not_isSome_iff_eq_none.1 he
      constructor
      · rintro ((rfl | h) | h)
        · exact .inr ⟨.inl rfl, hnone⟩
        · exact .inl h
        · exact .inr ⟨.inr h.1, h.2⟩
      · rintro (h | ⟨rfl | h, hn⟩)
        · exact .inl (.inr h)
        · exact .inl (.inl rfl)
        · exact .inr ⟨h, hn⟩

/-- A `for` loop in `Except` whose every turn goes on is a fold. -/
theorem forIn_eq_ok_foldl {α β ε : Type} (L : List α) (init : β)
    (f : α → β → Except ε (ForInStep β)) (g : β → α → β)
    (h : ∀ a ∈ L, ∀ b, f a b = .ok (.yield (g b a))) : forIn L init f = .ok (L.foldl g init) := by
  induction L generalizing init with
  | nil => rfl
  | cons a L ih =>
    rw [List.forIn_cons, h a List.mem_cons_self init]
    exact ih _ fun a' ha' b => h a' (List.mem_cons_of_mem a ha') b

/-- A mapping of settings named by distinct texts is a table of them, in order. -/
theorem ofValue_textEntries {es : List (String × Value)} (h : (es.map (·.1)).Nodup) :
    Table.ofValue (.dict (es.map textEntry)) = .ok ⟨es.map textEntry⟩ := by
  have hpair : ([] ++ es.map textEntry).Pairwise
      (fun a b : Value × Value => Value.sameKey a.1 b.1 = false) := by
    rw [List.nil_append, List.pairwise_map]
    exact (List.pairwise_map.1 h).imp fun hne => by simpa [textEntry] using hne
  show Except.ok ((⟨[]⟩ : Table).putList (es.map textEntry)) = _
  rw [Table.putList_of_pairwise [] _ hpair]
  rfl

/-- Named layers whose names are all layers make a configuration giving each layer its
settings. -/
theorem ofNamed_toNamed {named : NamedLayers} (hkeys : ∀ e ∈ named, (e.2.map (·.1)).Nodup)
    (hknown : ∀ e ∈ named, (Layer.ofName? e.1).isSome) :
    ofNamed named.toNamed = .ok ⟨Layer.order.foldl named.loadLayer {}⟩ := by
  unfold ofNamed
  simp only
  generalize hu : List.foldl _ [] _ = unknown
  have hnil : unknown = [] := by
    rw [← hu, List.eq_nil_iff_forall_not_mem]
    intro n hn
    rcases (mem_foldl_unknown _ [] n).1 hn with h | ⟨hn', hnone⟩
    · cases h
    · simp only [NamedLayers.toNamed, List.map_map] at hn'
      obtain ⟨e, he, rfl⟩ := List.mem_map.1 hn'
      exact Option.isSome_iff_ne_none.1 (hknown e he) hnone
  subst hnil
  rw [if_neg (by decide)]
  rw [forIn_eq_ok_foldl _ _ _ named.loadLayer]
  · rfl
  intro l _ ls
  rw [NamedLayers.find?_toNamed]
  cases hl : named.lookup l.name with
  | none =>
    simp only [Option.map_none, NamedLayers.loadLayer, hl]
    rfl
  | some es =>
    obtain ⟨e, he, hes⟩ : ∃ e ∈ named, e.2 = es :=
      ⟨_, mem_of_lookup_eq_some hl, rfl⟩
    simp only [Option.map_some, NamedLayers.loadLayer, hl, ofValue_textEntries (hes ▸ hkeys e he)]
    rfl

/-- Named layers with a name that is no layer are refused, naming every such name once, in
order. -/
theorem ofNamed_unknown (named : List (String × Value))
    (h : ∃ e ∈ named, Layer.ofName? e.1 = none) :
    ∃ ns, ofNamed named = .error (.unknownLayers ns) ∧ ns.Pairwise (· < ·) ∧
      ∀ n, n ∈ ns ↔ n ∈ named.map (·.1) ∧ Layer.ofName? n = none := by
  have hsorted := pairwise_foldl_unknown named (List.Pairwise.nil : ([] : List String).Pairwise (· < ·))
  have hmem := fun n => mem_foldl_unknown named [] n
  unfold ofNamed
  simp only
  generalize hu : List.foldl _ [] _ = unknown at hsorted hmem ⊢
  obtain ⟨e, he, hnone⟩ := h
  have hne : unknown ≠ [] := by
    intro hnil
    have := (hmem e.1).2 (.inr ⟨List.mem_map_of_mem he, hnone⟩)
    rw [hnil] at this
    cases this
  rw [if_pos (by simpa using hne)]
  refine ⟨unknown, rfl, hsorted, fun n => ?_⟩
  rw [hmem n]
  simp

/-- The configuration made from named layers that are all layers. -/
theorem ofNamed_get {named : NamedLayers} (hkeys : ∀ e ∈ named, (e.2.map (·.1)).Nodup)
    (hknown : ∀ e ∈ named, (Layer.ofName? e.1).isSome) :
    ∃ c, ofNamed named.toNamed = .ok c ∧ ∀ l, c.layers.get l = ⟨(named.layer l).map textEntry⟩ := by
  refine ⟨_, ofNamed_toNamed hkeys hknown, fun l => ?_⟩
  have horder : l ∈ Layer.order := by cases l <;> decide
  rw [NamedLayers.foldl_loadLayer_get named (by decide) (fun l _ => by cases l <;> rfl), if_pos horder]

/-- A configuration made from named layers of settings keyed by texts. A name that is no
layer is refused, and the refusal names every such name once, in order. Otherwise the
configuration holds every key of its layers once, in the order of the key's first appearance
over the layers lowest first; each key has the value and the source of the highest layer that
holds it, a null value included; and a typed read gives its default exactly when the key is
missing or null. -/
theorem ofNamed_merged_view (named : NamedLayers) (hkeys : ∀ e ∈ named, (e.2.map (·.1)).Nodup) :
    ((∃ e ∈ named, Layer.ofName? e.1 = none) →
      ∃ ns, ofNamed named.toNamed = .error (.unknownLayers ns) ∧
        (ConfigFault.unknownLayers ns).toFailure =
          ⟨.badValue, "unknown configuration layers: " ++ ", ".intercalate ns⟩ ∧
        ns.Pairwise (· < ·) ∧ ∀ n, n ∈ ns ↔ n ∈ named.map (·.1) ∧ Layer.ofName? n = none) ∧
    ((∀ e ∈ named, (Layer.ofName? e.1).isSome) →
      ∃ c, ofNamed named.toNamed = .ok c ∧
        c.items.map (·.key) = (named.entries.map (·.key)).eraseDups.map .str ∧
        c.size = (named.entries.map (·.key)).toFinset.card ∧
        ∀ k : String,
          c.get (.str k) = ((named.top? k).map (·.2)).elim (.error (.missingKey (.str k))) .ok ∧
          c.source? (.str k) = .ok ((named.top? k).map (·.1)) ∧
          ∀ (dText : String) (dBool : Bool) (dInt : Int),
            c.getText k dText = (match (named.top? k).map (·.2) with
              | some .null | none => dText
              | some v => v.text) ∧
            c.getBool k dBool = (match (named.top? k).map (·.2) with
              | some .null | none => .ok dBool
              | some v => (coerceBool v).mapError .coerce) ∧
            c.getInt k dInt = (match (named.top? k).map (·.2) with
              | some .null | none => .ok dInt
              | some v => (coerceInt v).mapError .coerce)) := by
  refine ⟨fun hunknown => ?_, fun hknown => ?_⟩
  · obtain ⟨ns, hns, hsorted, hmem⟩ := ofNamed_unknown named.toNamed
      (by simpa [NamedLayers.toNamed] using hunknown)
    refine ⟨ns, hns, rfl, hsorted, fun n => ?_⟩
    rw [hmem n]
    simp [NamedLayers.toNamed]
  · obtain ⟨c, hc, hget⟩ := ofNamed_get hkeys hknown
    -- The source and the value of a key are those of the highest layer holding it.
    have htop : ∀ k, (c.setting? (.str k)).map (fun s => (s.layer, s.value)) = named.top? k :=
      setting?_top hget (NamedLayers.layer_nodup hkeys)
    have hfind : ∀ k, c.find? (.str k) = (named.top? k).map (·.2) := by
      intro k
      rw [← htop, Option.map_map]
      rfl
    refine ⟨c, hc, ?_, size_of_texts hget, fun k => ⟨?_, ?_, fun dText dBool dInt => ⟨?_, ?_, ?_⟩⟩⟩
    · rw [items_eq_mergedView hget, mergedView_keys]
      rfl
    · unfold get
      rw [hfind]
      cases named.top? k <;> rfl
    · unfold source?
      rw [← htop, Option.map_map]
      rfl
    · rw [getText_eq, hfind]
    · rw [getBool, getOr_str, hfind]
    · rw [getInt, getOr_str, hfind]

/-- Two named layers: the file's setting of `b` overrides the default one in its place, and a
null value counts as set. -/
def sampleNamedLayers : NamedLayers :=
  [("file", [("b", .int 2), ("c", .null)]), ("defaults", [("a", .int 1), ("b", .int 1)])]

/-- The keys in the order of their first appearance: `b` keeps the place the defaults give it. -/
example : (sampleNamedLayers.entries.map (·.key)).eraseDups = ["a", "b", "c"] := by decide

theorem ofNamed_merged_view_sample :
    (∀ e ∈ sampleNamedLayers, (e.2.map (·.1)).Nodup) ∧
    ((∃ e ∈ sampleNamedLayers, Layer.ofName? e.1 = none) →
      ∃ ns, ofNamed sampleNamedLayers.toNamed = .error (.unknownLayers ns) ∧
        (ConfigFault.unknownLayers ns).toFailure =
          ⟨.badValue, "unknown configuration layers: " ++ ", ".intercalate ns⟩ ∧
        ns.Pairwise (· < ·) ∧
        ∀ n, n ∈ ns ↔ n ∈ sampleNamedLayers.map (·.1) ∧ Layer.ofName? n = none) ∧
    ((∀ e ∈ sampleNamedLayers, (Layer.ofName? e.1).isSome) →
      ∃ c, ofNamed sampleNamedLayers.toNamed = .ok c ∧
        c.items.map (·.key) = (sampleNamedLayers.entries.map (·.key)).eraseDups.map .str ∧
        c.size = (sampleNamedLayers.entries.map (·.key)).toFinset.card ∧
        ∀ k : String,
          c.get (.str k) =
            ((sampleNamedLayers.top? k).map (·.2)).elim (.error (.missingKey (.str k))) .ok ∧
          c.source? (.str k) = .ok ((sampleNamedLayers.top? k).map (·.1)) ∧
          ∀ (dText : String) (dBool : Bool) (dInt : Int),
            c.getText k dText = (match (sampleNamedLayers.top? k).map (·.2) with
              | some .null | none => dText
              | some v => v.text) ∧
            c.getBool k dBool = (match (sampleNamedLayers.top? k).map (·.2) with
              | some .null | none => .ok dBool
              | some v => (coerceBool v).mapError .coerce) ∧
            c.getInt k dInt = (match (sampleNamedLayers.top? k).map (·.2) with
              | some .null | none => .ok dInt
              | some v => (coerceInt v).mapError .coerce)) :=
  ⟨by decide, ofNamed_merged_view sampleNamedLayers (by decide)⟩

end Preflight.Config
