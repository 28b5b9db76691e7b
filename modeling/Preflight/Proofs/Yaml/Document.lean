import Mathlib.Data.List.Perm.Subperm
import Preflight.Yaml.Load
import Preflight.Schema
import Preflight.Proofs.Config.Table

/-!
# The two readings of a YAML document

A loaded document is read in two ways: as one value, unfolded from its root
(`Document.value`), and place by place, the way a schema reads it (`Document.valueAt` at a
node, `Document.field?` to go under a text key). Both unfold the same graph, but with
different fuel and different sets of collections already met.

They agree where it matters. A scalar node reads as its scalar on every path with fuel
left, and nothing else reads as a text, a number or a truth value. So the value under a
text key of an unfolded mapping is the unfolding of the node that `Document.field?` finds,
as long as the unfolding has a level left.
-/

set_option autoImplicit false

namespace Preflight.Yaml

/-! ## Scalars -/

/-- What a node that is not a scalar reads as: nothing, a collection, or a collection cut
where it is met again. Never a text, a number or a truth value. -/
def Unscalar (v : Value) : Prop :=
  v = .null ∨ (∃ m, v = .cycle m) ∨ (∃ xs, v = .list xs) ∨ (∃ es, v = .dict es) ∨
    (∃ xs, v = .set xs)

theorem Unscalar.sameKey_str {v : Value} (h : Unscalar v) (s : String) :
    Value.sameKey v (.str s) = false := by
  rw [Bool.eq_false_iff]
  intro hv
  rw [Value.sameKey_str_right] at hv
  subst hv
  rcases h with h | ⟨_, h⟩ | ⟨_, h⟩ | ⟨_, h⟩ | ⟨_, h⟩ <;> cases h

theorem Unscalar.holds {v : Value} (h : Unscalar v) {k : ValueKind} (hk : k.holds v = true) :
    k = .object ∨ k = .array ∨ k = .null := by
  rcases h with rfl | ⟨_, rfl⟩ | ⟨_, rfl⟩ | ⟨_, rfl⟩ | ⟨_, rfl⟩ <;>
    cases k <;> simp_all [ValueKind.holds]

variable (b : Builder)

/-- The scalar read at a node, if it is a scalar node. -/
def scalarAt (i : Nat) : Option Scalar := b.scalars[i]?.getD none

/-- The node at an index. -/
def nodeAt (i : Nat) : Node := b.graph.nodes[i]?.getD default

theorem valueOf_of_scalar {i : Nat} {v : Scalar} (h : scalarAt b i = some v) (f : Nat)
    (seen : List Nat) : valueOf b (f + 1) seen i = v.value := by
  simp only [scalarAt] at h
  simp [valueOf, h]

/-- A node that is not a scalar node reads as nothing or a collection. -/
theorem valueOf_unscalar {i : Nat} (h : scalarAt b i = none) (f : Nat) (seen : List Nat) :
    Unscalar (valueOf b f seen i) := by
  simp only [scalarAt] at h
  cases f with
  | zero => exact .inl rfl
  | succ f =>
    simp only [valueOf, h]
    split
    · split <;> exact .inr (.inl ⟨_, rfl⟩)
    · split
      · exact .inr (.inr (.inl ⟨_, rfl⟩))
      · exact .inr (.inr (.inr (.inl ⟨_, rfl⟩)))
      · exact .inr (.inr (.inr (.inr ⟨_, rfl⟩)))
      · exact .inr (.inr (.inl ⟨_, rfl⟩))
      · exact .inr (.inr (.inl ⟨_, rfl⟩))
      · exact .inl rfl

/-- With fuel left, whether a node reads as a given text does not depend on the path. -/
theorem sameKey_valueOf_str (x : Nat) (key : String) (f f' : Nat) (seen seen' : List Nat) :
    Value.sameKey (valueOf b (f + 1) seen x) (.str key) =
      Value.sameKey (valueOf b (f' + 1) seen' x) (.str key) := by
  cases hx : scalarAt b x with
  | some v => rw [valueOf_of_scalar b hx, valueOf_of_scalar b hx]
  | none =>
    rw [(valueOf_unscalar b hx _ _).sameKey_str, (valueOf_unscalar b hx _ _).sameKey_str]

/-- A node that reads as a text, a number or a truth value reads so on every path with
fuel left. -/
theorem valueOf_of_holds {x : Nat} {k : ValueKind} {f : Nat} {seen : List Nat}
    (hk : k.holds (valueOf b (f + 1) seen x) = true) (hobj : k ≠ .object) (harr : k ≠ .array)
    (hnull : k ≠ .null) (f' : Nat) (seen' : List Nat) :
    valueOf b (f' + 1) seen' x = valueOf b (f + 1) seen x := by
  cases hx : scalarAt b x with
  | some v => rw [valueOf_of_scalar b hx, valueOf_of_scalar b hx]
  | none =>
    rcases (valueOf_unscalar b hx _ _).holds hk with h | h | h <;> contradiction

/-! ## Mappings -/

theorem mapTag_ne_empty : mapTag ≠ "" := by decide

theorem eq_mapTag_of_collectionOf? {t : String} (h : collectionOf? t = some .mapping) :
    t = mapTag := by
  by_cases hm : t = mapTag
  · exact hm
  · simp only [collectionOf?, beq_iff_eq, hm, if_false] at h
    repeat' split at h
    all_goals cases h

/-- An unfolding that gives a mapping met a mapping node for the first time, with fuel
left, and stores the unfoldings of its pairs one after the other. -/
theorem valueOf_eq_dict {f : Nat} {seen : List Nat} {i : Nat} {es : Entries}
    (h : valueOf b f seen i = .dict es) :
    ∃ f' pairs, f = f' + 1 ∧ i ∉ seen ∧ (nodeAt b i).tag = mapTag ∧
      (nodeAt b i).body = .mapping pairs ∧
      es = pairs.toList.foldl (fun acc p =>
        Entries.insert acc (valueOf b f' (i :: seen) p.1) (valueOf b f' (i :: seen) p.2)) [] := by
  cases f with
  | zero => simp [valueOf] at h
  | succ f =>
    cases hx : scalarAt b i with
    | some v =>
      rw [valueOf_of_scalar b hx] at h
      cases v <;> cases h
    | none =>
      simp only [scalarAt] at hx
      simp only [valueOf, hx] at h
      split at h
      · split at h <;> cases h
      case isFalse hseen =>
        split at h
        case h_2 pairs hc hb =>
          refine ⟨f, pairs, rfl, by simpa using hseen, eq_mapTag_of_collectionOf? hc, hb, ?_⟩
          cases h
          rfl
        all_goals cases h

/-- A mapping node is one of the document's nodes. -/
theorem lt_size_of_tag {i : Nat} (h : (nodeAt b i).tag = mapTag) : i < b.graph.nodes.size := by
  rcases Nat.lt_or_ge i b.graph.nodes.size with hi | hi
  · exact hi
  · simp only [nodeAt, Array.getElem?_eq_none hi, Option.getD_none] at h
    exact absurd h.symm mapTag_ne_empty

/-- Under a text key, an unfolded mapping holds the unfolding of the node that the
place-by-place reading finds there. -/
theorem get?_valueOf (d : Document) {f : Nat} {seen : List Nat} {i : Nat} {es : Entries}
    (h : valueOf d.built (f + 2) seen i = .dict es) (key : String) :
    Entries.get? es (.str key) = (d.field? i key).map (valueOf d.built (f + 1) (i :: seen)) := by
  obtain ⟨f', pairs, hf, -, htag, hbody, rfl⟩ := valueOf_eq_dict d.built h
  obtain rfl : f' = f + 1 := by omega
  rw [Entries.get?_foldl_insert_str]
  have hfield : d.field? i key =
      (pairs.toList.reverse.find? (fun p => Value.sameKey (d.valueAt p.1) (.str key))).map
        (·.2) := by
    simp only [nodeAt] at htag hbody
    simp [Document.field?, htag, hbody]
  have hkeys : (fun p : Nat × Nat => Value.sameKey (d.valueAt p.1) (.str key)) =
      (fun p => Value.sameKey (valueOf d.built (f + 1) (i :: seen) p.1) (.str key)) := by
    funext p
    exact sameKey_valueOf_str d.built p.1 key _ _ _ _
  rw [hfield, hkeys]
  simp [Option.map_map, Function.comp_def]

theorem keyed_of_valueOf_eq_dict {f : Nat} {seen : List Nat} {i : Nat} {es : Entries}
    (h : valueOf b f seen i = .dict es) : (⟨es⟩ : Config.Table).Keyed := by
  obtain ⟨f', pairs, -, -, -, -, rfl⟩ := valueOf_eq_dict b h
  exact Config.Table.keyed_foldl_insert _ _ _ Config.Table.keyed_empty

/-! ## Unfolding from the root -/

/-- An unfolding from the root that has met the nodes `seen`, each once, with the fuel the
document started with less one level for each. -/
def Reach (d : Document) (f : Nat) (seen : List Nat) : Prop :=
  f + seen.length = d.built.graph.nodes.size + 1 ∧ seen.Nodup ∧
    ∀ j ∈ seen, j < d.built.graph.nodes.size

theorem reach_root (d : Document) : Reach d (d.built.graph.nodes.size + 1) [] :=
  ⟨rfl, List.nodup_nil, fun _ h => by cases h⟩

/-- One level down from the root: a mapping met on the way is a node not met before, so the
fuel left covers the level below it, and under a text key it holds the unfolding of the
node the place-by-place reading finds. -/
theorem Reach.down {d : Document} {f : Nat} {seen : List Nat} (hr : Reach d f seen) {i : Nat}
    {es : Entries} (h : valueOf d.built f seen i = .dict es) :
    ∃ f', f = f' + 2 ∧ Reach d (f' + 1) (i :: seen) ∧
      ∀ key, Entries.get? es (.str key) = (d.field? i key).map (valueOf d.built (f' + 1) (i :: seen)) := by
  obtain ⟨hfuel, hnodup, hlt⟩ := hr
  obtain ⟨f1, pairs, rfl, hi, htag, -, -⟩ := valueOf_eq_dict d.built h
  have hnew : (i :: seen).Nodup := List.nodup_cons.2 ⟨hi, hnodup⟩
  have hbelow : ∀ j ∈ i :: seen, j < d.built.graph.nodes.size := by
    intro j hj
    rcases List.mem_cons.1 hj with rfl | hj
    · exact lt_size_of_tag d.built htag
    · exact hlt j hj
  -- The nodes met are distinct nodes of the document, so there are no more of them than nodes.
  have hlen : (i :: seen).length ≤ d.built.graph.nodes.size := by
    have hsub : (i :: seen).Subperm (List.range d.built.graph.nodes.size) :=
      hnew.subperm (fun j hj => List.mem_range.2 (hbelow j hj))
    simpa using hsub.length_le
  obtain ⟨f', rfl⟩ : ∃ f', f1 = f' + 1 := ⟨f1 - 1, by simp at hlen; omega⟩
  refine ⟨f', rfl, ⟨by simp at hfuel ⊢; omega, hnew, hbelow⟩, fun key => ?_⟩
  exact get?_valueOf d h key

end Preflight.Yaml
