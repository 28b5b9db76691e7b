import Preflight.Version

/-!
# The order of versions

`Version.compare` ranks two versions by the first of six keys that differs: epoch, release
without trailing zeros, pre-release, post-release, development release, local label. Each key
has a total order of its own (a bound below or above every value stands for a part that is
missing), so the ranking is a total preorder: swapping the versions swaps the outcome and it
is transitive (`Version.transCmp`). Versions written differently may rank equal (`1.0` and
`1.0.0`).

The greatest of some versions is then one of them with none ranking above it
(`greatest?_spec`), the first such when several rank equal.
-/

set_option autoImplicit false

namespace Preflight.Version

open Std (TransCmp OrientedCmp)

/-- Comparing by a key: two values rank as their keys do. -/
def byKey {α β : Type} (cmp : β → β → Ordering) (k : α → β) (a b : α) : Ordering := cmp (k a) (k b)

instance byKey.transCmp {α β : Type} {cmp : β → β → Ordering} [TransCmp cmp] (k : α → β) :
    TransCmp (byKey cmp k) where
  eq_swap {a b} := @OrientedCmp.eq_swap _ cmp _ (k a) (k b)
  isLE_trans {a b c} := @TransCmp.isLE_trans _ cmp _ (k a) (k b) (k c)

/-- Lists compared element by element are the lexicographic order of the standard library. -/
theorem compareLists_eq {α : Type} (cmp : α → α → Ordering) : compareLists cmp = List.compareLex cmp := by
  funext as bs
  induction as generalizing bs with
  | nil => cases bs <;> rfl
  | cons a as ih =>
    cases bs with
    | nil => rfl
    | cons b bs =>
      rw [compareLists, List.compareLex_cons_cons, ← ih]
      cases cmp a b <;> rfl

/-- A bound below or above every value keeps the order of the values. -/
instance Bounded.transCmp {α : Type} {cmp : α → α → Ordering} [TransCmp cmp] :
    TransCmp (Bounded.compareWith cmp) where
  eq_swap {a b} := by
    cases a <;> cases b <;> first | rfl | exact @OrientedCmp.eq_swap _ cmp _ _ _
  isLE_trans {a b c} hab hbc := by
    cases a <;> cases b <;> cases c <;> simp_all [Bounded.compareWith]
    exact TransCmp.isLE_trans hab hbc

/-- Local label parts: words, by their text, before numbers, by value. -/
instance LocalPart.transCmp : TransCmp LocalPart.compare where
  eq_swap {a b} := by
    cases a <;> cases b
    case num.num a b => exact @OrientedCmp.eq_swap _ (Ord.compare : Nat → Nat → Ordering) _ a b
    case word.word a b => exact @OrientedCmp.eq_swap _ (Ord.compare : String → String → Ordering) _ a b
    all_goals rfl
  isLE_trans {a b c} hab hbc := by
    cases a <;> cases b <;> cases c <;> simp_all [LocalPart.compare]
    · exact @TransCmp.isLE_trans _ (Ord.compare : Nat → Nat → Ordering) _ _ _ _ hab hbc
    · exact @TransCmp.isLE_trans _ (Ord.compare : String → String → Ordering) _ _ _ _ hab hbc

/-- The first comparison that is not a tie decides, as `Ordering.then` chains them. -/
theorem find?_ne_eq_getD (os : List Ordering) :
    (os.find? (· != .eq)).getD .eq = os.foldr Ordering.then .eq := by
  induction os with
  | nil => rfl
  | cons o os ih => cases o <;> simp [Ordering.then, ih]

/-- Versions in order: epoch, release without trailing zeros, pre-release, post-release,
development release and local label, the first that differs deciding. -/
def order : Version → Version → Ordering :=
  compareLex (byKey Ord.compare epoch) <|
  compareLex (byKey (List.compareLex Ord.compare) trimmedRelease) <|
  compareLex (byKey (Bounded.compareWith
    (compareLex (byKey Ord.compare Prod.fst) (byKey Ord.compare Prod.snd))) preKey) <|
  compareLex (byKey (Bounded.compareWith Ord.compare) fun v => v.post.elim .below .at) <|
  compareLex (byKey (Bounded.compareWith Ord.compare) fun v => v.dev.elim .above .at) <|
  byKey (Bounded.compareWith (List.compareLex LocalPart.compare)) fun v => v.localLabel.elim .below .at

instance : TransCmp order := by
  unfold order
  infer_instance

/-- The comparison of versions is the lexicographic order of its keys. -/
theorem compare_eq_order : compare = order := by
  funext a b
  unfold compare order
  rw [find?_ne_eq_getD]
  simp only [compareLex, byKey, compareLists_eq, List.foldr_cons, List.foldr_nil, Ordering.then_eq]
  rfl

/-- Versions are in a total preorder. -/
instance transCmp : TransCmp compare := compare_eq_order ▸ inferInstance

/-! ## The greatest version -/

/-- One step of the search for the greatest: a later version replaces the best so far only
when it comes after it. -/
def keepGreater (best w : Version) : Version := if compare w best == .gt then w else best

theorem keepGreater_isLE (best w : Version) :
    (compare best (keepGreater best w)).isLE ∧ (compare w (keepGreater best w)).isLE := by
  unfold keepGreater
  split
  · rename_i h
    have hlt : compare best w = .lt := OrientedCmp.gt_iff_lt.1 (by simpa using h)
    exact ⟨by simp [hlt], by simp [Std.ReflCmp.compare_self]⟩
  · rename_i h
    refine ⟨by simp [Std.ReflCmp.compare_self], ?_⟩
    cases hw : compare w best <;> simp_all

/-- The search ends on the first version or a later one, and no version it saw comes after
where it ends. The induction carries the best so far. -/
theorem foldl_keepGreater : ∀ (vs : List Version) (best : Version),
    (vs.foldl keepGreater best = best ∨ vs.foldl keepGreater best ∈ vs) ∧
      (compare best (vs.foldl keepGreater best)).isLE ∧
      ∀ w ∈ vs, (compare w (vs.foldl keepGreater best)).isLE
  | [], best => ⟨.inl rfl, by simp [Std.ReflCmp.compare_self], fun _ h => nomatch h⟩
  | w :: ws, best => by
    obtain ⟨hmem, hbest, hall⟩ := foldl_keepGreater ws (keepGreater best w)
    obtain ⟨hb, hw⟩ := keepGreater_isLE best w
    rw [List.foldl_cons]
    refine ⟨?_, TransCmp.isLE_trans hb hbest, ?_⟩
    · rcases hmem with h | h
      · rw [h]
        unfold keepGreater
        split
        · exact .inr List.mem_cons_self
        · exact .inl rfl
      · exact .inr (List.mem_cons_of_mem w h)
    · intro u hu
      rcases List.mem_cons.1 hu with rfl | hu
      · exact TransCmp.isLE_trans hw hbest
      · exact hall u hu

/-- The greatest of some versions is one of them, and none of them comes after it. -/
theorem greatest?_spec {vs : List Version} {g : Version} (h : greatest? vs = some g) :
    g ∈ vs ∧ ∀ w ∈ vs, (compare w g).isLE := by
  cases vs with
  | nil => cases h
  | cons v vs =>
    have hfold : vs.foldl (fun best w => if compare w best == .gt then w else best) v =
        vs.foldl keepGreater v := rfl
    simp only [greatest?, hfold, Option.some.injEq] at h
    subst h
    obtain ⟨hmem, hv, hall⟩ := foldl_keepGreater vs v
    refine ⟨?_, fun w hw => ?_⟩
    · rcases hmem with h | h
      · rw [h]
        exact List.mem_cons_self
      · exact List.mem_cons_of_mem v h
    · rcases List.mem_cons.1 hw with rfl | hw
      · exact hv
      · exact hall w hw

theorem greatest?_eq_none {vs : List Version} : greatest? vs = none ↔ vs = [] := by
  cases vs <;> simp [greatest?]

end Preflight.Version
