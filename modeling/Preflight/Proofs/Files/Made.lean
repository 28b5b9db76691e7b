import Preflight.Proofs.Files.Change

/-!
# Making directories along a written path

A path is made as it is written: when a directory on the way is missing, the path's written
parent (its components but the last) is made first, then the path again. A written path may
hold `.` and `..`, and then its written prefixes lead to directories that the path itself
does not name: making `inst/logs/..` makes `inst`, then `inst/logs`, on the way to `inst`.

`MadeOn t t' way` says what such a change can do: every entry of `t` stays as it is, and
every entry `t'` adds is a directory at one of the paths of `way`. For a written path the way
is the resolution of each of its written prefixes (`Tree.wayTo`). Making one directory
(`mkdir_eq_ok_put`) and making the directories on the way to one (`makeDirs_madeOn`) change
a tree only so, whatever the tree and whatever the path holds.
-/

set_option autoImplicit false

namespace Preflight.Files.Tree

/-- The directories a written path passes through: the resolution of each of its written
prefixes, from where it starts to the path itself. -/
def wayTo (t : Tree) (p : String) : List (List String) :=
  (List.range ((components p).length + 1)).map fun k => walk (t.origin p) ((components p).take k)

/-- `t'` holds everything `t` holds, in the same working directory, and besides that only
directories at paths of `way`. -/
structure MadeOn (t t' : Tree) (way : List (List String)) : Prop where
  cwd : t'.cwd = t.cwd
  keeps : ∀ x e, t.find? x = some e → t'.find? x = some e
  made : ∀ x e, t'.find? x = some e → t.find? x = some e ∨ (e = .dir ∧ x ∈ way)

namespace MadeOn

variable {t₁ t₂ t₃ : Tree} {way way' : List (List String)}

theorem refl (t : Tree) (way : List (List String)) : MadeOn t t way :=
  ⟨rfl, fun _ _ h => h, fun _ _ h => .inl h⟩

theorem trans (h₁ : MadeOn t₁ t₂ way) (h₂ : MadeOn t₂ t₃ way) : MadeOn t₁ t₃ way := by
  refine ⟨h₂.cwd.trans h₁.cwd, fun x e hx => h₂.keeps x e (h₁.keeps x e hx), fun x e hx => ?_⟩
  rcases h₂.made x e hx with h | h
  · exact h₁.made x e h
  · exact .inr h

theorem mono (h : MadeOn t₁ t₂ way) (hway : ∀ x ∈ way, x ∈ way') : MadeOn t₁ t₂ way' := by
  refine ⟨h.cwd, h.keeps, fun x e hx => ?_⟩
  rcases h.made x e hx with h' | ⟨he, hmem⟩
  · exact .inl h'
  · exact .inr ⟨he, hway x hmem⟩

/-- A path that holds nothing still holds nothing after a change that made no directory
there. -/
theorem find?_eq_none (h : MadeOn t₁ t₂ way) {x : List String} (hx : x ∉ way)
    (hn : t₁.find? x = none) : t₂.find? x = none := by
  cases h₂ : t₂.find? x with
  | none => rfl
  | some e =>
    rcases h.made x e h₂ with h' | ⟨-, hmem⟩
    · rw [hn] at h'
      cases h'
    · exact absurd hmem hx

end MadeOn

variable {t t' : Tree} {q : String}

/-- A directory put where nothing was is a directory made on any way that holds its path. -/
theorem madeOn_put_dir {x : List String} (hn : t.find? x = none) {way : List (List String)}
    (hx : x ∈ way) : MadeOn t (t.put x .dir) way := by
  refine ⟨put_cwd t x .dir, fun y e hy => ?_, fun y e hy => ?_⟩
  · have hyx : y ≠ x := by
      rintro rfl
      rw [hn] at hy
      cases hy
    rw [find?_put, if_neg hyx]
    exact hy
  · rw [find?_put] at hy
    split at hy
    · rename_i hyx
      cases hy
      exact .inr ⟨rfl, hyx ▸ hx⟩
    · exact .inl hy

/-! ## Where a written path leads -/

theorem walk_cons (dir : List String) (c : String) (cs : List String) :
    walk dir (c :: cs) = walk (step dir c) cs := rfl

/-- Walking a written path, when it succeeds, arrives where resolving it arrives. -/
theorem locate_go_eq_walk {p : String} : ∀ {dir r : List String} {cs : List String},
    locate.go t p dir cs = .ok r → r = walk dir cs
  | dir, r, [], h => by
    simp only [locate.go, Except.ok.injEq] at h
    exact h.symm
  | dir, r, [c], h => by
    simp only [locate.go, Except.ok.injEq] at h
    exact h.symm
  | dir, r, c :: d :: rest, h => by
    simp only [locate.go] at h
    split at h
    · rw [walk_cons]
      exact locate_go_eq_walk h
    · cases h
    · cases h

theorem locate_eq_resolve {r : List String} (h : t.locate q = .ok r) : r = t.resolve q :=
  locate_go_eq_walk h

/-- Making a directory puts one where nothing was, at the path's resolution, and changes
nothing else. -/
theorem mkdir_eq_ok_put (h : t.mkdir q = .ok t') :
    t' = t.put (t.resolve q) .dir ∧ t.find? (t.resolve q) = none := by
  unfold mkdir stat at h
  cases hl : t.locate q with
  | error f => simp [hl] at h
  | ok r =>
    have hr := locate_eq_resolve hl
    subst hr
    simp only [hl, except_ok_bind, except_pure] at h
    split at h
    · cases h
    · rename_i hn
      simp only [Except.ok.injEq] at h
      exact ⟨h.symm, hn⟩

/-! ## The way to a written path -/

@[simp] theorem wayTo_put (t : Tree) (x : List String) (e : Entry) (p : String) :
    (t.put x e).wayTo p = t.wayTo p := by
  simp [wayTo, origin]

theorem resolve_mem_wayTo (t : Tree) (p : String) : t.resolve p ∈ t.wayTo p := by
  refine List.mem_map.2 ⟨(components p).length, List.mem_range.2 (Nat.lt_succ_self _), ?_⟩
  rw [List.take_length]
  rfl

/-- The way to a written parent is part of the way to the path. -/
theorem mem_wayTo_of_parentText {x : List String} (h2 : 2 ≤ (components q).length)
    (hx : x ∈ t.wayTo (parentText q)) : x ∈ t.wayTo q := by
  have horigin : t.origin (parentText q) = t.origin q := by
    simp [origin, startsWith_parentText h2]
  obtain ⟨k, hk, rfl⟩ := List.mem_map.1 hx
  rw [List.mem_range, components_parentText h2, List.length_dropLast] at hk
  refine List.mem_map.2 ⟨k, List.mem_range.2 (by omega), ?_⟩
  rw [horigin, components_parentText h2, List.dropLast_eq_take, List.take_take,
    Nat.min_eq_left (by omega)]

/-! ## Making the directories on the way -/

/-- Making the directories on the way to a written path adds directories on its way and
nothing else. The induction is on the levels of parents left to make. -/
theorem makeDirs_go_madeOn {parents : Bool} (fuel : Nat) : ∀ {t t' : Tree} {q : String}
    {existOk : Bool}, makeDirs.go parents t q existOk fuel = .ok t' → MadeOn t t' (t.wayTo q) := by
  -- the directory made at the path itself: it lies at the end of the way
  have hmade : ∀ {t t' : Tree} {q : String}, t.mkdir q = .ok t' → MadeOn t t' (t.wayTo q) := by
    intro t t' q h
    obtain ⟨rfl, hn⟩ := mkdir_eq_ok_put h
    exact madeOn_put_dir hn (resolve_mem_wayTo t q)
  induction fuel with
  | zero =>
    intro t t' q existOk h
    unfold makeDirs.go at h
    split at h
    · rename_i hm
      exact hmade (by rw [hm, h])
    · simp at h
    · split at h
      · simp only [Except.ok.injEq] at h
        exact h ▸ MadeOn.refl t _
      · cases h
  | succ fuel ih =>
    intro t t' q existOk h
    unfold makeDirs.go at h
    split at h
    · rename_i hm
      exact hmade (by rw [hm, h])
    · rename_i q' hm
      -- a missing directory on the way: the parent is made first, then the path
      have h2 := mkdir_notFound hm
      simp only [parentText_ne h2, Bool.or_false] at h
      split at h
      · cases h
      · split at h
        · cases h
        · rename_i t₂ hgo
          have hparent : MadeOn t t₂ (t.wayTo q) :=
            (ih hgo).mono fun x hx => mem_wayTo_of_parentText h2 hx
          have hway : t₂.wayTo q = t.wayTo q := by simp [wayTo, origin, hparent.cwd]
          split at h
          · rename_i t₃ hm₃
            simp only [Except.ok.injEq] at h
            subst h
            exact hparent.trans (hway ▸ hmade hm₃)
          · split at h
            · simp only [Except.ok.injEq] at h
              exact h ▸ hparent
            · cases h
    · split at h
      · simp only [Except.ok.injEq] at h
        exact h ▸ MadeOn.refl t _
      · cases h

theorem makeDirs_madeOn {p : String} {parents existOk : Bool}
    (h : t.makeDirs p parents existOk = .ok t') : MadeOn t t' (t.wayTo p) :=
  makeDirs_go_madeOn _ h

end Preflight.Files.Tree
