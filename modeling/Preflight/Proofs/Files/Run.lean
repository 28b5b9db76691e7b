import Preflight.Files.Action

/-!
# Running actions

How an action on a tree of files runs, one combinator at a time: a bind runs its second part
from the tree the first left (`run_bind`), and a run that gets past a step went through it
(`run_bind_eq_ok`). Each file action runs as the tree operation it lifts, failing with that
operation's fault and leaving the tree as it was (`run_read`, `run_write`, `run_makeDirs`,
`run_list`). Filtering a list by a test that only looks at the tree filters by the test's
answers (`run_filterM`); loops and folds over a list run element by element
(`run_forM_cons`, `run_foldlM_cons`).
-/

set_option autoImplicit false

namespace Preflight.Files.Action

variable {α β : Type} {t : Tree}

@[simp] theorem run_pure (a : α) (t : Tree) : (pure a : Action α).run t = (.ok a, t) := rfl

@[simp] theorem run_throw (f : Failure) (t : Tree) : (throw f : Action α).run t = (.error f, t) := rfl

@[simp] theorem run_ofExcept (r : Except Failure α) (t : Tree) :
    (MonadExcept.ofExcept r : Action α).run t = (r, t) := by
  cases r <;> rfl

theorem run_bind (x : Action α) (f : α → Action β) (t : Tree) :
    (x >>= f).run t = match x.run t with
      | (.ok a, t') => (f a).run t'
      | (.error e, t') => (.error e, t') := by
  simp only [run, ExceptT.run_bind, StateT.run_bind]
  generalize (ExceptT.run x).run t = r
  rcases r with ⟨_ | a, t'⟩ <;> rfl

@[simp] theorem run_get (t : Tree) : (get : Action Tree).run t = (.ok t, t) := rfl

@[simp] theorem run_set (t t' : Tree) : (set t' : Action PUnit).run t = (.ok ⟨⟩, t') := rfl

@[simp] theorem run_lift (r : Except Fault α) (t : Tree) :
    (lift r).run t = (match r with | .ok x => .ok x | .error f => .error f.toFailure, t) := by
  cases r <;> rfl

theorem run_read (p : String) (t : Tree) :
    (read p).run t = (match t.read p with | .ok x => .ok x | .error f => .error f.toFailure, t) := by
  unfold read
  rw [run_bind, run_get]
  simp only
  rw [run_lift]
  cases t.read p <;> rfl

theorem run_list (p : String) (t : Tree) :
    (list p).run t = (match t.list p with | .ok x => .ok x | .error f => .error f.toFailure, t) := by
  unfold list
  rw [run_bind, run_get]
  simp only
  rw [run_lift]
  cases t.list p <;> rfl

@[simp] theorem run_isDir (p : String) (t : Tree) : (isDir p).run t = (.ok (t.isDir p), t) := rfl

@[simp] theorem run_isFile (p : String) (t : Tree) : (isFile p).run t = (.ok (t.isFile p), t) := rfl

@[simp] theorem run_exists? (p : String) (t : Tree) : (exists? p).run t = (.ok (t.exists? p), t) := rfl

theorem run_write (p : String) (bytes : List UInt8) (append : Bool) (t : Tree) :
    (write p bytes append).run t = match t.write p bytes append with
      | .ok t' => (.ok ⟨⟩, t')
      | .error f => (.error f.toFailure, t) := by
  unfold write
  rw [run_bind, run_get]
  simp only
  rw [run_bind, run_lift]
  cases t.write p bytes append <;> rfl

theorem run_makeDirs (p : String) (parents existOk : Bool) (t : Tree) :
    (makeDirs p parents existOk).run t = match t.makeDirs p parents existOk with
      | .ok t' => (.ok ⟨⟩, t')
      | .error f => (.error f.toFailure, t) := by
  unfold makeDirs
  rw [run_bind, run_get]
  simp only
  rw [run_bind, run_lift]
  cases t.makeDirs p parents existOk <;> rfl

/-- A run that goes on past a step went through it: the step succeeded, and the rest ran from
the tree it left. -/
theorem run_bind_eq_ok {x : Action α} {f : α → Action β} {b : β} {t'' : Tree}
    (h : (x >>= f).run t = (.ok b, t'')) :
    ∃ a t', x.run t = (.ok a, t') ∧ (f a).run t' = (.ok b, t'') := by
  rw [run_bind] at h
  split at h
  · exact ⟨_, _, ‹_›, h⟩
  · cases h

theorem run_bind_of_ok {x : Action α} {f : α → Action β} {a : α} {t' : Tree}
    (h : x.run t = (.ok a, t')) : (x >>= f).run t = (f a).run t' := by
  rw [run_bind, h]

private theorem run_filterAuxM {l : List α} {p : α → Action Bool} {q : α → Bool}
    (h : ∀ x ∈ l, (p x).run t = (.ok (q x), t)) (acc : List α) :
    (List.filterAuxM p l acc).run t = (.ok ((l.filter q).reverse ++ acc), t) := by
  induction l generalizing acc with
  | nil => rfl
  | cons x l ih =>
    simp only [List.filterAuxM]
    rw [run_bind_of_ok (h x List.mem_cons_self),
      ih (fun y hy => h y (List.mem_cons_of_mem _ hy))]
    cases hq : q x <;> simp [hq]

/-- Filtering by a test that only looks keeps the tree and filters by what it answers. -/
theorem run_filterM {l : List α} {p : α → Action Bool} {q : α → Bool}
    (h : ∀ x ∈ l, (p x).run t = (.ok (q x), t)) :
    (l.filterM p).run t = (.ok (l.filter q), t) := by
  unfold List.filterM
  rw [run_bind_of_ok (run_filterAuxM h [])]
  simp

theorem run_forM_cons (x : α) (l : List α) (f : α → Action PUnit) :
    ((x :: l).forM f).run t = match (f x).run t with
      | (.ok _, t') => (l.forM f).run t'
      | (.error e, t') => (.error e, t') := by
  simp only [List.forM]
  rw [run_bind]
  generalize (f x).run t = r
  rcases r with ⟨_ | _, t'⟩ <;> rfl

theorem run_foldlM_cons (f : β → α → Action β) (b : β) (x : α) (l : List α) :
    ((x :: l).foldlM f b).run t = match (f b x).run t with
      | (.ok b', t') => (l.foldlM f b').run t'
      | (.error e, t') => (.error e, t') := by
  rw [List.foldlM_cons, run_bind]

end Preflight.Files.Action
