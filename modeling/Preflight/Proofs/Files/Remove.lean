import Preflight.Proofs.Files.Change
import Preflight.Proofs.Files.Run

/-!
# Removing files

Removing a file of a proper tree takes its entry out and nothing else (`Proper.unlink_of_file`);
removing a directory fails and changes nothing (`unlink_of_dir`). The entries taken out by a
sequence of removals are said by `Tree.without`: every other path holds what it held
(`find?_without`), and a tree without some of its files is still proper (`Proper.without`).
-/

set_option autoImplicit false

namespace Preflight.Files

namespace Tree

/-- The tree without the entries at some absolute paths. -/
def without (t : Tree) (xs : List (List String)) : Tree :=
  { t with entries := t.entries.filter (fun e => !xs.contains e.1) }

variable {t : Tree} {p : String}

theorem find?_without (t : Tree) (xs : List (List String)) (x : List String) :
    (t.without xs).find? x = if x ∈ xs then none else t.find? x := by
  unfold without find?
  rw [List.find?_filter]
  split
  case isTrue hx =>
    -- every entry at `x` is taken out
    rw [List.find?_eq_none.2 fun e _ => by by_cases he : e.1 = x <;> simp [he, hx]]
    rfl
  case isFalse hx =>
    congr 2
    funext e
    by_cases he : e.1 = x <;> simp [he, hx]

/-- Taking out one entry of a directory leaves its other entries. -/
theorem find?_without_sibling (t : Tree) {base : List String} {m n : String} (h : m ≠ n) :
    (t.without [base ++ [n]]).find? (base ++ [m]) = t.find? (base ++ [m]) := by
  rw [find?_without, if_neg]
  simpa using h

@[simp] theorem without_cwd (t : Tree) (xs : List (List String)) : (t.without xs).cwd = t.cwd := rfl

@[simp] theorem resolve_without (t : Tree) (xs : List (List String)) (q : String) :
    (t.without xs).resolve q = t.resolve q := rfl

@[simp] theorem without_nil (t : Tree) : t.without [] = t := by
  simp [without]

theorem without_without (t : Tree) (xs ys : List (List String)) :
    (t.without xs).without ys = t.without (xs ++ ys) := by
  simp only [without, List.filter_filter, List.contains_append, Bool.not_or]
  congr 2
  funext e
  exact Bool.and_comm _ _

/-- A proper tree without some of its files is proper. -/
theorem Proper.without (ht : t.Proper) {xs : List (List String)}
    (hxs : ∀ x ∈ xs, t.find? x ≠ some .dir) : (t.without xs).Proper := by
  -- a directory is never taken out
  have hdir : ∀ y, t.find? y = some .dir → (t.without xs).find? y = some .dir := by
    intro y hy
    rw [find?_without, if_neg (fun hm => hxs y hm hy), hy]
  refine ⟨?_, hdir [] ht.root, hdir t.cwd ht.cwd, fun x c e h => ?_, fun x e h => ?_⟩
  · exact ht.nodup.sublist ((List.filter_sublist).map _)
  · rw [find?_without] at h
    split at h
    · cases h
    · exact hdir x (ht.parent x c e h)
  · rw [find?_without] at h
    split at h
    · cases h
    · exact ht.names x e h

/-- Removing a file of a proper tree takes out its entry. -/
theorem Proper.unlink_of_file (ht : t.Proper) (hp : isPlain p = true) {bs : List UInt8}
    (h : t.find? (t.resolve p) = some (.file bs)) : t.unlink p = .ok (t.without [t.resolve p]) := by
  have hl := ht.locate_of_parent hp (ht.parent_of_find? hp h)
  simp only [unlink, hl, ht.stat_of_find? hp h, except_ok_bind, except_pure, Except.ok.injEq]
  unfold Tree.without
  congr 2
  funext e
  by_cases he : e.1 = t.resolve p <;> simp [he]

/-- A directory is not removed. -/
theorem Proper.unlink_of_dir (ht : t.Proper) (hp : isPlain p = true)
    (h : t.find? (t.resolve p) = some .dir) : t.unlink p = .error (.isDir p) := by
  have hl := ht.locate_of_parent hp (ht.parent_of_find? hp h)
  simp [unlink, hl, ht.stat_of_find? hp h]

end Tree

namespace Action

variable {t t' : Tree} {p : String}

theorem run_unlink_of_ok (h : t.unlink p = .ok t') : (unlink p).run t = (.ok ⟨⟩, t') := by
  unfold unlink
  rw [run_bind, run_get]
  simp only
  rw [run_bind, run_lift, h]
  rfl

theorem run_unlink_of_error {f : Fault} (h : t.unlink p = .error f) :
    (unlink p).run t = (.error f.toFailure, t) := by
  unfold unlink
  rw [run_bind, run_get]
  simp only
  rw [run_bind, run_lift, h]

end Action

end Preflight.Files
