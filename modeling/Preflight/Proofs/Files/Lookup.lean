import Mathlib.Data.List.Nodup
import Preflight.Proofs.Files.Path

/-!
# Looking paths up in a proper tree

A tree of files as the system keeps one (`Tree.Proper`): every path is held once, the root and
the working directory are directories, the parent of every path is a directory, and every
component of a path is a name. In such a tree, a path of names is looked up by what its
absolute path holds and nothing else:

* `Proper.stat_of_find?`, `stat_eq_ok`: what a path holds, once it is held, and whatever the
  look-up answers;
* `Proper.read_eq_ok_iff`, `Proper.isDir_iff`, `Proper.isFile_iff`: a file reads as its
  bytes, and the kind of a path is the kind of its entry;
* `Proper.list_of_dir`, `list_eq_ok`: a directory lists the names one level below it, sorted.

The walk through the directories on the way never fails in a proper tree once the last of
them exists (`Proper.locate_go`), because every directory on the way to an entry is one
(`Proper.dir_of_prefix`).
-/

set_option autoImplicit false

namespace Preflight.Files

/-! ## Results that may fail -/

instance decEqExcept {ε α : Type} [DecidableEq ε] [DecidableEq α] : DecidableEq (Except ε α) :=
  fun a b =>
    match a, b with
    | .ok x, .ok y => decidable_of_iff (x = y) (by simp)
    | .error x, .error y => decidable_of_iff (x = y) (by simp)
    | .ok _, .error _ => isFalse (by simp)
    | .error _, .ok _ => isFalse (by simp)

@[simp] theorem except_ok_bind {ε α β : Type} (a : α) (f : α → Except ε β) :
    (Except.ok a >>= f) = f a := rfl

@[simp] theorem except_pure {ε α : Type} (a : α) : (pure a : Except ε α) = .ok a := rfl

@[simp] theorem except_throw {ε α : Type} (e : ε) : (throw e : Except ε α) = .error e := rfl

@[simp] theorem except_error_bind {ε α β : Type} (e : ε) (f : α → Except ε β) :
    (Except.error e >>= f) = Except.error e := rfl

end Preflight.Files

namespace Preflight.Files.Tree

theorem find?_eq_some_iff {t : Tree} (hn : (t.entries.map (·.1)).Nodup) {x : List String}
    {e : Entry} : t.find? x = some e ↔ (x, e) ∈ t.entries := by
  constructor
  · intro h
    obtain ⟨y, hy, rfl⟩ := Option.map_eq_some_iff.1 h
    have hyx : y.1 = x := by simpa using List.find?_some hy
    rw [← hyx]
    exact List.mem_of_find?_eq_some hy
  · intro hm
    cases hf : t.entries.find? (fun y => y.1 == x) with
    | none =>
      rw [List.find?_eq_none] at hf
      exact absurd (by simp) (hf _ hm)
    | some y =>
      have hy := List.mem_of_find?_eq_some hf
      have hyx : y.1 = x := by simpa using List.find?_some hf
      have : y = (x, e) := List.inj_on_of_nodup_map hn hy hm hyx
      simp [find?, hf, this]

/-- A tree as the system keeps one: every path is held once, the root and the working
directory are directories, the parent of every path is a directory, and every component
of a path is a name. -/
structure Proper (t : Tree) : Prop where
  nodup : (t.entries.map (·.1)).Nodup
  root : t.find? [] = some .dir
  cwd : t.find? t.cwd = some .dir
  parent : ∀ x c e, t.find? (x ++ [c]) = some e → t.find? x = some .dir
  names : ∀ x e, t.find? x = some e → ∀ c ∈ x, isName c = true

variable {t : Tree}

/-- Every path on the way to an entry is a directory. -/
theorem Proper.dir_of_prefix (ht : t.Proper) {x z : List String} {e : Entry}
    (h : t.find? (x ++ z) = some e) (hz : z ≠ []) : t.find? x = some .dir := by
  induction z generalizing x e with
  | nil => exact absurd rfl hz
  | cons c z ih =>
    cases z with
    | nil => exact ht.parent x c e h
    | cons d z =>
      have hc : t.find? (x ++ [c]) = some .dir :=
        ih (show t.find? ((x ++ [c]) ++ d :: z) = some e by simpa using h) (List.cons_ne_nil d z)
      exact ht.parent x c _ hc

/-- Every path on the way to a directory is one. -/
theorem Proper.dir_of_isPrefix (ht : t.Proper) {x y : List String} (hy : t.find? y = some .dir)
    (hx : x <+: y) : t.find? x = some .dir := by
  obtain ⟨z, rfl⟩ := hx
  cases z with
  | nil => simpa using hy
  | cons c z => exact ht.dir_of_prefix hy (List.cons_ne_nil c z)

/-- The directory a path starts from is one. -/
theorem Proper.origin (ht : t.Proper) (p : String) : t.find? (t.origin p) = some .dir := by
  unfold Tree.origin
  split
  · exact ht.root
  · exact ht.cwd

/-- Whether a tree is proper, computed entry by entry. -/
def wellFormed (t : Tree) : Bool :=
  decide (t.entries.map (·.1)).Nodup && t.find? [] == some .dir && t.find? t.cwd == some .dir &&
    t.entries.all (fun e => (e.1.isEmpty || t.find? e.1.dropLast == some .dir) && e.1.all isName)

theorem proper_iff_wellFormed {t : Tree} : t.Proper ↔ t.wellFormed = true := by
  simp only [wellFormed, Bool.and_eq_true, decide_eq_true_eq, beq_iff_eq, List.all_eq_true,
    Bool.or_eq_true, List.isEmpty_iff]
  constructor
  · intro ht
    refine ⟨⟨⟨ht.nodup, ht.root⟩, ht.cwd⟩, fun e he => ⟨?_, ?_⟩⟩
    · have hf := (find?_eq_some_iff ht.nodup).2 he
      rcases List.eq_nil_or_concat e.1 with h | ⟨x, c, h⟩
      · exact .inl h
      · rw [h, List.concat_eq_append] at hf ⊢
        right
        simpa using ht.parent x c e.2 hf
    · exact ht.names _ _ ((find?_eq_some_iff ht.nodup).2 he)
  · rintro ⟨⟨⟨hn, hroot⟩, hcwd⟩, hall⟩
    refine ⟨hn, hroot, hcwd, fun x c e h => ?_, fun x e h c hc => ?_⟩
    · have := (hall _ ((find?_eq_some_iff hn).1 h)).1
      simpa using this
    · exact (hall _ ((find?_eq_some_iff hn).1 h)).2 c hc

instance : DecidablePred Proper := fun _ => decidable_of_iff _ proper_iff_wellFormed.symm

deriving instance DecidableEq for Tree

/-! ## Looking up a path of names -/

theorem step_of_isName (dir : List String) {c : String} (hc : isName c = true) :
    step dir c = dir ++ [c] := by
  obtain ⟨-, -, hdot, hdots⟩ := isName_iff.1 hc
  simp [step, hdot, hdots]

/-- Walking names, when it succeeds, arrives at the path they spell. -/
theorem locate_go_eq_ok {p : String} {dir r cs : List String} (hcs : ∀ c ∈ cs, isName c = true)
    (h : locate.go t p dir cs = .ok r) : r = dir ++ cs := by
  induction cs generalizing dir with
  | nil => simpa [locate.go] using h.symm
  | cons c cs ih =>
    have hstep := step_of_isName dir (hcs c List.mem_cons_self)
    cases cs with
    | nil =>
      simp only [locate.go, hstep, Except.ok.injEq] at h
      exact h.symm
    | cons d cs =>
      simp only [locate.go, hstep] at h
      split at h
      · rw [ih (fun c hc => hcs c (List.mem_cons_of_mem _ hc)) h, List.append_assoc]
        rfl
      · cases h
      · cases h

/-- Walking names succeeds only through directories: the last directory on the way is one. -/
theorem locate_go_parent {p : String} {dir r cs : List String} (hcs : ∀ c ∈ cs, isName c = true)
    (h : locate.go t p dir cs = .ok r) (hlen : 2 ≤ cs.length) :
    t.find? (dir ++ cs.dropLast) = some .dir := by
  induction cs generalizing dir with
  | nil => simp at hlen
  | cons c cs ih =>
    cases cs with
    | nil => simp at hlen
    | cons d rest =>
      have hstep := step_of_isName dir (hcs c List.mem_cons_self)
      simp only [locate.go, hstep] at h
      split at h
      · rename_i hdir
        cases rest with
        | nil => simpa using hdir
        | cons e rest =>
          have := ih (fun c hc => hcs c (List.mem_cons_of_mem _ hc)) h (by simp)
          simpa [List.dropLast_cons_cons] using this
      · cases h
      · cases h

/-- In a proper tree, names whose last directory exists can be walked. -/
theorem Proper.locate_go (ht : t.Proper) {p : String} {dir cs : List String}
    (hcs : ∀ c ∈ cs, isName c = true) (hd : t.find? (dir ++ cs.dropLast) = some .dir) :
    locate.go t p dir cs = .ok (dir ++ cs) := by
  induction cs generalizing dir with
  | nil => simp [locate.go]
  | cons c cs ih =>
    have hstep := step_of_isName dir (hcs c List.mem_cons_self)
    cases cs with
    | nil => simp [locate.go, hstep]
    | cons d rest =>
      have hd' : t.find? ((dir ++ [c]) ++ (d :: rest).dropLast) = some .dir := by
        simpa [List.dropLast_cons_cons] using hd
      have hnext : t.find? (dir ++ [c]) = some .dir := by
        cases hdl : (d :: rest).dropLast with
        | nil => simpa [hdl] using hd'
        | cons f fs => exact ht.dir_of_prefix (by rw [hdl] at hd'; exact hd') (List.cons_ne_nil f fs)
      simp only [locate.go, hstep, hnext]
      rw [ih (fun c hc => hcs c (List.mem_cons_of_mem _ hc)) hd']
      simp

variable {p : String}

theorem locate_eq_go (t : Tree) (p : String) :
    t.locate p = locate.go t p (t.origin p) (components p) := rfl

/-- The directory a path of names lies in: where it starts, then all its components but the
last. -/
def parentOf (t : Tree) (p : String) : List String :=
  t.origin p ++ (components p).dropLast

theorem locate_eq_ok (hp : isPlain p = true) {r : List String} (h : t.locate p = .ok r) :
    r = t.resolve p := by
  rw [t.resolve_of_isPlain hp]
  exact locate_go_eq_ok (isPlain_iff.1 hp).2 h

theorem Proper.locate_of_parent (ht : t.Proper) (hp : isPlain p = true)
    (hd : t.find? (t.parentOf p) = some .dir) : t.locate p = .ok (t.resolve p) := by
  rw [t.resolve_of_isPlain hp]
  exact ht.locate_go (isPlain_iff.1 hp).2 hd

theorem Proper.parent_of_locate (ht : t.Proper) (hp : isPlain p = true) {r : List String}
    (h : t.locate p = .ok r) : t.find? (t.parentOf p) = some .dir := by
  unfold parentOf
  by_cases hlen : 2 ≤ (components p).length
  · exact locate_go_parent (isPlain_iff.1 hp).2 h hlen
  · have : (components p).dropLast = [] := by
      rw [← List.length_eq_zero_iff, List.length_dropLast]
      omega
    simpa [this] using ht.origin p

/-- Whatever a path of names holds, it lies in a directory. -/
theorem Proper.parent_of_find? (ht : t.Proper) (hp : isPlain p = true) {e : Entry}
    (h : t.find? (t.resolve p) = some e) : t.find? (t.parentOf p) = some .dir := by
  unfold parentOf
  rw [t.resolve_of_isPlain hp] at h
  rcases List.eq_nil_or_concat (components p) with hcs | ⟨cs, c, hcs⟩
  · simpa [hcs] using ht.origin p
  · rw [hcs, List.concat_eq_append, ← List.append_assoc] at h
    simpa [hcs] using ht.parent _ c e h

theorem stat_eq_ok (hp : isPlain p = true) {r : Option Entry} (h : t.stat p = .ok r) :
    r = t.find? (t.resolve p) := by
  unfold stat at h
  cases hl : t.locate p with
  | error f => simp [hl] at h
  | ok abs =>
    simp [hl] at h
    rw [← h, locate_eq_ok hp hl]

theorem Proper.stat_of_parent (ht : t.Proper) (hp : isPlain p = true)
    (hd : t.find? (t.parentOf p) = some .dir) : t.stat p = .ok (t.find? (t.resolve p)) := by
  simp [stat, ht.locate_of_parent hp hd]

theorem Proper.stat_of_find? (ht : t.Proper) (hp : isPlain p = true) {e : Entry}
    (h : t.find? (t.resolve p) = some e) : t.stat p = .ok (some e) := by
  rw [ht.stat_of_parent hp (ht.parent_of_find? hp h), h]

/-- A file of a proper tree reads as the bytes it holds, and only a file reads. -/
theorem Proper.read_eq_ok_iff (ht : t.Proper) (hp : isPlain p = true) {bs : List UInt8} :
    t.read p = .ok bs ↔ t.find? (t.resolve p) = some (.file bs) := by
  constructor
  · intro h
    unfold read at h
    cases hs : t.stat p with
    | error f => simp [hs] at h
    | ok r =>
      rw [← stat_eq_ok hp hs]
      simp only [hs, except_ok_bind] at h
      split at h <;> simp_all
  · intro h
    simp [read, ht.stat_of_find? hp h]

theorem Proper.isDir_iff (ht : t.Proper) (hp : isPlain p = true) :
    t.isDir p = true ↔ t.find? (t.resolve p) = some .dir := by
  constructor
  · intro h
    unfold isDir at h
    split at h
    · rename_i hs
      exact (stat_eq_ok hp hs).symm
    · cases h
  · intro h
    simp [isDir, ht.stat_of_find? hp h]

theorem Proper.isFile_iff (ht : t.Proper) (hp : isPlain p = true) :
    t.isFile p = true ↔ ∃ bs, t.find? (t.resolve p) = some (.file bs) := by
  constructor
  · intro h
    unfold isFile at h
    split at h
    · rename_i bs hs
      exact ⟨bs, (stat_eq_ok hp hs).symm⟩
    · cases h
  · rintro ⟨bs, h⟩
    simp [isFile, ht.stat_of_find? hp h]

/-- The names of the entries one level below an absolute path, in the order the tree holds
them. -/
def children (t : Tree) (abs : List String) : List String :=
  t.entries.filterMap (fun e =>
    if e.1.length == abs.length + 1 && abs.isPrefixOf e.1 then e.1.getLast? else none)

theorem mem_children {abs : List String} {n : String} (h : n ∈ t.children abs) :
    ∃ e, (abs ++ [n], e) ∈ t.entries := by
  obtain ⟨⟨x, e⟩, hx, hf⟩ := List.mem_filterMap.1 h
  simp only [Bool.and_eq_true, beq_iff_eq, List.isPrefixOf_iff_prefix] at hf
  split at hf
  · rename_i hc
    obtain ⟨hlen, z, rfl⟩ := hc
    obtain ⟨c, rfl⟩ : ∃ c, z = [c] := by
      rw [List.length_append] at hlen
      exact List.length_eq_one_iff.1 (by omega)
    simp only [List.getLast?_append, List.getLast?_singleton, Option.some_or,
      Option.some.injEq] at hf
    exact ⟨e, hf ▸ hx⟩
  · cases hf

theorem Proper.mem_children (ht : t.Proper) {abs : List String} {n : String} {e : Entry}
    (h : t.find? (abs ++ [n]) = some e) : n ∈ t.children abs := by
  refine List.mem_filterMap.2 ⟨(abs ++ [n], e), (find?_eq_some_iff ht.nodup).1 h, ?_⟩
  simp [List.isPrefixOf_iff_prefix]

/-- A path one level below `abs` whose last name is `n` is `abs ++ [n]`. -/
theorem eq_append_of_child {abs x : List String} {n : String}
    (h : (if x.length == abs.length + 1 && abs.isPrefixOf x then x.getLast? else none) = some n) :
    x = abs ++ [n] := by
  simp only [Bool.and_eq_true, beq_iff_eq, List.isPrefixOf_iff_prefix] at h
  split at h
  · rename_i hc
    obtain ⟨hlen, z, rfl⟩ := hc
    obtain ⟨c, rfl⟩ : ∃ c, z = [c] := by
      rw [List.length_append] at hlen
      exact List.length_eq_one_iff.1 (by omega)
    simp only [List.getLast?_append, List.getLast?_singleton, Option.some_or,
      Option.some.injEq] at h
    rw [h]
  · cases h

/-- A directory of a proper tree lists each name once: two entries below it with one name
are one path. -/
theorem Proper.children_nodup (ht : t.Proper) (abs : List String) : (t.children abs).Nodup := by
  have heq : t.children abs = (t.entries.map (·.1)).filterMap (fun x =>
      if x.length == abs.length + 1 && abs.isPrefixOf x then x.getLast? else none) := by
    rw [List.filterMap_map]
    rfl
  rw [heq]
  exact ht.nodup.filterMap fun x x' n hx hx' =>
    (eq_append_of_child hx).trans (eq_append_of_child hx').symm

theorem Proper.list_of_dir (ht : t.Proper) (hp : isPlain p = true)
    (h : t.find? (t.resolve p) = some .dir) :
    t.list p = .ok (Text.sortTexts (t.children (t.resolve p))) := by
  simp [list, ht.locate_of_parent hp (ht.parent_of_find? hp h), ht.stat_of_find? hp h, children]

theorem list_eq_ok (hp : isPlain p = true) {names : List String} (h : t.list p = .ok names) :
    t.find? (t.resolve p) = some .dir ∧ names = Text.sortTexts (t.children (t.resolve p)) := by
  unfold list at h
  cases hl : t.locate p with
  | error f => simp [hl] at h
  | ok abs =>
    rw [locate_eq_ok hp hl] at hl
    cases hs : t.stat p with
    | error f => simp [hl, hs] at h
    | ok r =>
      have hr := stat_eq_ok hp hs
      simp only [hl, hs, except_ok_bind] at h
      split at h
      · simp only [except_pure, Except.ok.injEq] at h
        exact ⟨hr ▸ rfl, by rw [← h]; rfl⟩
      · simp at h
      · simp at h

end Preflight.Files.Tree

namespace Preflight.Text

theorem mem_insertText {a b : String} {l : List String} : b ∈ insertText a l ↔ b = a ∨ b ∈ l := by
  induction l with
  | nil => simp [insertText]
  | cons c l ih =>
    unfold insertText
    split
    · simp
    · simp only [List.mem_cons, ih]
      exact or_left_comm

theorem perm_insertText (a : String) (l : List String) : (insertText a l).Perm (a :: l) := by
  induction l with
  | nil => exact List.Perm.refl _
  | cons b l ih =>
    unfold insertText
    split
    · exact List.Perm.refl _
    · exact (ih.cons b).trans (List.Perm.swap a b l)

/-- Sorting rearranges the texts it is given. -/
theorem perm_sortTexts (l : List String) : (sortTexts l).Perm l := by
  induction l with
  | nil => exact List.Perm.refl _
  | cons b l ih =>
    simp only [sortTexts, List.foldr_cons] at ih ⊢
    exact (perm_insertText b _).trans (ih.cons b)

/-- Sorting keeps exactly the texts it is given. -/
theorem mem_sortTexts {a : String} {l : List String} : a ∈ sortTexts l ↔ a ∈ l := by
  induction l with
  | nil => simp [sortTexts]
  | cons b l ih =>
    simp only [sortTexts, List.foldr_cons] at ih ⊢
    rw [mem_insertText, ih, List.mem_cons]

end Preflight.Text
