import Preflight.Proofs.Files.Lookup

/-!
# Changes to a proper tree

Writing a file, making a directory and making the directories on the way to one each change
a tree at known paths only, and keep it proper:

* `Proper.write_eq_ok`: a write puts the file's bytes at its path;
* `Proper.mkdir_eq_ok`: a directory is made only where nothing was;
* `Proper.makeDirs_eq_ok`: the directories on the way to a path are made, and nothing off
  the way changes;
* `Proper.write_of_find?`, `Proper.makeDirs_of_dir`: writing the bytes a file holds, or
  making a directory that exists, changes nothing.

What a change leaves alone is said by `AgreeOn t t' s`: the two trees hold the same entries,
in the same order, at the paths `s` selects. Agreement passes to smaller regions and composes,
so the changes of a whole run are bounded by the union of the regions of its steps.
-/

set_option autoImplicit false

namespace Preflight.Files.Tree

private theorem find?_map_replace (l : List (List String × Entry)) (abs x : List String) (e : Entry) :
    ((l.map fun y => if y.1 == abs then (abs, e) else y).find? (·.1 == x)).map (·.2) =
      if x = abs then (l.find? (·.1 == x)).map (fun _ => e) else (l.find? (·.1 == x)).map (·.2) := by
  induction l with
  | nil => simp
  | cons y l ih =>
    simp only [beq_iff_eq] at ih
    by_cases hy : y.1 = abs
    · by_cases hx : x = abs
      · simp [hy, hx]
      · simp [hy, hx, Ne.symm hx, ih, -List.find?_map]
    · by_cases hyx : y.1 = x
      · have hx : x ≠ abs := hyx ▸ hy
        simp [hyx, hx]
      · simp [hy, hyx, ih, -List.find?_map]

theorem find?_put (t : Tree) (abs x : List String) (e : Entry) :
    (t.put abs e).find? x = if x = abs then some e else t.find? x := by
  unfold put
  split
  · rename_i hsome
    simp only [find?, find?_map_replace]
    by_cases hx : x = abs
    · subst hx
      obtain ⟨z, hz⟩ := Option.isSome_iff_exists.1 hsome
      simp only [find?, Option.map_eq_some_iff] at hz
      obtain ⟨w, hw, -⟩ := hz
      simp [hw]
    · simp [hx]
  · rename_i hnone
    simp only [find?, List.find?_append]
    by_cases hx : x = abs
    · subst hx
      have h0 : t.entries.find? (·.1 == x) = none := by
        cases hf : t.entries.find? (·.1 == x) with
        | none => rfl
        | some w => simp [find?, hf] at hnone
      simp [h0]
    · simp [hx, Ne.symm hx]

/-- Putting back the entry a path already holds changes nothing. -/
theorem put_of_find? {t : Tree} (hn : (t.entries.map (·.1)).Nodup) {x : List String} {e : Entry}
    (h : t.find? x = some e) : t.put x e = t := by
  have hmem := (find?_eq_some_iff hn).1 h
  have hsame : ∀ y ∈ t.entries, (if y.1 == x then (x, e) else y) = y := by
    intro y hy
    by_cases hyx : y.1 = x
    · have : y = (x, e) := List.inj_on_of_nodup_map hn hy hmem hyx
      simp [this]
    · simp [hyx]
  have hmap : t.entries.map (fun y => if y.1 == x then (x, e) else y) = t.entries := by
    rw [List.map_congr_left hsame, List.map_id']
  unfold put
  rw [if_pos (by simp [h]), hmap]

variable {t : Tree} {p : String}

/-! ## What a change leaves alone -/

/-- Two trees with the same working directory that hold the same entries, in the same order,
at the paths `s` selects. -/
def AgreeOn (t t' : Tree) (s : List String → Bool) : Prop :=
  t'.cwd = t.cwd ∧ t'.entries.filter (fun e => s e.1) = t.entries.filter (fun e => s e.1)

section AgreeOn

variable {t₁ t₂ t₃ : Tree} {s s' : List String → Bool}

theorem AgreeOn.refl (t : Tree) (s : List String → Bool) : AgreeOn t t s := ⟨rfl, rfl⟩

theorem AgreeOn.trans (h₁ : AgreeOn t₁ t₂ s) (h₂ : AgreeOn t₂ t₃ s) : AgreeOn t₁ t₃ s :=
  ⟨h₂.1.trans h₁.1, h₂.2.trans h₁.2⟩

/-- Agreeing on a region is agreeing on every smaller one. -/
theorem AgreeOn.mono (h : AgreeOn t₁ t₂ s) (hs : ∀ x, s' x = true → s x = true) :
    AgreeOn t₁ t₂ s' := by
  have hsub : ∀ l : List (List String × Entry),
      l.filter (fun e => s' e.1) = (l.filter (fun e => s e.1)).filter (fun e => s' e.1) := by
    intro l
    rw [List.filter_filter]
    apply List.filter_congr
    intro e _
    cases hse : s' e.1 with
    | false => simp
    | true => simp [hs _ hse]
  exact ⟨h.1, by rw [hsub, h.2, ← hsub]⟩

private theorem find?_key_filter (l : List (List String × Entry)) {x : List String}
    (hx : s x = true) : (l.filter (fun e => s e.1)).find? (·.1 == x) = l.find? (·.1 == x) := by
  rw [List.find?_filter]
  congr 1
  funext e
  by_cases he : e.1 = x
  · simp [he, hx]
  · simp [he]

/-- Agreeing trees hold the same at every path of the region. -/
theorem AgreeOn.find? (h : AgreeOn t₁ t₂ s) {x : List String} (hx : s x = true) :
    t₂.find? x = t₁.find? x := by
  unfold Tree.find?
  rw [← find?_key_filter t₂.entries hx, h.2, find?_key_filter t₁.entries hx]

/-- Trees agreeing below a path list the same names there. -/
theorem AgreeOn.children (h : AgreeOn t₁ t₂ s) {abs : List String}
    (hs : ∀ x, abs.isPrefixOf x = true → s x = true) : t₂.children abs = t₁.children abs := by
  have hpre := h.mono hs
  have hfilter : ∀ t : Tree, t.children abs =
      (t.entries.filter (fun e => abs.isPrefixOf e.1)).filterMap (fun e =>
        if e.1.length == abs.length + 1 && abs.isPrefixOf e.1 then e.1.getLast? else none) := by
    intro t
    rw [List.filterMap_filter]
    unfold Tree.children
    congr 1
    funext e
    cases abs.isPrefixOf e.1 <;> simp
  rw [hfilter, hpre.2, ← hfilter]

theorem AgreeOn.resolve (h : AgreeOn t₁ t₂ s) (p : String) : t₂.resolve p = t₁.resolve p := by
  simp [Tree.resolve, h.1]

/-- Proper trees agreeing at a path of names see the same kind of entry there. -/
theorem AgreeOn.isDir_eq (h : AgreeOn t₁ t₂ s) (ht₁ : t₁.Proper) (ht₂ : t₂.Proper) {p : String}
    (hp : isPlain p = true) (hs : s (t₁.resolve p) = true) : t₂.isDir p = t₁.isDir p := by
  rw [Bool.eq_iff_iff, ht₂.isDir_iff hp, ht₁.isDir_iff hp, h.resolve, h.find? hs]

theorem AgreeOn.isFile_eq (h : AgreeOn t₁ t₂ s) (ht₁ : t₁.Proper) (ht₂ : t₂.Proper) {p : String}
    (hp : isPlain p = true) (hs : s (t₁.resolve p) = true) : t₂.isFile p = t₁.isFile p := by
  rw [Bool.eq_iff_iff, ht₂.isFile_iff hp, ht₁.isFile_iff hp, h.resolve, h.find? hs]

theorem AgreeOn.read_eq_ok_iff (h : AgreeOn t₁ t₂ s) (ht₁ : t₁.Proper) (ht₂ : t₂.Proper)
    {p : String} (hp : isPlain p = true) (hs : s (t₁.resolve p) = true) {bs : List UInt8} :
    t₂.read p = .ok bs ↔ t₁.read p = .ok bs := by
  rw [ht₂.read_eq_ok_iff hp, ht₁.read_eq_ok_iff hp, h.resolve, h.find? hs]

/-- Putting an entry at a path outside a region leaves the region alone. -/
theorem agreeOn_put (t : Tree) {x : List String} (e : Entry) (hx : s x = false) :
    AgreeOn t (t.put x e) s := by
  refine ⟨by unfold put; split <;> rfl, ?_⟩
  unfold put
  split
  · simp only [List.filter_map]
    have hid : ∀ y ∈ t.entries.filter ((fun e => s e.1) ∘
        fun y => if y.1 == x then (x, e) else y), (if y.1 == x then (x, e) else y) = y := by
      intro y hy
      by_cases hyx : y.1 = x
      · have := (List.mem_filter.1 hy).2
        simp [hyx, hx] at this
      · simp [hyx]
    rw [List.map_congr_left hid, List.map_id']
    apply List.filter_congr
    intro y _
    by_cases hyx : y.1 = x <;> simp [hyx, hx]
  · simp [List.filter_append, hx]

end AgreeOn

/-! ## Directories that stay -/

/-- Every directory of `t` is a directory of `t'`. -/
def KeepsDirs (t t' : Tree) : Prop :=
  ∀ x, t.find? x = some .dir → t'.find? x = some .dir

theorem KeepsDirs.refl (t : Tree) : KeepsDirs t t := fun _ h => h

theorem KeepsDirs.trans {t₁ t₂ t₃ : Tree} (h₁ : KeepsDirs t₁ t₂) (h₂ : KeepsDirs t₂ t₃) :
    KeepsDirs t₁ t₃ := fun x hx => h₂ x (h₁ x hx)

/-- Putting an entry where no directory is keeps every directory. -/
theorem keepsDirs_put {t : Tree} {x : List String} (hx : t.find? x ≠ some .dir) (e : Entry) :
    KeepsDirs t (t.put x e) := by
  intro y hy
  rw [find?_put]
  split
  · rename_i hyx
    subst hyx
    exact absurd hy hx
  · exact hy

/-! ## Changes that keep a tree proper -/

@[simp] theorem put_cwd (t : Tree) (x : List String) (e : Entry) : (t.put x e).cwd = t.cwd := by
  unfold put
  split <;> rfl

theorem nodup_put {t : Tree} (hn : (t.entries.map (·.1)).Nodup) (x : List String) (e : Entry) :
    ((t.put x e).entries.map (·.1)).Nodup := by
  unfold put
  split
  · rename_i hsome
    have hkeys : (t.entries.map (fun y => if y.1 == x then (x, e) else y)).map (·.1) =
        t.entries.map (·.1) := by
      rw [List.map_map]
      apply List.map_congr_left
      intro y _
      by_cases hyx : y.1 = x <;> simp [hyx]
    exact hkeys ▸ hn
  · rename_i hnone
    have hx : ∀ y ey, (y, ey) ∈ t.entries → ¬y = x := by
      intro y ey hy hyx
      subst hyx
      exact hnone (by simp [(find?_eq_some_iff hn).2 hy])
    simpa [List.nodup_append] using ⟨hn, hx⟩

/-- An entry put in a directory of a proper tree, where no directory is replaced by a file,
keeps the tree proper. -/
theorem Proper.put (ht : t.Proper) {x : List String} {e : Entry} (hx : x ≠ [])
    (hnames : ∀ c ∈ x, isName c = true) (hpar : t.find? x.dropLast = some .dir)
    (hkeep : t.find? x ≠ some .dir ∨ e = .dir) : (t.put x e).Proper := by
  -- a directory of the old tree stays one: only a path that held no directory changes kind
  have hdir : ∀ y, t.find? y = some .dir → (t.put x e).find? y = some .dir := by
    intro y hy
    rw [find?_put]
    split
    · rename_i hyx
      subst hyx
      exact hkeep.resolve_left (by simp [hy]) ▸ rfl
    · exact hy
  refine ⟨nodup_put ht.nodup x e, ?_, ?_, ?_, ?_⟩
  · exact hdir [] ht.root
  · simpa using hdir _ ht.cwd
  · intro y c e' hy
    rw [find?_put] at hy
    split at hy
    · rename_i hyx
      have hy' : y = x.dropLast := by rw [← hyx, List.dropLast_concat]
      exact hdir y (hy' ▸ hpar)
    · exact hdir y (ht.parent y c e' hy)
  · intro y e' hy c hc
    rw [find?_put] at hy
    split at hy
    · rename_i hyx
      exact hnames c (hyx ▸ hc)
    · exact ht.names y e' hy c hc

theorem Proper.names_resolve (ht : t.Proper) (hp : isPlain p = true) :
    ∀ c ∈ t.resolve p, isName c = true := by
  rw [t.resolve_of_isPlain hp]
  intro c hc
  rcases List.mem_append.1 hc with hc | hc
  · exact ht.names _ _ (ht.origin p) c hc
  · exact (isPlain_iff.1 hp).2 c hc

/-- A path of names that can be walked and does not hold a directory lies in a directory,
one level below it. -/
theorem Proper.parent_resolve (ht : t.Proper) (hp : isPlain p = true) {r : List String}
    (h : t.locate p = .ok r) (hne : t.find? (t.resolve p) ≠ some .dir) :
    t.resolve p ≠ [] ∧ t.find? (t.resolve p).dropLast = some .dir := by
  have hpar := ht.parent_of_locate hp h
  rw [t.resolve_of_isPlain hp] at hne ⊢
  cases hcs : components p with
  | nil => simp [hcs, ht.origin p] at hne
  | cons c cs =>
    unfold parentOf at hpar
    rw [hcs] at hpar
    refine ⟨by simp, ?_⟩
    rw [List.dropLast_append_of_ne_nil (List.cons_ne_nil c cs)]
    exact hpar

/-- The bytes of the file at a path; none when no file is there. -/
def fileBytes (t : Tree) (x : List String) : List UInt8 :=
  match t.find? x with
  | some (.file bs) => bs
  | _ => []

@[simp] theorem resolve_put (t : Tree) (x : List String) (e : Entry) (p : String) :
    (t.put x e).resolve p = t.resolve p := by
  simp [Tree.resolve]

/-- A write to a proper tree puts a file at the path, holding the bytes written, after those the
file held when appending (a missing file holds none); the tree stays proper. -/
theorem Proper.write_eq_put (ht : t.Proper) (hp : isPlain p = true) {bytes : List UInt8}
    {append : Bool} {t' : Tree} (h : t.write p bytes append = .ok t') :
    t' = t.put (t.resolve p)
        (.file (if append then t.fileBytes (t.resolve p) ++ bytes else bytes)) ∧ t'.Proper := by
  unfold write at h
  cases hl : t.locate p with
  | error f => simp [hl] at h
  | ok abs =>
    have habs := locate_eq_ok hp hl
    subst habs
    have hs := ht.stat_of_parent hp (ht.parent_of_locate hp hl)
    simp only [hl, hs, except_ok_bind] at h
    -- the file is replaced, or made in its directory: in both cases no directory is lost
    have hput : t' = t.put (t.resolve p)
        (.file (if append then t.fileBytes (t.resolve p) ++ bytes else bytes)) ∧
        t.find? (t.resolve p) ≠ some .dir := by
      split at h
      · simp at h
      · simp only [except_pure, Except.ok.injEq] at h
        rename_i old hf
        exact ⟨by simp [← h, fileBytes, hf], by simp [hf]⟩
      · rename_i hn
        split at h
        · simp at h
        · split at h
          · simp at h
          · simp only [except_pure, Except.ok.injEq] at h
            exact ⟨by simp [← h, fileBytes, hn], by simp [hn]⟩
    obtain ⟨hne, hpar⟩ := ht.parent_resolve hp hl hput.2
    exact ⟨hput.1, hput.1 ▸ ht.put hne (ht.names_resolve hp) hpar (.inl hput.2)⟩

/-- Writing a file of a proper tree puts its bytes at the path, and keeps the tree
proper. -/
theorem Proper.write_eq_ok (ht : t.Proper) (hp : isPlain p = true) {bytes : List UInt8}
    {t' : Tree} (h : t.write p bytes = .ok t') :
    t' = t.put (t.resolve p) (.file bytes) ∧ t'.Proper := by
  simpa using ht.write_eq_put hp h

/-- Appending to a file of a proper tree succeeds, and the file holds its old bytes and then
the new ones. -/
theorem Proper.write_append_of_find? (ht : t.Proper) (hp : isPlain p = true) {old : List UInt8}
    (h : t.find? (t.resolve p) = some (.file old)) (bytes : List UInt8) :
    t.write p bytes true = .ok (t.put (t.resolve p) (.file (old ++ bytes))) := by
  have hl := ht.locate_of_parent hp (ht.parent_of_find? hp h)
  simp [write, hl, ht.stat_of_find? hp h]

/-- Writing the bytes a file already holds changes nothing. -/
theorem Proper.write_of_find? (ht : t.Proper) (hp : isPlain p = true) {bytes : List UInt8}
    (h : t.find? (t.resolve p) = some (.file bytes)) : t.write p bytes = .ok t := by
  have hl := ht.locate_of_parent hp (ht.parent_of_find? hp h)
  simp [write, hl, ht.stat_of_find? hp h, put_of_find? ht.nodup h]

/-- A write to a path of names that lies in a directory and holds no directory succeeds, and
the file holds the bytes written. -/
theorem Proper.write_of_parent (ht : t.Proper) (hp : isPlain p = true)
    (hpar : t.find? (t.parentOf p) = some .dir) (hnd : t.find? (t.resolve p) ≠ some .dir)
    (bytes : List UInt8) : t.write p bytes = .ok (t.put (t.resolve p) (.file bytes)) := by
  have hl := ht.locate_of_parent hp hpar
  obtain ⟨hne, hdir⟩ := ht.parent_resolve hp hl hnd
  unfold write
  simp only [hl, ht.stat_of_parent hp hpar, except_ok_bind]
  cases hf : t.find? (t.resolve p) with
  | none => simp [hne, hdir]
  | some e =>
    cases e with
    | dir => exact absurd hf hnd
    | file old => simp

/-- A write that succeeds found no directory at its path. -/
theorem Proper.find?_ne_dir_of_write (ht : t.Proper) (hp : isPlain p = true) {bytes : List UInt8}
    {t' : Tree} (h : t.write p bytes = .ok t') : t.find? (t.resolve p) ≠ some .dir := by
  intro hdir
  have hl := ht.locate_of_parent hp (ht.parent_of_find? hp hdir)
  simp [write, hl, ht.stat_of_find? hp hdir] at h

/-- Making a directory of a proper tree puts it where nothing was, and keeps the tree
proper. -/
theorem Proper.mkdir_eq_ok (ht : t.Proper) (hp : isPlain p = true) {t' : Tree}
    (h : t.mkdir p = .ok t') :
    t' = t.put (t.resolve p) .dir ∧ t.find? (t.resolve p) = none ∧ t'.Proper := by
  unfold mkdir at h
  cases hl : t.locate p with
  | error f => simp [hl] at h
  | ok abs =>
    have habs := locate_eq_ok hp hl
    subst habs
    have hs := ht.stat_of_parent hp (ht.parent_of_locate hp hl)
    simp only [hl, hs, except_ok_bind] at h
    split at h
    · simp at h
    · rename_i hn
      simp only [except_pure, Except.ok.injEq] at h
      obtain ⟨hne, hpar⟩ := ht.parent_resolve hp hl (by simp [hn])
      exact ⟨h.symm, hn, h ▸ ht.put hne (ht.names_resolve hp) hpar (.inr rfl)⟩

/-- The parent of a path of two or more names is a path of names one level up. -/
theorem resolve_parentText (t : Tree) {q : String} (hq : isPlain q = true)
    (h2 : 2 ≤ (components q).length) :
    isPlain (parentText q) = true ∧ t.resolve (parentText q) = (t.resolve q).dropLast := by
  have hcomp := components_parentText h2
  have hnames : ∀ c ∈ components (parentText q), isName c = true := by
    rw [hcomp]
    exact fun c hc => (isPlain_iff.1 hq).2 c (List.dropLast_subset _ hc)
  have hne : parentText q ≠ "" := by
    intro he
    have := congrArg List.length hcomp
    rw [he, components_empty, List.length_dropLast] at this
    simp at this
    omega
  have hplain : isPlain (parentText q) = true := isPlain_iff.2 ⟨hne, hnames⟩
  refine ⟨hplain, ?_⟩
  have horigin : t.origin (parentText q) = t.origin q := by
    simp [origin, startsWith_parentText h2]
  have hcs : components q ≠ [] := by
    intro he
    simp [he] at h2
  rw [t.resolve_of_isPlain hplain, t.resolve_of_isPlain hq, horigin, hcomp,
    List.dropLast_append_of_ne_nil hcs]

/-- Walking at most one component never fails. -/
theorem locate_go_short {p : String} (dir : List String) {cs : List String}
    (h : cs.length ≤ 1) : ∃ r, locate.go t p dir cs = .ok r := by
  match cs, h with
  | [], _ => exact ⟨dir, rfl⟩
  | [c], _ => exact ⟨step dir c, rfl⟩

/-- A missing directory on the way is reported only for a path of two or more names. -/
theorem mkdir_notFound {q : String}
    (h : t.mkdir p = .error (.notFound q)) : 2 ≤ (components p).length := by
  by_contra hlen
  obtain ⟨r, hr⟩ : ∃ r, locate.go t p (t.origin p) (components p) = .ok r :=
    locate_go_short _ (by omega)
  rw [← locate_eq_go] at hr
  unfold mkdir stat at h
  simp only [hr, except_ok_bind, except_pure] at h
  split at h <;> simp at h

/-- Making the directories on the way to a path of names of a proper tree leaves a
directory there, changes nothing off the way, and keeps the tree proper. -/
theorem Proper.makeDirs_go (fuel : Nat) : ∀ {t t' : Tree} {q : String} {existOk : Bool},
    t.Proper → isPlain q = true → makeDirs.go true t q existOk fuel = .ok t' →
    t'.Proper ∧ t'.find? (t.resolve q) = some .dir ∧
      AgreeOn t t' (fun x => !x.isPrefixOf (t.resolve q)) := by
  -- the directory made at the path itself, or found there: nothing else changes
  have hmade : ∀ {t t' : Tree} {q : String}, t.Proper → isPlain q = true → t.mkdir q = .ok t' →
      t'.Proper ∧ t'.find? (t.resolve q) = some .dir ∧
        AgreeOn t t' (fun x => !x.isPrefixOf (t.resolve q)) := by
    intro t t' q ht hq h
    obtain ⟨rfl, -, ht'⟩ := ht.mkdir_eq_ok hq h
    exact ⟨ht', by simp [find?_put], agreeOn_put t .dir (by simp)⟩
  have hfound : ∀ {t : Tree} {q : String} {existOk : Bool}, t.Proper → isPlain q = true →
      (existOk && t.isDir q) = true →
      t.Proper ∧ t.find? (t.resolve q) = some .dir ∧
        AgreeOn t t (fun x => !x.isPrefixOf (t.resolve q)) := by
    intro t q existOk ht hq h
    exact ⟨ht, (ht.isDir_iff hq).1 (Bool.and_eq_true_iff.1 h).2, AgreeOn.refl _ _⟩
  induction fuel with
  | zero =>
    intro t t' q existOk ht hq h
    unfold makeDirs.go at h
    split at h
    · rename_i hm
      exact hmade ht hq (by rw [hm, h])
    · simp at h
    · split at h
      · simp only [Except.ok.injEq] at h
        exact h ▸ hfound ht hq ‹_›
      · simp at h
  | succ fuel ih =>
    intro t t' q existOk ht hq h
    unfold makeDirs.go at h
    split at h
    · rename_i hm
      exact hmade ht hq (by rw [hm, h])
    · rename_i q' hm
      -- a missing directory on the way: make the parent first, then the path
      have h2 := mkdir_notFound hm
      obtain ⟨hpq, hres⟩ := t.resolve_parentText hq h2
      simp only [Bool.not_true, Bool.false_or, parentText_ne h2, Bool.false_eq_true,
        ↓reduceIte] at h
      split at h
      · simp at h
      · rename_i t₂ hgo
        obtain ⟨ht₂, hdir₂, hagree₂⟩ := ih ht hpq hgo
        rw [hres] at hdir₂ hagree₂
        have hres₂ : t₂.resolve q = t.resolve q := by simp [resolve, hagree₂.1]
        -- the parent's changes all lie on the way to the path
        have hmono : AgreeOn t t₂ (fun x => !x.isPrefixOf (t.resolve q)) := by
          apply hagree₂.mono
          intro x hx
          cases hpre : x.isPrefixOf (t.resolve q).dropLast with
          | false => rfl
          | true =>
            have : x.isPrefixOf (t.resolve q) = true := List.isPrefixOf_iff_prefix.2
              ((List.isPrefixOf_iff_prefix.1 hpre).trans (List.dropLast_prefix _))
            simp [this] at hx
        split at h
        · rename_i t₃ hm₃
          simp only [Except.ok.injEq] at h
          subst h
          obtain ⟨ht₃, hdir₃, hagree₃⟩ := hmade ht₂ hq hm₃
          rw [hres₂] at hdir₃ hagree₃
          exact ⟨ht₃, hdir₃, hmono.trans hagree₃⟩
        · split at h
          · simp only [Except.ok.injEq] at h
            subst h
            obtain ⟨-, hdir, -⟩ := hfound ht₂ hq ‹_›
            exact ⟨ht₂, hres₂ ▸ hdir, hmono⟩
          · simp at h
    · split at h
      · simp only [Except.ok.injEq] at h
        exact h ▸ hfound ht hq ‹_›
      · simp at h

theorem Proper.makeDirs_eq_ok (ht : t.Proper) (hp : isPlain p = true) {existOk : Bool}
    {t' : Tree} (h : t.makeDirs p true existOk = .ok t') :
    t'.Proper ∧ t'.find? (t.resolve p) = some .dir ∧
      AgreeOn t t' (fun x => !x.isPrefixOf (t.resolve p)) :=
  ht.makeDirs_go _ hp h

/-- Making a directory that exists, with existing ones allowed, changes nothing. -/
theorem Proper.makeDirs_of_dir (ht : t.Proper) (hp : isPlain p = true) {parents : Bool}
    (h : t.find? (t.resolve p) = some .dir) : t.makeDirs p parents true = .ok t := by
  have hm : t.mkdir p = .error (.alreadyExists p) := by
    simp [mkdir, ht.locate_of_parent hp (ht.parent_of_find? hp h), ht.stat_of_find? hp h]
  have hdir : t.isDir p = true := (ht.isDir_iff hp).2 h
  unfold makeDirs makeDirs.go
  simp [hm, hdir]

end Preflight.Files.Tree
