import Mathlib.Data.List.Basic
import Preflight.Files

/-!
# Paths made of names

A path text is split at separators into components. A *name* is a component that leads one
directory down: not empty, without a separator, and neither `.` nor `..`; a *plain* path is a
path that is not empty and all of whose components are names. Every name a directory lists is
one, and so are the components of the directories the program is given.

The results here say how the path operations of `Preflight.Files` act on such paths:

* `components_join` / `components_join_of_isPlain`: joining a name adds it as the last
  component, and `startsWith_join` keeps a path absolute or relative;
* `resolve_join`: a name joined to a plain path leads one directory below it;
* `components_parentText`, `startsWith_parentText`, `parentText_ne`: the parent of a path of
  two or more components drops the last one, which is how missing directories are made.

They all rest on two laws of splitting at a separator, from `List.splitOn`: splitting
`a ++ "/" ++ b` splits `a` and `b` apart (`components_append_slash`), and splitting names
joined by separators gives the names back (`components_intercalate`).
-/

set_option autoImplicit false

namespace Preflight.Files

/-- A name a directory can hold: not empty, without a separator, and neither `.` nor `..`. -/
def isName (c : String) : Bool :=
  !c.isEmpty && !c.toList.contains '/' && c != "." && c != ".."

theorem components_append_slash (a b : String) :
    components (a ++ "/" ++ b) = components a ++ components b := by
  have h : (a ++ "/" ++ b).toList = a.toList ++ '/' :: b.toList := by
    simp [String.toList_append]
  simp only [components, h, List.splitOn_append_cons_self, List.map_append, List.filter_append]

theorem components_of_no_slash {c : String} (hc : c ≠ "") (hs : '/' ∉ c.toList) :
    components c = [c] := by
  simp [components, List.splitOn_eq_singleton hs, String.ofList_toList, hc]

theorem components_intercalate {cs : List String} (h : ∀ c ∈ cs, c ≠ "" ∧ '/' ∉ c.toList) :
    components ("/".intercalate cs) = cs := by
  cases cs with
  | nil => rfl
  | cons c cs =>
    have hsplit : (['/'].intercalate ((c :: cs).map String.toList)).splitOn '/' =
        (c :: cs).map String.toList :=
      List.splitOn_intercalate '/' (by simpa using fun c hc => (h c hc).2) (by simp)
    have hto : ("/".intercalate (c :: cs)).toList = ['/'].intercalate ((c :: cs).map String.toList) := by
      simp [String.toList_intercalate]
    have hkeep : ∀ d ∈ c :: cs, (!d.isEmpty) = true := by
      intro d hd
      simpa [String.isEmpty_iff] using (h d hd).1
    simp only [components, hto, hsplit, List.map_map]
    rw [List.filter_eq_self.mpr]
    · simp [Function.comp_def, String.ofList_toList]
    · simpa [Function.comp_def, String.ofList_toList] using hkeep

theorem slash_not_mem_of_mem_splitOn {xs l : List Char} (h : l ∈ xs.splitOn '/') : '/' ∉ l := by
  induction xs generalizing l with
  | nil => simp_all
  | cons x xs ih =>
    rw [List.splitOn_cons_eq_if_modifyHead] at h
    split at h
    · rcases List.mem_cons.1 h with rfl | h
      · simp
      · exact ih h
    · rename_i hx
      obtain ⟨hd, tl, hrest⟩ := List.exists_cons_of_ne_nil (List.splitOn_ne_nil '/' xs)
      rw [hrest] at h ih
      simp only [List.modifyHead_cons, List.mem_cons] at h
      rcases h with rfl | h
      · simp only [List.mem_cons, not_or]
        exact ⟨fun he => hx (by simpa using he.symm), ih List.mem_cons_self⟩
      · exact ih (List.mem_cons_of_mem _ h)

theorem ne_empty_of_mem_components {p c : String} (h : c ∈ components p) :
    c ≠ "" ∧ '/' ∉ c.toList := by
  simp only [components, List.mem_filter, List.mem_map, Bool.not_eq_eq_eq_not, Bool.not_true,
    String.isEmpty_eq_false_iff] at h
  obtain ⟨⟨l, hl, rfl⟩, hne⟩ := h
  exact ⟨hne, by simpa [String.toList_ofList] using slash_not_mem_of_mem_splitOn hl⟩

theorem components_empty : components "" = [] := by
  simp only [components, String.toList_empty, List.splitOn_nil, List.map_cons, List.map_nil]
  rfl

theorem components_slash_append (s : String) : components ("/" ++ s) = components s := by
  simpa [components_empty] using components_append_slash "" s

theorem startsWith_slash (s : String) : s.startsWith "/" = (s.toList.head? == some '/') := by
  rw [Bool.eq_iff_iff, String.startsWith_string_iff]
  show ['/'] <+: s.toList ↔ _
  cases s.toList with
  | nil => simp
  | cons c cs => simp; exact eq_comm

/-- The components of a lead of separators followed by names joined by separators. -/
theorem components_lead_intercalate {lead : String} (hlead : lead = "" ∨ lead = "/" ∨ lead = "//")
    {cs : List String} (h : ∀ c ∈ cs, c ≠ "" ∧ '/' ∉ c.toList) :
    components (lead ++ "/".intercalate cs) = cs := by
  rcases hlead with rfl | rfl | rfl
  · simpa using components_intercalate h
  · rw [components_slash_append]
    exact components_intercalate h
  · rw [show "//" ++ "/".intercalate cs = "/" ++ ("/" ++ "/".intercalate cs) by
      rw [← String.append_assoc]; rfl]
    rw [components_slash_append, components_slash_append]
    exact components_intercalate h

/-- Names joined by separators start with a separator exactly when the lead is not empty. -/
theorem startsWith_lead_intercalate {lead : String} (hlead : lead = "" ∨ lead = "/" ∨ lead = "//")
    {c : String} {cs : List String} (h : ∀ d ∈ c :: cs, d ≠ "" ∧ '/' ∉ d.toList) :
    (lead ++ "/".intercalate (c :: cs)).startsWith "/" = !lead.isEmpty := by
  have hc := h c List.mem_cons_self
  obtain ⟨x, xs, hx⟩ := List.exists_cons_of_ne_nil (mt String.toList_eq_nil_iff.1 hc.1)
  have hxs : (x == '/') = false := by
    simpa using fun he : x = '/' => hc.2 (by simp [hx, he])
  rcases hlead with rfl | rfl | rfl
  · cases cs with
    | nil => simp [startsWith_slash, hx, hxs]
    | cons d ds => simp [startsWith_slash, String.toList_append, hx, hxs]
  · simp [startsWith_slash, String.toList_append]
  · simp [startsWith_slash, String.toList_append]

theorem startsWith_slash_of_slashes {p : String} (h : p.startsWith "//" = true) :
    p.startsWith "/" = true := by
  rw [String.startsWith_string_iff] at h ⊢
  exact List.IsPrefix.trans (by decide) h

/-- The components of a normalized path: those of the path, without `.`. -/
theorem components_normalize {p : String} (h : (components p).filter (· != ".") ≠ []) :
    components (normalize p) = (components p).filter (· != ".") := by
  have hparts : ∀ c ∈ (components p).filter (· != "."), c ≠ "" ∧ '/' ∉ c.toList :=
    fun c hc => ne_empty_of_mem_components (List.mem_filter.1 hc).1
  have hlead : ∀ lead : String, (lead = "" ∨ lead = "/" ∨ lead = "//") →
      components (if (lead ++ "/".intercalate ((components p).filter (· != "."))).isEmpty then "."
        else lead ++ "/".intercalate ((components p).filter (· != "."))) =
        (components p).filter (· != ".") := by
    intro lead hl
    have hb := components_lead_intercalate hl hparts
    have hne : (lead ++ "/".intercalate ((components p).filter (· != "."))).isEmpty = false := by
      rw [String.isEmpty_eq_false_iff]
      intro he
      rw [he, components_empty] at hb
      exact h hb.symm
    simpa [hne] using hb
  unfold normalize
  apply hlead
  split_ifs <;> simp

/-- A normalized path starts with a separator exactly when the path does, if a name is left. -/
theorem startsWith_normalize {p : String} (h : (components p).filter (· != ".") ≠ []) :
    (normalize p).startsWith "/" = p.startsWith "/" := by
  obtain ⟨c, cs, hcs⟩ := List.exists_cons_of_ne_nil h
  have hparts : ∀ d ∈ c :: cs, d ≠ "" ∧ '/' ∉ d.toList := by
    rw [← hcs]
    exact fun d hd => ne_empty_of_mem_components (List.mem_filter.1 hd).1
  have hlead : ∀ lead : String, (lead = "" ∨ lead = "/" ∨ lead = "//") →
      (if (lead ++ "/".intercalate (c :: cs)).isEmpty then "."
        else lead ++ "/".intercalate (c :: cs)).startsWith "/" = !lead.isEmpty := by
    intro lead hl
    have hne : (lead ++ "/".intercalate (c :: cs)).isEmpty = false := by
      rw [String.isEmpty_eq_false_iff]
      intro he
      have hb := components_lead_intercalate hl hparts
      rw [he, components_empty] at hb
      exact List.cons_ne_nil c cs hb.symm
    simpa [hne] using startsWith_lead_intercalate hl hparts
  unfold normalize
  simp only [hcs]
  rw [hlead _ (by split_ifs <;> simp)]
  split_ifs with h1 h2
  · simp [startsWith_slash_of_slashes (Bool.and_eq_true_iff.1 h1).1]
  · simp [h2]
  · simp [Bool.eq_false_iff.2 h2]

theorem isName_iff {c : String} :
    isName c = true ↔ c ≠ "" ∧ '/' ∉ c.toList ∧ c ≠ "." ∧ c ≠ ".." := by
  simp [isName, and_assoc]

theorem startsWith_of_isName {n : String} (hn : isName n = true) : n.startsWith "/" = false := by
  obtain ⟨-, hs, -⟩ := isName_iff.1 hn
  rw [startsWith_slash]
  cases h : n.toList with
  | nil => rfl
  | cons c cs =>
    have : c ≠ '/' := fun he => hs (by simp [h, he])
    simpa using this

/-- Joining a name goes through the path with a separator between. -/
theorem join_of_isName {p n : String} (hn : isName n = true) : join p n = normalize (p ++ "/" ++ n) := by
  have he : n.isEmpty = false := by
    simpa [String.isEmpty_eq_false_iff] using (isName_iff.1 hn).1
  simp [join, startsWith_of_isName hn, he]

/-- The components of a name joined to a path: those of the path without `.`, then the name. -/
theorem components_join {p n : String} (hn : isName n = true) :
    components (join p n) = (components p).filter (· != ".") ++ [n] := by
  obtain ⟨hne, hs, hdot, -⟩ := isName_iff.1 hn
  have hsplit : components (p ++ "/" ++ n) = components p ++ [n] := by
    rw [components_append_slash, components_of_no_slash hne hs]
  have hfilter : (components (p ++ "/" ++ n)).filter (· != ".") = (components p).filter (· != ".") ++ [n] := by
    simp [hsplit, List.filter_append, hdot]
  rw [join_of_isName hn, components_normalize (by simp [hfilter]), hfilter]

/-- A name joined to a path that is not empty starts with a separator when the path does. -/
theorem startsWith_join {p n : String} (hp : p ≠ "") (hn : isName n = true) :
    (join p n).startsWith "/" = p.startsWith "/" := by
  obtain ⟨hne, hs, hdot, -⟩ := isName_iff.1 hn
  have hfilter : (components (p ++ "/" ++ n)).filter (· != ".") ≠ [] := by
    simp [components_append_slash, components_of_no_slash hne hs, List.filter_append, hdot]
  obtain ⟨c, cs, hc⟩ := List.exists_cons_of_ne_nil (mt String.toList_eq_nil_iff.1 hp)
  rw [join_of_isName hn, startsWith_normalize hfilter]
  simp [startsWith_slash, String.toList_append, hc]

/-- A path that is not empty and whose every component is a name: it leads one directory
down for each component. -/
def isPlain (p : String) : Bool :=
  !p.isEmpty && (components p).all isName

theorem isPlain_iff {p : String} :
    isPlain p = true ↔ p ≠ "" ∧ ∀ c ∈ components p, isName c = true := by
  simp [isPlain, String.isEmpty_eq_false_iff]

theorem filter_dot_of_names {cs : List String} (h : ∀ c ∈ cs, isName c = true) :
    cs.filter (· != ".") = cs :=
  List.filter_eq_self.2 fun c hc => by simpa using (isName_iff.1 (h c hc)).2.2.1

/-- The components of a name joined to a plain path. -/
theorem components_join_of_isPlain {p n : String} (hp : isPlain p = true) (hn : isName n = true) :
    components (join p n) = components p ++ [n] := by
  rw [components_join hn, filter_dot_of_names (isPlain_iff.1 hp).2]

/-- A name joined to a plain path gives a plain path. -/
theorem isPlain_join {p n : String} (hp : isPlain p = true) (hn : isName n = true) :
    isPlain (join p n) = true := by
  have hc := components_join_of_isPlain hp hn
  refine isPlain_iff.2 ⟨fun he => ?_, ?_⟩
  · rw [he, components_empty] at hc
    simp at hc
  · rw [hc]
    intro c hc'
    rcases List.mem_append.1 hc' with h | h
    · exact (isPlain_iff.1 hp).2 c h
    · simp_all

/-- Walking down names appends them. -/
theorem walk_of_names (base : List String) {cs : List String} (h : ∀ c ∈ cs, isName c = true) :
    walk base cs = base ++ cs := by
  induction cs generalizing base with
  | nil => simp [walk]
  | cons c cs ih =>
    obtain ⟨-, -, hdot, hdots⟩ := isName_iff.1 (h c List.mem_cons_self)
    have hstep : walk base (c :: cs) = walk (base ++ [c]) cs := by
      simp [walk, List.foldl_cons, hdot, hdots]
    rw [hstep, ih _ (fun d hd => h d (List.mem_cons_of_mem _ hd))]
    simp

/-- The parent of a path of at least two components: the lead separator and all
components but the last. -/
theorem parentText_eq {q : String} (h : 2 ≤ (components q).length) :
    Tree.parentText q = (if q.startsWith "/" then "/" else "") ++ "/".intercalate (components q).dropLast := by
  have hne : (components q).dropLast ≠ [] := by
    intro he
    have := congrArg List.length he
    simp at this
    omega
  obtain ⟨c, cs, hc⟩ := List.exists_cons_of_ne_nil hne
  unfold Tree.parentText
  simp only [hc]

theorem components_parentText {q : String} (h : 2 ≤ (components q).length) :
    components (Tree.parentText q) = (components q).dropLast := by
  rw [parentText_eq h]
  exact components_lead_intercalate (by split_ifs <;> simp)
    fun c hc => ne_empty_of_mem_components (List.dropLast_subset _ hc)

theorem startsWith_parentText {q : String} (h : 2 ≤ (components q).length) :
    (Tree.parentText q).startsWith "/" = q.startsWith "/" := by
  have hne : (components q).dropLast ≠ [] := by
    intro he
    have := congrArg List.length he
    simp at this
    omega
  obtain ⟨c, cs, hc⟩ := List.exists_cons_of_ne_nil hne
  rw [parentText_eq h, hc, startsWith_lead_intercalate (by split_ifs <;> simp)
    (fun d hd => ne_empty_of_mem_components (List.dropLast_subset _ (hc ▸ hd)))]
  split_ifs with hs <;> simp [hs]

theorem parentText_ne {q : String} (h : 2 ≤ (components q).length) : (Tree.parentText q == q) = false := by
  rw [beq_eq_false_iff_ne]
  intro he
  have := congrArg List.length (components_parentText h)
  rw [he, List.length_dropLast] at this
  omega

namespace Tree

/-- The directory a path text starts from: the root for a path that starts with a
separator, else the working directory. -/
def origin (t : Tree) (p : String) : List String :=
  if p.startsWith "/" then [] else t.cwd

/-- A plain path leads from where it starts down its components. -/
theorem resolve_of_isPlain (t : Tree) {p : String} (hp : isPlain p = true) :
    t.resolve p = t.origin p ++ components p :=
  walk_of_names _ (isPlain_iff.1 hp).2

theorem origin_join (t : Tree) {p n : String} (hp : p ≠ "") (hn : isName n = true) :
    t.origin (join p n) = t.origin p := by
  simp [origin, startsWith_join hp hn]

/-- A name joined to a plain path leads one directory below it. -/
theorem resolve_join (t : Tree) {p n : String} (hp : isPlain p = true) (hn : isName n = true) :
    t.resolve (join p n) = t.resolve p ++ [n] := by
  rw [t.resolve_of_isPlain (isPlain_join hp hn), t.resolve_of_isPlain hp,
    t.origin_join (isPlain_iff.1 hp).1 hn, components_join_of_isPlain hp hn, List.append_assoc]

end Tree

end Preflight.Files
