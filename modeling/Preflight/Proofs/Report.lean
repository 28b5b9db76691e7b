import Preflight.Proofs.Config.MergedView
import Preflight.Proofs.Startup.LogLevel

/-!
# Gathering warnings, keeping the first error

A report takes a warning as `addWarning` does: one that is empty or already there is left
out. On the list of warnings this is one fold, `keep`, and folding from nothing keeps the
non-empty warnings once each, in the order of their first appearance (`foldl_keep_nil`).
The fact that carries everything else is `foldl_keep_foldl_keep`: folding a list into a
second one and the result into a third is folding the two lists into the third in turn,
because what the second list already held is skipped the second time.

* `calls_gather`: after any sequence of `addWarnings` and `merge` calls on a report whose
  warnings are distinct and not empty, the warnings are those of the report followed by
  those of every call, in order, each once and none empty; the error is the first error
  among the report's and the merged reports', and the report has failed exactly when there
  is one. Merging is associative, and merging nothing or an empty report changes nothing.
-/

set_option autoImplicit false

namespace Preflight.Report

/-! ## Keeping warnings -/

/-- Adds a warning to a list as a report does: unless it is empty or already there. -/
def keep (acc : List String) (w : String) : List String :=
  if w.isEmpty || acc.contains w then acc else acc ++ [w]

theorem addWarning_warnings (r : Report) (w : String) :
    (r.addWarning w).warnings = keep r.warnings w := by
  unfold addWarning keep
  split <;> rfl

theorem addWarnings_warnings (r : Report) (ws : List String) :
    (r.addWarnings ws).warnings = ws.foldl keep r.warnings := by
  induction ws generalizing r with
  | nil => rfl
  | cons w ws ih =>
    simp only [addWarnings, List.foldl_cons] at ih ⊢
    rw [ih, addWarning_warnings]

theorem mem_keep {acc : List String} {w x : String} :
    x ∈ keep acc w ↔ x ∈ acc ∨ (x = w ∧ w.isEmpty = false) := by
  unfold keep
  split
  case isTrue hskip =>
    refine ⟨.inl, ?_⟩
    rintro (hx | ⟨rfl, hne⟩)
    · exact hx
    · simpa [hne] using hskip
  case isFalse hadd =>
    simp only [Bool.or_eq_true, not_or, Bool.not_eq_true] at hadd
    simp [hadd.1]

theorem keep_of_held {acc : List String} {w : String} (h : w.isEmpty = true ∨ w ∈ acc) :
    keep acc w = acc := by
  have h' : (w.isEmpty || acc.contains w) = true := by simpa [List.contains_iff_mem] using h
  simp only [keep, h', if_true]

theorem keep_of_new {acc : List String} {w : String} (he : w.isEmpty = false) (h : w ∉ acc) :
    keep acc w = acc ++ [w] := by
  have h' : (w.isEmpty || acc.contains w) = false := by simpa [List.contains_iff_mem, he] using h
  simp only [keep, h', Bool.false_eq_true, if_false]

/-- What a fold of `keep` holds: what it started with and the non-empty warnings folded. -/
theorem mem_foldl_keep {acc ws : List String} {x : String} :
    x ∈ ws.foldl keep acc ↔ x ∈ acc ∨ (x ∈ ws ∧ x.isEmpty = false) := by
  induction ws generalizing acc with
  | nil => simp
  | cons w ws ih =>
    rw [List.foldl_cons, ih, mem_keep, List.mem_cons]
    constructor
    · rintro ((hx | ⟨rfl, hne⟩) | ⟨hx, hne⟩)
      · exact .inl hx
      · exact .inr ⟨.inl rfl, hne⟩
      · exact .inr ⟨.inr hx, hne⟩
    · rintro (hx | ⟨rfl | hx, hne⟩)
      · exact .inl (.inl hx)
      · exact .inl (.inr ⟨rfl, hne⟩)
      · exact .inr ⟨hx, hne⟩

/-- Folding from nothing keeps the non-empty warnings once each, in order of first
appearance. -/
theorem foldl_keep_nil (ws : List String) :
    ws.foldl keep [] = (ws.filter (fun w => !w.isEmpty)).eraseDups := by
  induction ws using List.reverseRecOn with
  | nil => rfl
  | append_singleton ws w ih =>
    rw [List.foldl_append, List.foldl_cons, List.foldl_nil, ih, List.filter_append]
    cases hw : w.isEmpty
    · -- A non-empty warning is added exactly when it is new.
      have hone : [w].filter (fun w => !w.isEmpty) = [w] := by simp [hw]
      rw [hone, Config.eraseDups_append_singleton]
      by_cases hm : w ∈ ws.filter (fun w => !w.isEmpty)
      · rw [if_pos hm, keep_of_held (.inr (List.mem_eraseDups.2 hm))]
      · rw [if_neg hm, keep_of_new hw (fun h => hm (List.mem_eraseDups.1 h))]
    · have hnone : [w].filter (fun w => !w.isEmpty) = [] := by simp [hw]
      rw [hnone, List.append_nil, keep_of_held (.inl hw)]

/-- Folding `xs` into `ys` and the result into `acc` folds `ys`, then `xs`, into `acc`: the
warnings of `ys` are there already when the fold meets them again. -/
theorem foldl_keep_foldl_keep (acc ys xs : List String) :
    (xs.foldl keep ys).foldl keep acc = xs.foldl keep (ys.foldl keep acc) := by
  induction xs using List.reverseRecOn with
  | nil => rfl
  | append_singleton xs x ih =>
    simp only [List.foldl_append, List.foldl_cons, List.foldl_nil]
    by_cases hskip : x.isEmpty = true ∨ x ∈ xs.foldl keep ys
    · -- `x` is skipped on the left, so it is empty or already held on the right.
      have hheld : x.isEmpty = true ∨ x ∈ xs.foldl keep (ys.foldl keep acc) := by
        rcases hskip with hx | hx
        · exact .inl hx
        · rcases mem_foldl_keep.1 hx with hy | ⟨hxs, hne⟩
          · rcases Bool.eq_false_or_eq_true x.isEmpty with he | he
            · exact .inl he
            · exact .inr (mem_foldl_keep.2 (.inl (mem_foldl_keep.2 (.inr ⟨hy, he⟩))))
          · exact .inr (mem_foldl_keep.2 (.inr ⟨hxs, hne⟩))
      rw [keep_of_held hskip, keep_of_held hheld, ih]
    · simp only [not_or, Bool.not_eq_true] at hskip
      rw [keep_of_new hskip.1 hskip.2, List.foldl_append, List.foldl_cons, List.foldl_nil, ih]

/-- A list of distinct non-empty warnings is kept as it is. -/
theorem foldl_keep_nil_of_nodup {ws : List String} (hnd : ws.Nodup) (hne : "" ∉ ws) :
    ws.foldl keep [] = ws := by
  induction ws using List.reverseRecOn with
  | nil => rfl
  | append_singleton ws w ih =>
    rw [List.nodup_append] at hnd
    have hw : w ∉ ws := fun h => hnd.2.2 w h w (List.mem_singleton_self w) rfl
    have hwe : w.isEmpty = false := by
      rcases Bool.eq_false_or_eq_true w.isEmpty with h | h
      · exact absurd (String.isEmpty_iff.1 h ▸ List.mem_append_right ws (List.mem_singleton_self w)) hne
      · exact h
    rw [List.foldl_append, List.foldl_cons, List.foldl_nil,
      ih hnd.1 (fun h => hne (List.mem_append_left _ h))]
    simp [keep, hwe, hw]

/-! ## Calls on a report -/

/-- A call on a report: adding warnings, or merging another report or nothing. -/
inductive Call where
  /-- `addWarnings ws`. -/
  | addWarnings (ws : List String)
  /-- `merge other`. -/
  | merge (other : Option Report)

/-- Carries out a call. -/
def Call.apply (r : Report) : Call → Report
  | .addWarnings ws => r.addWarnings ws
  | .merge o => r.merge o

/-- The warnings a call offers. -/
def Call.offered : Call → List String
  | .addWarnings ws => ws
  | .merge o => (o.map Report.warnings).getD []

/-- The error a call offers. -/
def Call.error : Call → Option String
  | .addWarnings _ => none
  | .merge o => o.bind Report.error

theorem merge_warnings (r : Report) (o : Report) :
    (r.merge (some o)).warnings = o.warnings.foldl keep r.warnings := by
  unfold merge
  rw [addWarnings_warnings]
  split <;> rfl

theorem merge_some_error (r : Report) (o : Report) : (r.merge (some o)).error = r.error.or o.error := by
  unfold merge
  rw [addWarnings_error]
  cases h : r.error <;> simp [h]

/-- One call: the warnings it offers are folded in, and its error counts only when there
is none yet. -/
theorem Call.apply_eq (r : Report) (c : Call) :
    (c.apply r).warnings = c.offered.foldl keep r.warnings ∧
      (c.apply r).error = r.error.or c.error := by
  cases c with
  | addWarnings ws =>
    refine ⟨addWarnings_warnings r ws, ?_⟩
    simp [Call.apply, Call.error, addWarnings_error]
  | merge o =>
    cases o with
    | none => exact ⟨rfl, Option.or_none.symm⟩
    | some o => exact ⟨merge_warnings r o, merge_some_error r o⟩

/-- The run lemma: a sequence of calls folds every offered warning into the report's own,
and the error is the first one offered, the report's own first. -/
theorem foldl_apply (r : Report) (cs : List Call) :
    (cs.foldl Call.apply r).warnings = (cs.flatMap Call.offered).foldl keep r.warnings ∧
      (cs.foldl Call.apply r).error = (r.error :: cs.map Call.error).findSome? id := by
  induction cs generalizing r with
  | nil =>
    refine ⟨rfl, ?_⟩
    cases h : r.error <;> simp [h]
  | cons c cs ih =>
    obtain ⟨hw, he⟩ := Call.apply_eq r c
    obtain ⟨ihw, ihe⟩ := ih (c.apply r)
    refine ⟨?_, ?_⟩
    · rw [List.foldl_cons, ihw, hw, List.flatMap_cons, List.foldl_append]
    · rw [List.foldl_cons, ihe, he]
      cases r.error <;> simp [List.findSome?_cons]

/-- Two reports with the same error and the same warnings are the same. -/
theorem eq_of_parts {a b : Report} (he : a.error = b.error) (hw : a.warnings = b.warnings) :
    a = b := by
  cases a
  cases b
  cases he
  cases hw
  rfl

/-- Merging is associative, whatever the three reports hold. -/
theorem merge_assoc (a b c : Report) :
    a.merge (some (b.merge (some c))) = (a.merge (some b)).merge (some c) := by
  apply eq_of_parts
  · rw [merge_some_error, merge_some_error, merge_some_error, merge_some_error, Option.or_assoc]
  · rw [merge_warnings, merge_warnings, merge_warnings, merge_warnings, foldl_keep_foldl_keep]

theorem merge_empty (r : Report) : r.merge (some {}) = r :=
  eq_of_parts ((merge_some_error r {}).trans Option.or_none) (merge_warnings r {})

theorem addWarnings_append (r : Report) (xs ys : List String) :
    r.addWarnings (xs ++ ys) = (r.addWarnings xs).addWarnings ys := by
  unfold addWarnings
  rw [List.foldl_append]

/-- Warnings gathered on an empty report and then added are the warnings added directly. -/
theorem addWarnings_gathered (r : Report) (ws : List String) :
    r.addWarnings (({} : Report).addWarnings ws).warnings = r.addWarnings ws := by
  apply eq_of_parts
  · rw [addWarnings_error, addWarnings_error]
  · rw [addWarnings_warnings, addWarnings_warnings, addWarnings_warnings, foldl_keep_foldl_keep]
    rfl

/-- An empty report given warnings holds each non-empty one once, in order. -/
theorem empty_addWarnings (ws : List String) :
    ({} : Report).addWarnings ws = { warnings := (ws.filter (fun w => !w.isEmpty)).eraseDups } :=
  eq_of_parts (addWarnings_error {} ws) ((addWarnings_warnings {} ws).trans (foldl_keep_nil ws))

/-- Any sequence of calls on a report with distinct, non-empty warnings: the warnings are
the report's followed by every offered one, empty ones dropped and each kept once, in order
of first appearance; the error is the first one among the report's and the merged ones, and
the report has failed exactly when there is one. Merging is associative, and merging nothing
or an empty report changes nothing. -/
theorem calls_gather (e : Report) (hnd : e.warnings.Nodup) (hne : "" ∉ e.warnings)
    (cs : List Call) :
    ((cs.foldl Call.apply e).warnings =
        ((e.warnings ++ cs.flatMap Call.offered).filter (fun w => !w.isEmpty)).eraseDups ∧
      (cs.foldl Call.apply e).error = (e.error :: cs.map Call.error).findSome? id ∧
      ((cs.foldl Call.apply e).failed = true ↔
        ((e.error :: cs.map Call.error).findSome? id).isSome)) ∧
    (∀ a b c : Report, a.merge (some (b.merge (some c))) = (a.merge (some b)).merge (some c)) ∧
    ∀ r : Report, r.merge none = r ∧ r.merge (some {}) = r := by
  obtain ⟨hw, he⟩ := foldl_apply e cs
  refine ⟨⟨?_, he, ?_⟩, merge_assoc, fun r => ⟨rfl, merge_empty r⟩⟩
  · -- The report's own warnings are what folding them from nothing gives.
    rw [hw, ← foldl_keep_nil, List.foldl_append, foldl_keep_nil_of_nodup hnd hne]
  · simp [failed, he]

/-- An instance: a report with one warning, then empty and new warnings, a merge of a report
with an error and a duplicate, a merge of nothing, and a merge whose error comes too late. -/
theorem calls_gather_sample :
    (["w"] : List String).Nodup ∧ "" ∉ (["w"] : List String) ∧
      ([Call.addWarnings ["", "x"],
          Call.merge (some { error := some "a", warnings := ["x", "w", "y", "y"] }),
          Call.merge none, Call.merge (some { error := some "b", warnings := ["z"] })].foldl
        Call.apply { warnings := ["w"] }).warnings = ["w", "x", "y", "z"] := by
  refine ⟨by decide, by decide, ?_⟩
  rw [(calls_gather { warnings := ["w"] } (by decide) (by decide) _).1.1]
  decide

end Preflight.Report
