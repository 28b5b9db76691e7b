import Mathlib.Data.List.Sort
import Mathlib.Data.String.Basic
import Preflight.Proofs.Files.Lookup

/-!
# Sorting texts

`Text.sortTexts` inserts texts one by one, each before the first text it comes before or
equals in code-point order. That order is the order of texts (`textLe_iff`), so the insertion
is the library's ordered insertion and the sort is its insertion sort
(`sortTexts_eq_insertionSort`): the texts come out sorted (`pairwise_sortTexts`), strictly so
when none is given twice (`pairwise_lt_sortTexts`). Directory listings are sorted this way.
-/

set_option autoImplicit false

namespace Preflight.Text

theorem charsLt_iff (xs ys : List Char) : charsLt xs ys = true ↔ xs < ys := by
  induction xs generalizing ys with
  | nil => cases ys <;> simp [charsLt]
  | cons a as ih =>
    cases ys with
    | nil => simp [charsLt]
    | cons b bs =>
      rw [List.cons_lt_cons_iff, ← ih bs, Char.lt_def, UInt32.lt_iff_toNat_lt, ← Char.toNat_inj]
      simp only [charsLt, Bool.or_eq_true, decide_eq_true_eq, Bool.and_eq_true, beq_iff_eq]
      exact Iff.rfl

/-- Code-point order is the order of texts. -/
theorem textLe_iff (a b : String) : textLe a b = true ↔ a ≤ b := by
  rw [← not_lt, String.lt_iff_toList_lt, ← charsLt_iff]
  simp [textLe, charsLe]

theorem insertText_eq (a : String) (l : List String) :
    insertText a l = l.orderedInsert (· ≤ ·) a := by
  induction l with
  | nil => rfl
  | cons b l ih =>
    simp only [insertText, List.orderedInsert]
    by_cases h : a ≤ b
    · rw [if_pos ((textLe_iff a b).2 h), if_pos h]
    · rw [if_neg (fun h' => h ((textLe_iff a b).1 h')), if_neg h, ih]

theorem sortTexts_eq_insertionSort (l : List String) : sortTexts l = l.insertionSort (· ≤ ·) := by
  induction l with
  | nil => rfl
  | cons a l ih =>
    simp only [sortTexts, List.foldr_cons] at ih ⊢
    rw [ih, insertText_eq]
    rfl

/-- Sorted texts come in order. -/
theorem pairwise_sortTexts (l : List String) : (sortTexts l).Pairwise (· ≤ ·) := by
  rw [sortTexts_eq_insertionSort]
  exact List.pairwise_insertionSort _ l

/-- Texts given once each come in strict order. -/
theorem pairwise_lt_sortTexts {l : List String} (hl : l.Nodup) : (sortTexts l).Pairwise (· < ·) :=
  ((pairwise_sortTexts l).and ((perm_sortTexts l).nodup_iff.2 hl)).imp
    fun h => lt_of_le_of_ne h.1 h.2

end Preflight.Text
