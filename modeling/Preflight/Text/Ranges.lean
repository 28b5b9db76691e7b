/-!
# Sorted code-point ranges

Character properties of the Unicode standard are kept as sorted lists of disjoint closed
ranges of code points. Membership is a binary search over the array form of such a list.
-/

set_option autoImplicit false

namespace Preflight.Text

/-- Whether the code point `c` lies in one of the sorted, disjoint closed ranges `rs`. -/
def inRanges (rs : Array (Nat × Nat)) (c : Nat) : Bool :=
  go 0 rs.size
where
  /-- Searches the ranges with index in `[lo, hi)`. -/
  go (lo hi : Nat) : Bool :=
    if lo < hi then
      let mid := (lo + hi) / 2
      match rs[mid]? with
      | none => false
      | some (a, b) =>
        if c < a then go lo mid
        else if b < c then go (mid + 1) hi
        else true
    else false
  termination_by hi - lo

/-- Whether the code point `c` lies in one of the closed ranges `rs`, by a linear scan. -/
def inRangeList (rs : List (Nat × Nat)) (c : Nat) : Bool :=
  rs.any (fun r => r.1 ≤ c && c ≤ r.2)

end Preflight.Text
