import Preflight.Decimal.Format

/-!
# Capping the memory of a run

A run may cap its address space at a number of megabytes (of 1024 · 1024 bytes). A cap
that is not positive means no cap. The cap asked for the address space keeps its hard
limit: the soft limit becomes the cap, lowered to the hard limit when one is set. When the
system refuses the new limits the run goes on without a cap and a warning is written.

The number of megabytes may be an integer or a double; a double gives a double number of
bytes. Comparing a double with the hard limit is exact.
-/

set_option autoImplicit false

namespace Preflight.Memory

/-- A number of megabytes or bytes: an integer or a double. -/
inductive Amount where
  | whole (n : Int)
  | real (x : Float)

/-- The hard limit that stands for no limit. -/
def unlimited : Int := -1

/-- Bytes in a megabyte. -/
def bytesPerMegabyte : Nat := 1024 * 1024

namespace Amount

/-- The number of bytes in an amount of megabytes. -/
def toBytes : Amount → Amount
  | .whole n => .whole (n * bytesPerMegabyte)
  | .real x => .real (x * 1024 * 1024)

/-- Whether an amount is at most zero; a double that is not a number is not. -/
def nonPositive : Amount → Bool
  | .whole n => n ≤ 0
  | .real x => x ≤ 0

/-- Compares a double with an integer exactly; `none` when the double is not a number. -/
def compareReal (x : Float) (n : Int) : Option Ordering :=
  if Decimal.isNaN x then none
  else if Decimal.isInfinite x then some (if x > 0 then .gt else .lt)
  else
    let t := Decimal.truncInt x
    if t != n then some (compare t n)
    else if x == Float.ofInt t then some .eq
    else some (if x > 0 then .gt else .lt)

/-- Whether an integer is smaller than an amount. -/
def exceeds (a : Amount) (n : Int) : Bool :=
  match a with
  | .whole m => n < m
  | .real x => compareReal x n == some .gt

/-- The smaller of an amount and an integer; the amount when neither is smaller. -/
def atMost (a : Amount) (n : Int) : Amount :=
  if a.exceeds n then .whole n else a

/-- The integer part of an amount, as messages show it. -/
def wholePart : Amount → Int
  | .whole n => n
  | .real x => Decimal.truncInt x

end Amount

/-- Why the system refused new limits. -/
inductive Refusal where
  /-- Raising the hard limit is not allowed. -/
  | notAllowed
  /-- The operation is not permitted. -/
  | notPermitted
  deriving DecidableEq

/-- The wording of a refusal. -/
def Refusal.text : Refusal → String
  | .notAllowed => "not allowed to raise maximum limit"
  | .notPermitted => "[Errno 1] Operation not permitted"

/-- What capping did: whether a cap holds, the limits asked of the system (soft and hard),
and the warning to log. -/
structure Outcome where
  /-- Whether the cap holds. -/
  capped : Bool
  /-- The soft and hard limits asked of the system. -/
  asked : List (Amount × Int)
  /-- The warning to log, when the system refused. -/
  warning : Option String

/-- Caps the address space at `maxMb` megabytes, given the current hard limit and whether
the system refuses new limits. -/
def cap (maxMb : Amount) (hard : Int) (refusal : Option Refusal) : Outcome :=
  let bytes := maxMb.toBytes
  if bytes.nonPositive then ⟨false, [], none⟩
  else
    let soft := if hard == unlimited then bytes else bytes.atMost hard
    match refusal with
    | none => ⟨true, [(soft, hard)], none⟩
    | some r =>
      ⟨false, [(soft, hard)], some s!"failed to set memory limit of {maxMb.wholePart} MB: {r.text}"⟩

end Preflight.Memory
