/-!
# Shortest decimal digits of a double

A finite positive double is `m · 2^q` for a 53-bit integer `m`. The reals that round to it
form an interval around it whose ends are halfway to the neighbouring doubles; the ends
belong to it exactly when `m` is even. The shortest decimal text of the double has the
fewest significant digits whose value lies in that interval; of two such values on the same
decimal grid the nearer one is taken, and an exact tie goes to the even digit string.

All comparisons are exact: values are scaled to natural numbers before they are compared.
-/

set_option autoImplicit false

namespace Preflight.Decimal

/-- A finite positive double split into its integer significand and binary exponent. -/
structure Binary where
  /-- The integer significand, at most 53 bits. -/
  mant : Nat
  /-- The binary exponent: the value is `mant · 2^exp`. -/
  exp : Int
  /-- Whether the gap to the next lower double is half the gap to the next higher one. -/
  narrowBelow : Bool

/-- Splits the bits of a finite, non-zero double into significand and exponent. -/
def Binary.ofBits (bits : UInt64) : Binary :=
  let frac := (bits &&& 0xFFFFFFFFFFFFF).toNat
  let field := ((bits >>> 52) &&& 0x7FF).toNat
  if field == 0 then
    { mant := frac, exp := -1074, narrowBelow := false }
  else
    { mant := frac + Nat.pow 2 52, exp := (field : Int) - 1075,
      narrowBelow := frac == 0 && field > 1 }

/-- `a · 2^p` as a fraction of natural numbers. -/
def scaled2 (a : Nat) (p : Int) : Nat × Nat :=
  if 0 ≤ p then (a * Nat.pow 2 p.toNat, 1) else (a, Nat.pow 2 (-p).toNat)

/-- `a · 10^p` as a fraction of natural numbers. -/
def scaled10 (a : Nat) (p : Int) : Nat × Nat :=
  if 0 ≤ p then (a * Nat.pow 10 p.toNat, 1) else (a, Nat.pow 10 (-p).toNat)

/-- Compares two fractions of natural numbers with positive denominators. -/
def cmpFrac (x y : Nat × Nat) : Ordering :=
  compare (x.1 * y.2) (y.1 * x.2)

/-- The interval of reals that round to a double, in units of `2^(exp - 2)`. -/
structure Window where
  /-- Lower end, in units of `2^(exp - 2)`. -/
  low : Nat
  /-- The double itself, in the same units. -/
  mid : Nat
  /-- Upper end, in the same units. -/
  high : Nat
  /-- Whether the ends belong to the interval. -/
  closed : Bool
  /-- The binary exponent of the unit, `exp - 2`. -/
  unit : Int

/-- The rounding interval of a double. -/
def Binary.window (b : Binary) : Window :=
  { low := 4 * b.mant - (if b.narrowBelow then 1 else 2), mid := 4 * b.mant,
    high := 4 * b.mant + 2, closed := b.mant % 2 == 0, unit := b.exp - 2 }

/-- Whether the decimal `d · 10^e` rounds to the double of window `w`. -/
def Window.holds (w : Window) (d : Nat) (e : Int) : Bool :=
  let v := scaled10 d e
  let lo := cmpFrac (scaled2 w.low w.unit) v
  let hi := cmpFrac v (scaled2 w.high w.unit)
  if w.closed then lo != .gt && hi != .gt else lo == .lt && hi == .lt

/-- The largest `d` with `d · 10^e` at most the double of window `w`. -/
def Window.floorAt (w : Window) (e : Int) : Nat :=
  let x := scaled2 w.mid w.unit
  if 0 ≤ e then x.1 / (x.2 * Nat.pow 10 e.toNat) else (x.1 * Nat.pow 10 (-e).toNat) / x.2

/-- The decimal exponent of the leading digit: `10^k ≤ value < 10^(k+1)`. -/
def Window.leadExponent (w : Window) : Int :=
  let x := scaled2 w.mid w.unit
  -- digits of the integer part, or leading zeros after the point
  let intPart := x.1 / x.2
  if intPart ≥ 1 then (Nat.toDigits 10 intPart).length - 1
  else
    let rec down (k : Nat) (fuel : Nat) : Int :=
      match fuel with
      | 0 => -(k : Int)
      | fuel + 1 =>
        if x.1 * Nat.pow 10 k ≥ x.2 then -(k : Int) else down (k + 1) fuel
    down 1 400

/-- Among the grid points `d` and `d + 1` at exponent `e`, the one to print, if either rounds
to the double: the nearer, and on a tie the even one. -/
def Window.pick (w : Window) (d : Nat) (e : Int) : Option Nat :=
  let inLow := w.holds d e
  let inHigh := w.holds (d + 1) e
  if inLow && inHigh then
    let x := scaled2 w.mid w.unit
    let below := scaled10 d e
    let above := scaled10 (d + 1) e
    -- compare x - below with above - x, as fractions over a common denominator
    let xs := x.1 * below.2 * above.2
    let bs := below.1 * x.2 * above.2
    let as := above.1 * x.2 * below.2
    match compare (xs - bs) (as - xs) with
    | .lt => some d
    | .gt => some (d + 1)
    | .eq => if d % 2 == 0 then some d else some (d + 1)
  else if inLow then some d
  else if inHigh then some (d + 1)
  else none

/-- Significant digits and the exponent of the last one: the shortest decimal that rounds to
the double of window `w`, searching 1 to 17 digits. -/
def Window.shortest (w : Window) : Nat × Int :=
  let lead := w.leadExponent
  let rec go (k : Nat) (fuel : Nat) : Nat × Int :=
    let e := lead - (k : Int) + 1
    match fuel with
    | 0 => (w.floorAt e, e)
    | fuel + 1 =>
      match w.pick (w.floorAt e) e with
      | some d => (d, e)
      | none => go (k + 1) fuel
  go 1 17

/-- Moves trailing zero digits into the exponent. -/
def trimZeros (d : Nat) (e : Int) : Nat × Int :=
  let rec go (d : Nat) (e : Int) (fuel : Nat) : Nat × Int :=
    match fuel with
    | 0 => (d, e)
    | fuel + 1 => if d != 0 && d % 10 == 0 then go (d / 10) (e + 1) fuel else (d, e)
  go d e 20

/-- The shortest significant digits of a finite positive double and the decimal exponent of
the last digit: the value is `digits · 10^exponent`, and `digits` ends in a non-zero digit. -/
def shortest (bits : UInt64) : Nat × Int :=
  let (d, e) := (Binary.ofBits bits).window.shortest
  trimZeros d e

end Preflight.Decimal
