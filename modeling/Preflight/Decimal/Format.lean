import Preflight.Decimal.Shortest

/-!
# Writing doubles

A double is written from its shortest digits. Where the digits go is a choice of the output
format, kept in a `FloatStyle`: the range of leading-digit exponents written positionally,
whether a scientific mantissa always shows a point, and the words for the non-finite values.
Positional text always shows a point and at least one digit after it.
-/

set_option autoImplicit false

namespace Preflight.Decimal

/-- The choices a text format makes when it writes a double. -/
structure FloatStyle where
  /-- The least leading-digit exponent written positionally. -/
  positionalFrom : Int
  /-- The first leading-digit exponent written in scientific notation. -/
  scientificFrom : Int
  /-- Whether a one-digit scientific mantissa is written with `.0`. -/
  pointInScientific : Bool
  /-- The word for not-a-number. -/
  nan : String
  /-- The word for infinity; negative infinity has a minus sign before it. -/
  infinity : String

/-- Plain numeric text: exponents from -4 to 15 positional, `1e+20` in scientific form,
`nan` and `inf`. -/
def FloatStyle.plain : FloatStyle := ⟨-4, 16, false, "nan", "inf"⟩

/-- Data-file text: as plain text, but `1.0e+20`, `.nan` and `.inf`. -/
def FloatStyle.document : FloatStyle := ⟨-4, 16, true, ".nan", ".inf"⟩

/-- Interchange text: as plain text, but `NaN` and `Infinity`. -/
def FloatStyle.interchange : FloatStyle := ⟨-4, 16, false, "NaN", "Infinity"⟩

/-- Whether a double is not a number. -/
def isNaN (x : Float) : Bool := x != x

/-- Whether a double is infinite. -/
def isInfinite (x : Float) : Bool := !isNaN x && isNaN (x - x)

/-- Whether the sign bit of a double is set. -/
def signBit (x : Float) : Bool := (x.toBits >>> 63) == 1

/-- Writes the exponent of scientific notation: a sign and at least two digits. -/
def exponentText (k : Int) : String :=
  let mag := toString k.natAbs
  (if k < 0 then "-" else "+") ++ (if mag.length < 2 then "0" ++ mag else mag)

/-- Writes the digits `ds` (most significant first) whose leading digit has exponent `lead`. -/
def FloatStyle.layout (st : FloatStyle) (ds : List Char) (lead : Int) : String :=
  let n := ds.length
  if st.positionalFrom ≤ lead && lead < st.scientificFrom then
    if lead < 0 then
      "0." ++ String.ofList (List.replicate ((-lead).toNat - 1) '0') ++ String.ofList ds
    else if lead + 1 ≥ n then
      String.ofList ds ++ String.ofList (List.replicate ((lead + 1).toNat - n) '0') ++ ".0"
    else
      String.ofList (ds.take (lead + 1).toNat) ++ "." ++ String.ofList (ds.drop (lead + 1).toNat)
  else
    let mant :=
      match ds with
      | [d] => if st.pointInScientific then String.ofList [d, '.', '0'] else String.ofList [d]
      | d :: rest => String.ofList (d :: '.' :: rest)
      | [] => "0"
    mant ++ "e" ++ exponentText lead

/-- Writes a double in the style `st`. -/
def FloatStyle.render (st : FloatStyle) (x : Float) : String :=
  if isNaN x then st.nan
  else if isInfinite x then (if x < 0 then "-" ++ st.infinity else st.infinity)
  else
    let sign := if signBit x then "-" else ""
    if x == 0 then sign ++ "0.0"
    else
      let (d, e) := shortest (x.abs).toBits
      let ds := Nat.toDigits 10 d
      sign ++ st.layout ds (e + ds.length - 1)

/-- The integer part of a finite double, rounded toward zero. -/
def truncInt (x : Float) : Int :=
  if isNaN x || isInfinite x || x == 0 then 0
  else
    let b := Binary.ofBits x.abs.toBits
    let mag := if 0 ≤ b.exp then b.mant * Nat.pow 2 b.exp.toNat else b.mant / Nat.pow 2 (-b.exp).toNat
    if signBit x then -(mag : Int) else mag

end Preflight.Decimal
