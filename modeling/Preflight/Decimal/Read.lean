import Preflight.Decimal.Format
import Preflight.Text.Blank
import Preflight.Text.Digit
import Preflight.Text.Lower

/-!
# Reading doubles

A decimal `±mant · 10^exp` becomes the double nearest to it. Numeric text is read with an
optional sign, digits that may be grouped by single underscores, an optional point and an
optional exponent; `inf`, `infinity` and `nan` in any case are the special values. Digits of
any script count, and blanks around the text are ignored (the information separators
`\x1c` to `\x1f` are not blanks here).
-/

set_option autoImplicit false

namespace Preflight.Decimal

/-- The double nearest to `mant · 10^exp`, negated when `neg`. -/
def toFloat (neg : Bool) (mant : Nat) (exp : Int) : Float :=
  let size : Int := (Nat.toDigits 10 mant).length
  let mag : Float :=
    if mant == 0 then 0
    else if exp + size > 330 then 1 / 0
    else if exp + size < -360 then 0
    else if 0 ≤ exp then Float.ofScientific mant false exp.toNat
    else Float.ofScientific mant true (-exp).toNat
  if neg then -mag else mag

/-- Reads a run of digits that may be grouped by single underscores; returns the digits'
value, their count and the rest. A run must start and end with a digit. -/
def readGrouped (cs : List Char) : Option (Nat × Nat × List Char) :=
  go cs 0 0 false
where
  /-- Reads from `cs` onto `acc` (having read `n` digits); `afterScore` after an underscore. -/
  go (cs : List Char) (acc n : Nat) (afterScore : Bool) : Option (Nat × Nat × List Char) :=
    match cs with
    | c :: rest =>
      match Text.digitValue? c with
      | some d => go rest (acc * 10 + d) (n + 1) false
      | none =>
        if c == '_' && n > 0 && !afterScore then go rest acc n true
        else if afterScore || n == 0 then none
        else some (acc, n, cs)
    | [] => if afterScore || n == 0 then none else some (acc, n, [])

/-- Reads numeric text as a double; text that is not a number reads as `none`. -/
def parseFloatText (s : String) : Option Float :=
  let cs := Text.stripNumberList s.toList
  let (neg, body) :=
    match cs with
    | '-' :: rest => (true, rest)
    | '+' :: rest => (false, rest)
    | _ => (false, cs)
  let word := Text.lower (String.ofList body)
  if word == "inf" || word == "infinity" then some (if neg then -(1 / 0) else 1 / 0)
  else if word == "nan" then some (0 / 0)
  else
    let intPart := readGrouped body
    let (whole, wholeDigits, afterWhole) :=
      match intPart with
      | some (v, n, rest) => (v, n, rest)
      | none => (0, 0, body)
    let fracResult : Option (Nat × Nat × List Char) :=
      match afterWhole with
      | '.' :: rest =>
        match readGrouped rest with
        | some r => some r
        | none => if wholeDigits > 0 then some (0, 0, rest) else none
      | _ => if wholeDigits > 0 then some (0, 0, afterWhole) else none
    match fracResult with
    | none => none
    | some (frac, fracDigits, afterFrac) =>
      let expResult : Option (Int × List Char) :=
        match afterFrac with
        | e :: rest =>
          if e == 'e' || e == 'E' then
            let (eneg, digits) :=
              match rest with
              | '-' :: r => (true, r)
              | '+' :: r => (false, r)
              | _ => (false, rest)
            match readGrouped digits with
            | some (v, _, r) => some ((if eneg then -(v : Int) else v), r)
            | none => none
          else some (0, afterFrac)
        | [] => some (0, [])
      match expResult with
      | some (e, []) =>
        some (toFloat neg (whole * Nat.pow 10 fracDigits + frac) (e - fracDigits))
      | _ => none

end Preflight.Decimal
