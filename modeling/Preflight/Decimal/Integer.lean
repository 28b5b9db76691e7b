import Preflight.Value.Display
import Preflight.Text.Blank
import Preflight.Text.Digit
import Preflight.Failure

/-!
# Reading integers in a base

An integer is read from a text in base 2, 8, 10 or 16: blanks around it, an optional sign,
for bases 2, 8 and 16 an optional prefix (`0b`, `0o`, `0x`, either case) that may be
followed by one underscore, then digits with single underscores between them. Decimal
digits of every script count as digits; other blanks of any script are blanks. A decimal
integer may have at most 4300 digits.
-/

set_option autoImplicit false

namespace Preflight.Decimal

/-- Why a text is not read as an integer. -/
inductive IntFault where
  /-- The text is not an integer in the base. -/
  | badLiteral (text : String) (base : Nat)
  /-- A decimal integer has more digits than are read. -/
  | tooManyDigits (count : Nat)
  deriving DecidableEq, Repr

/-- The wording of an integer fault; the text is shown cut to 200 characters. -/
def IntFault.message : IntFault → String
  | .badLiteral t b =>
    s!"invalid literal for int() with base {b}: " ++ String.ofList ((displayText t).toList.take 200)
  | .tooManyDigits n => (Failure.tooManyDigits n).message

/-- A character as the reader sees it: ASCII as is, other blanks as a space, other decimal
digits as their ASCII digit, anything else as `?`. -/
def asciiView (c : Char) : Char :=
  if c.toNat < 128 then c
  else if Text.isBlank c then ' '
  else match Text.digitValue? c with
    | some d => Char.ofNat ('0'.toNat + d)
    | none => '?'

/-- Whether an ASCII character is a blank for the reader. -/
def isAsciiBlank (c : Char) : Bool :=
  c == ' ' || ('\t' ≤ c && c ≤ '\r')

/-- The value of an ASCII digit or letter as a digit, 37 for anything else. -/
def digitOf (c : Char) : Nat :=
  if '0' ≤ c && c ≤ '9' then c.toNat - '0'.toNat
  else if 'a' ≤ c && c ≤ 'z' then c.toNat - 'a'.toNat + 10
  else if 'A' ≤ c && c ≤ 'Z' then c.toNat - 'A'.toNat + 10
  else 37

/-- Reads a run of digits in `base` with single underscores between them: the value, the
number of digits and the rest, or `none` for a doubled or trailing underscore. -/
def digitRun (base : Nat) (cs : List Char) : Option (Nat × Nat × List Char) :=
  go cs 0 0 false
where
  /-- Reads from `cs` onto `acc` after `n` digits; `afterScore` just after an underscore. -/
  go (cs : List Char) (acc n : Nat) (afterScore : Bool) : Option (Nat × Nat × List Char) :=
    match cs with
    | c :: rest =>
      if c == '_' then
        if afterScore then none else go rest acc n true
      else if digitOf c < base then go rest (acc * base + digitOf c) (n + 1) false
      else if afterScore then none else some (acc, n, cs)
    | [] => if afterScore then none else some (acc, n, [])

/-- Reads a text as an integer in base 2, 8, 10 or 16. -/
def readInt (text : String) (base : Nat) : Except IntFault Int :=
  let bad := IntFault.badLiteral text base
  let cs := (text.toList.map asciiView).dropWhile isAsciiBlank
  let (neg, cs) := match cs with
    | '+' :: rest => (false, rest)
    | '-' :: rest => (true, rest)
    | _ => (false, cs)
  let cs := match cs with
    | '0' :: p :: rest =>
      if (base == 16 && (p == 'x' || p == 'X')) || (base == 8 && (p == 'o' || p == 'O')) ||
          (base == 2 && (p == 'b' || p == 'B')) then
        match rest with
        | '_' :: r => r
        | _ => rest
      else cs
    | _ => cs
  if cs.head? == some '_' then .error bad
  else
    match digitRun base cs with
    | none => .error bad
    | some (v, n, rest) =>
      if base == 10 && n > 4300 then .error (.tooManyDigits n)
      else if n == 0 then .error bad
      else if (rest.dropWhile isAsciiBlank).isEmpty then .ok (if neg then -(v : Int) else v)
      else .error bad

end Preflight.Decimal
