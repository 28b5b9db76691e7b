import Preflight.Value.Display
import Preflight.Text.Blank
import Preflight.Text.Digit
import Preflight.Text.Lower
import Preflight.Decimal.Integer

/-!
# Reading configuration values as truth values and integers

A truth value is read from a truth value, from a number (any non-zero number is true), or
from a text that is, once blanks are stripped and letters lower-cased, one of `1`, `true`,
`yes`, `on` or one of `0`, `false`, `no`, `off`.

An integer is read from an integer (not a truth value) or from a text: after stripping
blanks, an optional sign and decimal digits of any script, single underscores allowed
between digits. At most 4300 digits are read. A text with a lone surrogate is never an
integer.
-/

set_option autoImplicit false

namespace Preflight.Config

/-- Why a value could not be read as a truth value or an integer. -/
inductive CoerceFault where
  /-- The value has no truth value. -/
  | notBoolean (v : Value)
  /-- The value is of a kind that is not read as an integer. -/
  | notInteger (v : Value)
  /-- The text (stripped) is not a decimal integer. -/
  | badLiteral (text : Value)
  /-- The text has more digits than are read. -/
  | tooManyDigits (count : Nat)

/-- The wording of a coercion fault. -/
def CoerceFault.message : CoerceFault → String
  | .notBoolean v => s!"cannot interpret {v.display} as a boolean"
  | .notInteger v => s!"cannot interpret {v.display} as an integer"
  | .badLiteral t => "invalid literal for int() with base 10: " ++ String.ofList (t.display.toList.take 200)
  | .tooManyDigits n => (Failure.tooManyDigits n).message

/-- The texts that read as true. -/
def trueWords : List String := ["1", "true", "yes", "on"]

/-- The texts that read as false. -/
def falseWords : List String := ["0", "false", "no", "off"]

/-- Reads a value as a truth value. -/
def coerceBool (v : Value) : Except CoerceFault Bool :=
  match v with
  | .bool b => .ok b
  | .int n => .ok (n != 0)
  | .float x => .ok (x != 0)
  | .str s =>
    let w := Text.lower (Text.strip s)
    if trueWords.contains w then .ok true
    else if falseWords.contains w then .ok false
    else .error (.notBoolean v)
  | _ => .error (.notBoolean v)

/-- Reads a text as a decimal integer, blanks stripped first. -/
def parseInt (s : String) : Except CoerceFault Int :=
  match Decimal.readInt (Text.strip s) 10 with
  | .ok n => .ok n
  | .error (.tooManyDigits n) => .error (.tooManyDigits n)
  | .error (.badLiteral t _) => .error (.badLiteral (.str t))

/-- Strips blanks at both ends of a text given by code points. -/
def stripPoints (ps : List Nat) : List Nat :=
  let blank (n : Nat) : Bool := !Value.isSurrogate n && Text.isBlank (Char.ofNat n)
  ((ps.dropWhile blank).reverse.dropWhile blank).reverse

/-- Reads a value as an integer. -/
def coerceInt (v : Value) : Except CoerceFault Int :=
  match v with
  | .int n => .ok n
  | .str s => parseInt s
  | .codeStr ps => .error (.badLiteral (Value.ofPoints (stripPoints ps)))
  | _ => .error (.notInteger v)

end Preflight.Config
