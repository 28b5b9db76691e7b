import Preflight.Text.Pattern

/-!
# Tags chosen from a plain scalar's text

A plain scalar without a tag is given one by its text, under the rules of YAML 1.1: the
words `yes`, `no`, `true`, `false`, `on`, `off` (in lower, title or upper case) are truth
values; integers may be binary (`0b`), octal (a leading `0`), decimal, hexadecimal (`0x`) or
sexagesimal (`1:30`), with `_` between digits; floats need a point and may be
sexagesimal, infinite (`.inf`) or not a number (`.nan`); `~`, `null` and the empty text are
null; dates are `YYYY-MM-DD` and times follow them; `<<` merges mappings. Anything else is
a string. The rules are tried in a fixed order, looked up by the first character.
-/

set_option autoImplicit false

namespace Preflight.Yaml

open Preflight.Text Pattern

/-- The prefix of the standard tags. -/
def standardPrefix : String := "tag:yaml.org,2002:"

/-- The standard tags. -/
def strTag : String := standardPrefix ++ "str"
def seqTag : String := standardPrefix ++ "seq"
def mapTag : String := standardPrefix ++ "map"
def nullTag : String := standardPrefix ++ "null"
def boolTag : String := standardPrefix ++ "bool"
def intTag : String := standardPrefix ++ "int"
def floatTag : String := standardPrefix ++ "float"
def timestampTag : String := standardPrefix ++ "timestamp"
def mergeTag : String := standardPrefix ++ "merge"
def valueTag : String := standardPrefix ++ "value"
def yamlTag : String := standardPrefix ++ "yaml"
def binaryTag : String := standardPrefix ++ "binary"
def omapTag : String := standardPrefix ++ "omap"
def pairsTag : String := standardPrefix ++ "pairs"
def setTag : String := standardPrefix ++ "set"

/-- An optional sign. -/
def sign : Pattern := opt (oneOf "-+")

/-- Digits and underscores. -/
def digitsOrScores : Pattern := many (one (fun c => ('0' ≤ c && c ≤ '9') || c == '_'))

/-- A sexagesimal group: a colon and one or two digits below 60. -/
def sexagesimalGroup : Pattern :=
  seq [lit ':', opt (one (fun c => '0' ≤ c && c ≤ '5')), digit]

/-- An exponent with a sign. -/
def exponent : Pattern := seq [oneOf "eE", oneOf "-+", many1 digit]

/-- The texts of truth values. -/
def boolWords : List String :=
  ["yes", "Yes", "YES", "no", "No", "NO", "true", "True", "TRUE", "false", "False", "FALSE",
   "on", "On", "ON", "off", "Off", "OFF"]

/-- Floating-point numbers. -/
def floatPattern : Pattern := any
  [seq [sign, digit, digitsOrScores, lit '.', digitsOrScores, opt exponent],
   seq [lit '.', digit, digitsOrScores, opt exponent],
   seq [sign, digit, digitsOrScores, many1 sexagesimalGroup, lit '.', digitsOrScores],
   seq [sign, lit '.', any [word "inf", word "Inf", word "INF"]],
   seq [lit '.', any [word "nan", word "NaN", word "NAN"]]]

/-- Integers. -/
def intPattern : Pattern := any
  [seq [sign, word "0b", many1 (oneOf "01_")],
   seq [sign, lit '0', many1 (oneOf "01234567_")],
   seq [sign, any [lit '0', seq [oneOf "123456789", digitsOrScores]]],
   seq [sign, word "0x", many1 (oneOf "0123456789abcdefABCDEF_")],
   seq [sign, oneOf "123456789", digitsOrScores, many1 sexagesimalGroup]]

/-- Dates, and dates with times. -/
def timestampPattern : Pattern := any
  [seq [digit, digit, digit, digit, lit '-', digit, digit, lit '-', digit, digit],
   seq [digit, digit, digit, digit, lit '-', digit, opt digit, lit '-', digit, opt digit,
        any [oneOf "Tt", many1 (oneOf " \t")],
        digit, opt digit, lit ':', digit, digit, lit ':', digit, digit,
        opt (seq [lit '.', many digit]),
        opt (seq [many (oneOf " \t"),
          any [lit 'Z', seq [oneOf "-+", digit, opt digit, opt (seq [lit ':', digit, digit])]]])]]

/-- The implicit rules, in the order they are tried. -/
def implicitRules : List (String × String × (String → Bool)) :=
  [(boolTag, "yYnNtTfFoO", fun s => boolWords.contains s),
   (floatTag, "-+0123456789.", fun s => readsAll floatPattern s.toList),
   (intTag, "-+0123456789", fun s => readsAll intPattern s.toList),
   (mergeTag, "<", fun s => s == "<<"),
   (nullTag, "~nN", fun s => s == "~" || s == "null" || s == "Null" || s == "NULL" || s == ""),
   (timestampTag, "0123456789", fun s => readsAll timestampPattern s.toList),
   (valueTag, "=", fun s => s == "="),
   (yamlTag, "!&*", fun s => s == "!" || s == "&" || s == "*")]

/-- The tag of a plain scalar's text. -/
def implicitTag (text : String) : String :=
  let rules : List (String × (String → Bool)) := match text.toList with
    | [] => [(nullTag, fun (s : String) => s == "")]
    | c :: _ =>
      (implicitRules.filter (fun (r : String × String × (String → Bool)) => r.2.1.toList.contains c)).map
        (fun (r : String × String × (String → Bool)) => (r.1, r.2.2))
  match rules.find? (fun (r : String × (String → Bool)) => r.2 text) with
  | some r => r.1
  | none => strTag

end Preflight.Yaml
