import Preflight.Value
import Preflight.Text.Printable

/-!
# Display text of values

Messages show values in a fixed notation: `None`, `True` and `False`; integers in decimal;
doubles by their shortest digits; texts in single quotes, or in double quotes when the text
holds a single quote and no double quote, with backslash escapes for the quote in use, the
backslash, tab, line feed, carriage return and every non-printable character; byte strings
the same way after a `b`, escaping every byte outside printable ASCII; lists in brackets,
tuples in parentheses, sets and mappings in braces; dates and moments as constructor calls.
A lone surrogate shows as `\uXXXX`; a collection met again inside itself as `[...]` or
`{...}`.
-/

set_option autoImplicit false

namespace Preflight

open Preflight.Time

/-- Lower-case hexadecimal digits of `n`, padded with zeros to `width`. -/
def hexPad (width : Nat) (n : Nat) : String :=
  let s := String.ofList (Nat.toDigits 16 n)
  String.ofList (List.replicate (width - s.length) '0') ++ s

/-- The quote a text is displayed in. -/
def quoteFor (hasSingle hasDouble : Bool) : Char :=
  if hasSingle && !hasDouble then '"' else '\''

/-- The escaped form of one character of a displayed text quoted by `q`. -/
def escapeChar (q : Char) (c : Char) : String :=
  if c == q then String.ofList ['\\', c]
  else if c == '\\' then "\\\\"
  else if c == '\t' then "\\t"
  else if c == '\n' then "\\n"
  else if c == '\r' then "\\r"
  else if Text.isPrintable c then String.singleton c
  else
    let n := c.toNat
    if n < 0x100 then "\\x" ++ hexPad 2 n
    else if n < 0x10000 then "\\u" ++ hexPad 4 n
    else "\\U" ++ hexPad 8 n

/-- The display of a text. -/
def displayText (s : String) : String :=
  let q := quoteFor (s.toList.contains '\'') (s.toList.contains '"')
  String.singleton q ++ String.join (s.toList.map (escapeChar q)) ++ String.singleton q

/-- The escaped form of one code point of a displayed text quoted by `q`: a surrogate is
never printable. -/
def escapePoint (q : Char) (n : Nat) : String :=
  if Value.isSurrogate n then "\\u" ++ hexPad 4 n else escapeChar q (Char.ofNat n)

/-- The display of a text given by code points. -/
def displayPoints (ps : List Nat) : String :=
  let q := quoteFor (ps.contains 39) (ps.contains 34)
  String.singleton q ++ String.join (ps.map (escapePoint q)) ++ String.singleton q

/-- The escaped form of one byte of a displayed byte string quoted by `q`. -/
def escapeByte (q : Char) (b : UInt8) : String :=
  let n := b.toNat
  if n == q.toNat then String.ofList ['\\', q]
  else if n == 92 then "\\\\"
  else if n == 9 then "\\t"
  else if n == 10 then "\\n"
  else if n == 13 then "\\r"
  else if 32 ≤ n && n < 127 then String.singleton (Char.ofNat n)
  else "\\x" ++ hexPad 2 n

/-- The display of a byte string. -/
def displayBytes (bs : List UInt8) : String :=
  let q := quoteFor (bs.contains 39) (bs.contains 34)
  "b" ++ String.singleton q ++ String.join (bs.map (escapeByte q)) ++ String.singleton q

/-- The display of a span of time given in microseconds, with days, seconds and microseconds
normalised so that only the days may be negative. -/
def displaySpan (us : Int) : String :=
  let day : Int := microsPerDay
  let days := us / day
  let rest := (us % day).toNat
  let secs := rest / 1000000
  let micros := rest % 1000000
  let parts :=
    (if days != 0 then [s!"days={days}"] else []) ++
    (if secs != 0 then [s!"seconds={secs}"] else []) ++
    (if micros != 0 then [s!"microseconds={micros}"] else [])
  "datetime.timedelta(" ++ (if parts.isEmpty then "0" else ", ".intercalate parts) ++ ")"

/-- The display of a fixed offset from UTC. -/
def displayZone (us : Int) : String :=
  if us == 0 then "datetime.timezone.utc"
  else "datetime.timezone(" ++ displaySpan us ++ ")"

/-- The display of a date. -/
def displayDate (d : Date) : String :=
  s!"datetime.date({d.year}, {d.month}, {d.day})"

/-- The display of a moment: trailing zero microseconds, and then zero seconds, are left out. -/
def displayMoment (t : Moment) : String :=
  let fields := [t.date.year, t.date.month, t.date.day, t.hour, t.minute, t.second, t.micro]
  let fields := if t.micro == 0 then fields.take 6 else fields
  let fields := if t.micro == 0 && t.second == 0 then fields.take 5 else fields
  let zone := match t.offset with
    | none => ""
    | some us => ", tzinfo=" ++ displayZone us
  "datetime.datetime(" ++ ", ".intercalate (fields.map toString) ++ zone ++ ")"

namespace Value

mutual
/-- The display of a value. -/
def display : Value → String
  | .null => "None"
  | .bool b => if b then "True" else "False"
  | .int n => toString n
  | .float x => Decimal.FloatStyle.plain.render x
  | .str s => displayText s
  | .codeStr ps => displayPoints ps
  | .bytes b => displayBytes b
  | .date d => displayDate d
  | .moment t => displayMoment t
  | .list xs => "[" ++ displayAll xs ++ "]"
  | .tuple xs => "(" ++ displayAll xs ++ (if xs.length == 1 then ",)" else ")")
  | .set xs => if xs.isEmpty then "set()" else "\x7b" ++ displayAll xs ++ "\x7d"
  | .dict es => "\x7b" ++ displayEntries es ++ "\x7d"
  | .cycle m => if m then "\x7b...\x7d" else "[...]"
/-- The displays of a list of values, separated by commas. -/
def displayAll : List Value → String
  | [] => ""
  | x :: xs => display x ++ (if xs.isEmpty then "" else ", " ++ displayAll xs)
/-- The display of one mapping entry. -/
def displayEntry : Value × Value → String
  | (k, v) => display k ++ ": " ++ display v
/-- The displays of mapping entries, separated by commas. -/
def displayEntries : List (Value × Value) → String
  | [] => ""
  | e :: es => displayEntry e ++ (if es.isEmpty then "" else ", " ++ displayEntries es)
end

/-- The plain text of a value: a text is itself, a date or moment its ISO text (a space
between date and time), anything else its display. A lone surrogate, which a `String`
cannot hold, becomes the replacement character. -/
def text : Value → String
  | .str s => s
  | .codeStr ps => String.ofList (ps.map fun n => if isSurrogate n then Char.ofNat 0xFFFD else Char.ofNat n)
  | .date d => d.iso
  | .moment t => t.isoWith " "
  | v => v.display

end Value

end Preflight
