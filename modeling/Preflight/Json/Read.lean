import Preflight.Value
import Preflight.Decimal.Read
import Preflight.Text.Encoding
import Preflight.Failure

/-!
# Reading interchange documents

A document is one value between optional blanks (space, tab, line feed, carriage return).
Objects become mappings in the order their members appear; a repeated name keeps its first
place and takes the last value. Numbers with a fraction or an exponent become doubles, the
others integers; `NaN`, `Infinity` and `-Infinity` are read as doubles. Texts may not hold
raw control characters.

A fault names the position where reading stopped, counted in characters, with its line and
column. An integer of more than 4300 digits is refused.
-/

set_option autoImplicit false

namespace Preflight.Json

/-- Why a document could not be read. -/
inductive Fault where
  | expectingValue
  | extraData
  | expectingName
  | expectingColon
  | expectingComma
  | unterminatedText
  | controlCharacter
  | badEscape
  | badUnicodeEscape
  | markAtStart
  deriving DecidableEq, Repr

/-- The wording of a fault. -/
def Fault.text : Fault → String
  | .expectingValue => "Expecting value"
  | .extraData => "Extra data"
  | .expectingName => "Expecting property name enclosed in double quotes"
  | .expectingColon => "Expecting ':' delimiter"
  | .expectingComma => "Expecting ',' delimiter"
  | .unterminatedText => "Unterminated string starting at"
  | .controlCharacter => "Invalid control character at"
  | .badEscape => "Invalid \\escape"
  | .badUnicodeEscape => "Invalid \\uXXXX escape"
  | .markAtStart => "Unexpected UTF-8 BOM (decode using utf-8-sig)"

/-- A fault at a position of a document. -/
structure PlacedFault where
  /-- What went wrong. -/
  fault : Fault
  /-- The position, in characters from the start. -/
  pos : Nat
  /-- The line of the position, from 1. -/
  line : Nat
  /-- The column of the position, from 1. -/
  column : Nat
  deriving DecidableEq, Repr

/-- The wording of a failure with its place. -/
def PlacedFault.message (f : PlacedFault) : String :=
  s!"{f.fault.text}: line {f.line} column {f.column} (char {f.pos})"

/-- Why reading a document stopped. -/
inductive ReadError where
  /-- The text is not a document. -/
  | malformed (f : PlacedFault)
  /-- An integer has more digits than are read. -/
  | tooManyDigits (count : Nat)
  deriving DecidableEq, Repr

/-- The most digits an integer may have. -/
def digitLimit : Nat := 4300

/-- The wording of the refusal of a long integer. -/
def tooManyDigitsText (count : Nat) : String :=
  (Failure.tooManyDigits count).message

/-- The wording of a read error. -/
def ReadError.message : ReadError → String
  | .malformed f => f.message
  | .tooManyDigits n => tooManyDigitsText n

/-- The failure `fault` at `pos` of the document `doc`. -/
def failAt (doc : Array Char) (fault : Fault) (pos : Nat) : ReadError :=
  let before := (doc.toList.take pos)
  let line := before.count '\n' + 1
  let lastBreak := (before.reverse.takeWhile (· != '\n')).length
  .malformed ⟨fault, pos, line, lastBreak + 1⟩

/-- Whether a character is a blank between tokens. -/
def isGap (c : Char) : Bool := c == ' ' || c == '\t' || c == '\n' || c == '\r'

/-- A reader over a document held as an array of characters. -/
structure Reader where
  /-- The document, with the replacement character where a lone surrogate stands. -/
  doc : Array Char
  /-- The places of lone surrogates in the document, with their code points. -/
  lone : List (Nat × Nat) := []

namespace Reader

/-- The character at `i`, if any. -/
def at? (r : Reader) (i : Nat) : Option Char := r.doc[i]?

/-- Whether the character at `i` is `c`. -/
def isAt (r : Reader) (i : Nat) (c : Char) : Bool := r.at? i == some c

/-- The first position from `i` that is not a blank. -/
def skipGap (r : Reader) (i : Nat) : Nat :=
  go i (r.doc.size + 1)
where
  /-- Skips from `j` with `fuel` steps left. -/
  go (j fuel : Nat) : Nat :=
    match fuel with
    | 0 => j
    | fuel + 1 =>
      match r.at? j with
      | some c => if isGap c then go (j + 1) fuel else j
      | none => j

/-- The first position from `i` that is not an ASCII digit. -/
def skipDigits (r : Reader) (i : Nat) : Nat :=
  go i (r.doc.size + 1)
where
  /-- Skips from `j` with `fuel` steps left. -/
  go (j fuel : Nat) : Nat :=
    match fuel with
    | 0 => j
    | fuel + 1 =>
      match r.at? j with
      | some c => if '0' ≤ c && c ≤ '9' then go (j + 1) fuel else j
      | none => j

/-- Whether the characters from `i` spell `w`. -/
def spells (r : Reader) (i : Nat) (w : String) : Bool :=
  (w.toList.zipIdx).all (fun (c, k) => r.isAt (i + k) c)

/-- The value of a hexadecimal digit. -/
def hexValue? (c : Char) : Option Nat :=
  if '0' ≤ c && c ≤ '9' then some (c.toNat - 48)
  else if 'a' ≤ c && c ≤ 'f' then some (c.toNat - 87)
  else if 'A' ≤ c && c ≤ 'F' then some (c.toNat - 55)
  else none

/-- The code unit spelled by four hexadecimal digits at `i`. -/
def hex4? (r : Reader) (i : Nat) : Option Nat :=
  [0, 1, 2, 3].foldl (fun acc k =>
    match acc, (r.at? (i + k)).bind hexValue? with
    | some a, some d => some (a * 16 + d)
    | _, _ => none) (some 0)

/-- Reads the rest of a text whose opening quote is at `begin`, from `i`, onto the reversed
code points `acc`; returns the text and the position after the closing quote. An escaped
surrogate that is not the first half of an escaped pair stays a lone surrogate. -/
def readText (r : Reader) (begin : Nat) (i : Nat) (acc : List Nat) (fuel : Nat) :
    Except ReadError (Value × Nat) :=
  match fuel with
  | 0 => .error (failAt r.doc .unterminatedText begin)
  | fuel + 1 =>
    match r.at? i with
    | none => .error (failAt r.doc .unterminatedText begin)
    | some '"' => .ok (Value.ofPoints acc.reverse, i + 1)
    | some '\\' =>
      match r.at? (i + 1) with
      | none => .error (failAt r.doc .unterminatedText begin)
      | some 'u' =>
        if i + 6 ≥ r.doc.size then .error (failAt r.doc .badUnicodeEscape (i + 1))
        else
          match r.hex4? (i + 2) with
          | none => .error (failAt r.doc .badUnicodeEscape (i + 1))
          | some u =>
            if 0xD800 ≤ u && u < 0xDC00 && i + 12 < r.doc.size &&
                r.isAt (i + 6) '\\' && r.isAt (i + 7) 'u' then
              match r.hex4? (i + 8) with
              | none => .error (failAt r.doc .badUnicodeEscape (i + 7))
              | some u2 =>
                if 0xDC00 ≤ u2 && u2 < 0xE000 then
                  let c := 0x10000 + (u - 0xD800) * 1024 + (u2 - 0xDC00)
                  r.readText begin (i + 12) (c :: acc) fuel
                else r.readText begin (i + 6) (u :: acc) fuel
            else r.readText begin (i + 6) (u :: acc) fuel
      | some e =>
        let unescaped : Option Char :=
          match e with
          | '"' => some '"'
          | '\\' => some '\\'
          | '/' => some '/'
          | 'b' => some (Char.ofNat 8)
          | 'f' => some (Char.ofNat 12)
          | 'n' => some '\n'
          | 'r' => some '\r'
          | 't' => some '\t'
          | _ => none
        match unescaped with
        | some c => r.readText begin (i + 2) (c.toNat :: acc) fuel
        | none => .error (failAt r.doc .badEscape i)
    | some c =>
      if c.toNat ≤ 0x1F then .error (failAt r.doc .controlCharacter i)
      else r.readText begin (i + 1) (Text.LoneText.pointAmong r.lone i c :: acc) fuel

/-- Reads a number at `i`: a value and the position after it, or `none` when no number
starts there. -/
def readNumber (r : Reader) (i : Nat) : Option (Except ReadError (Value × Nat)) :=
  let neg := r.isAt i '-'
  let j := if neg then i + 1 else i
  let intEnd? : Option Nat :=
    match r.at? j with
    | some '0' => some (j + 1)
    | some c => if '1' ≤ c && c ≤ '9' then some (r.skipDigits (j + 1)) else none
    | none => none
  match intEnd? with
  | none => none
  | some k =>
    let (fracEnd, hasFrac) :=
      if r.isAt k '.' && (match r.at? (k + 1) with
          | some c => '0' ≤ c && c ≤ '9'
          | none => false) then (r.skipDigits (k + 2), true)
      else (k, false)
    let (stop, hasExp) :=
      if r.isAt fracEnd 'e' || r.isAt fracEnd 'E' then
        let s := if r.isAt (fracEnd + 1) '-' || r.isAt (fracEnd + 1) '+' then fracEnd + 2
          else fracEnd + 1
        let e := r.skipDigits s
        if e > s then (e, true) else (fracEnd, false)
      else (fracEnd, false)
    let digitsOf (a b : Nat) : List Char := (r.doc.toList.drop a).take (b - a)
    let natOf (cs : List Char) : Nat := cs.foldl (fun n c => n * 10 + (c.toNat - 48)) 0
    let intDigits := digitsOf j k
    if hasFrac || hasExp then
      let fracDigits := if hasFrac then digitsOf (k + 1) fracEnd else []
      let expVal : Int :=
        if hasExp then
          let s := fracEnd + 1
          let (eneg, ds) :=
            if r.isAt s '-' then (true, s + 1) else if r.isAt s '+' then (false, s + 1) else (false, s)
          let v := natOf (digitsOf ds stop)
          if eneg then -(v : Int) else v
        else 0
      let mant := natOf (intDigits ++ fracDigits)
      some (.ok (.float (Decimal.toFloat neg mant (expVal - fracDigits.length)), stop))
    else if intDigits.length > digitLimit then some (.error (.tooManyDigits intDigits.length))
    else
      let v := natOf intDigits
      some (.ok (.int (if neg then -(v : Int) else v), stop))

mutual
/-- Reads one value at `i` (no blanks skipped): the value and the position after it. -/
def readValue (r : Reader) (i : Nat) (fuel : Nat) : Except ReadError (Value × Nat) :=
  match fuel with
  | 0 => .error (failAt r.doc .expectingValue i)
  | fuel + 1 =>
    match r.at? i with
    | none => .error (failAt r.doc .expectingValue i)
    | some '"' => r.readText i (i + 1) [] (r.doc.size + 1)
    | some '{' => r.readMembers (r.skipGap (i + 1)) [] true fuel
    | some '[' => r.readItems (r.skipGap (i + 1)) [] true fuel
    | some c =>
      if c == 'n' && r.spells i "null" then .ok (.null, i + 4)
      else if c == 't' && r.spells i "true" then .ok (.bool true, i + 4)
      else if c == 'f' && r.spells i "false" then .ok (.bool false, i + 5)
      else if c == 'N' && r.spells i "NaN" then .ok (.float (0 / 0), i + 3)
      else if c == 'I' && r.spells i "Infinity" then .ok (.float (1 / 0), i + 8)
      else if c == '-' && r.spells i "-Infinity" then .ok (.float (-(1 / 0)), i + 9)
      else
        match r.readNumber i with
        | some res => res
        | none => .error (failAt r.doc .expectingValue i)
/-- Reads the members of an object from `i` (after blanks) onto `acc`; `first` before the
first member. Returns the mapping and the position after the closing brace. -/
def readMembers (r : Reader) (i : Nat) (acc : Entries) (first : Bool) (fuel : Nat) :
    Except ReadError (Value × Nat) :=
  match fuel with
  | 0 => .error (failAt r.doc .expectingName i)
  | fuel + 1 =>
    if first && r.isAt i '}' then .ok (.dict acc, i + 1)
    else if !r.isAt i '"' then .error (failAt r.doc .expectingName i)
    else
      match r.readText i (i + 1) [] (r.doc.size + 1) with
      | .error e => .error e
      | .ok (name, j) =>
        let j := r.skipGap j
        if !r.isAt j ':' then .error (failAt r.doc .expectingColon j)
        else
          match r.readValue (r.skipGap (j + 1)) fuel with
          | .error e => .error e
          | .ok (v, k) =>
            let acc := Entries.insert acc name v
            let k := r.skipGap k
            if r.isAt k '}' then .ok (.dict acc, k + 1)
            else if !r.isAt k ',' then .error (failAt r.doc .expectingComma k)
            else r.readMembers (r.skipGap (k + 1)) acc false fuel
/-- Reads the items of an array from `i` (after blanks) onto the reversed `acc`; `first`
before the first item. Returns the list and the position after the closing bracket. -/
def readItems (r : Reader) (i : Nat) (acc : List Value) (first : Bool) (fuel : Nat) :
    Except ReadError (Value × Nat) :=
  match fuel with
  | 0 => .error (failAt r.doc .expectingValue i)
  | fuel + 1 =>
    if first && r.isAt i ']' then .ok (.list acc.reverse, i + 1)
    else
      match r.readValue i fuel with
      | .error e => .error e
      | .ok (v, k) =>
        let k := r.skipGap k
        if r.isAt k ']' then .ok (.list (v :: acc).reverse, k + 1)
        else if !r.isAt k ',' then .error (failAt r.doc .expectingComma k)
        else r.readItems (r.skipGap (k + 1)) (v :: acc) false fuel
end

end Reader

/-- Reads a whole document from decoded text, which may hold lone surrogates. -/
def parseDecoded (s : Text.LoneText) : Except ReadError Value :=
  let r : Reader := ⟨s.text.toList.toArray, s.lone⟩
  match r.readValue (r.skipGap 0) (2 * r.doc.size + 2) with
  | .error e => .error e
  | .ok (v, i) =>
    let j := r.skipGap i
    if j != r.doc.size then .error (failAt r.doc .extraData j) else .ok v

/-- Reads a whole document from text that may hold lone surrogates; a byte-order mark at the
start is refused, since it shows bytes that were decoded without their mark removed. -/
def parseText (s : Text.LoneText) : Except ReadError Value :=
  if s.text.toList.head? == some (Char.ofNat 0xFEFF) then
    .error (failAt s.text.toList.toArray .markAtStart 0)
  else parseDecoded s

/-- Reads a whole document from text. -/
def parse (s : String) : Except ReadError Value :=
  parseText ⟨s, []⟩

/-- Why a document given as bytes could not be read. -/
inductive BytesError where
  /-- The bytes are not text in the detected encoding. -/
  | undecodable (f : Text.DecodeFault)
  /-- The text is not a document. -/
  | unreadable (e : ReadError)

/-- Reads a document given as bytes, in the encoding its first bytes show. -/
def parseBytes (bs : List UInt8) : Except BytesError Value :=
  match Text.decodeDocument bs with
  | .error f => .error (.undecodable f)
  | .ok s =>
    match parseDecoded s with
    | .ok v => .ok v
    | .error e => .error (.unreadable e)

/-- The failure a read error reports: a long integer is a bad value, anything else a
malformed document. -/
def ReadError.toFailure : ReadError → Preflight.Failure
  | .malformed f => ⟨.malformedJson, f.message⟩
  | .tooManyDigits n => ⟨.badValue, tooManyDigitsText n⟩

/-- The failure a bytes error reports. -/
def BytesError.toFailure : BytesError → Preflight.Failure
  | .undecodable f => ⟨.undecodable, f.message⟩
  | .unreadable e => e.toFailure

end Preflight.Json
