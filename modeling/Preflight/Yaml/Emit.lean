import Preflight.Yaml.Tag
import Preflight.Decimal.Format
import Preflight.Value.Display
import Preflight.Text.Order

/-!
# Writing YAML documents

Writes a value as a block-style YAML document, the way data files are written for people:
mappings and sequences in block form with two-space steps (a sequence under a mapping key
is not indented further), empty collections as `{}` and `[]`, keys sorted, lines folded
near 80 columns, and every character that is printable written as itself.

Each text is written in the simplest style that reads back as the same text: plain when
nothing in it could be mistaken for syntax or for a value of another kind (`yes`, `null`,
`1.5` and the like are quoted), else in single quotes, else, for texts with characters that
single quotes cannot hold, in double quotes with escapes. A text that is empty or spans lines
cannot be a plain key; a key whose text and short tag (`!!str`, `!!int`, ...) together
reach 128 characters, or an empty or multi-line one, is written as an explicit key
(`? key`).

The writer follows the text as it grows: the column, whether the last thing written was
white space, and whether the line so far holds only indentation. Where a line breaks and how
far it is indented depend on these.
-/

set_option autoImplicit false

namespace Preflight.Yaml

/-- The preferred width of a line. -/
def lineWidth : Nat := 80

/-- The number of columns each level of nesting is indented. -/
def indentStep : Nat := 2

/-- Whether a character breaks a line. -/
def isLineBreak (c : Char) : Bool :=
  c == '\n' || c.toNat == 0x85 || c.toNat == 0x2028 || c.toNat == 0x2029

/-- Whether a character counts as white space or an end around an indicator. -/
def isGapChar (c : Char) : Bool :=
  c == '\x00' || c == ' ' || c == '\t' || c == '\r' || isLineBreak c

/-- Whether a character may be written as itself. -/
def isWritableChar (c : Char) : Bool :=
  let n := c.toNat
  c == '\n' || (0x20 ≤ n && n ≤ 0x7E) ||
    ((n == 0x85 || (0xA0 ≤ n && n ≤ 0xD7FF) || (0xE000 ≤ n && n ≤ 0xFFFD) ||
      (0x10000 ≤ n && n < 0x10FFFF)) && n != 0xFEFF)

/-- What the characters of a text allow. -/
structure Analysis where
  /-- The text is empty. -/
  empty : Bool
  /-- The text has a line break. -/
  multiline : Bool
  /-- It may be written plain inside flow collections. -/
  flowPlain : Bool
  /-- It may be written plain in block context. -/
  blockPlain : Bool
  /-- It may be written in single quotes. -/
  singleQuoted : Bool

/-- What is known while reading a text for its analysis. -/
structure Survey where
  blockIndicators : Bool := false
  flowIndicators : Bool := false
  lineBreaks : Bool := false
  special : Bool := false
  leadingSpace : Bool := false
  leadingBreak : Bool := false
  trailingSpace : Bool := false
  trailingBreak : Bool := false
  breakSpace : Bool := false
  spaceBreak : Bool := false
  previousSpace : Bool := false
  previousBreak : Bool := false

/-- Notes what one character of a text shows. -/
def Survey.note (cs : Array Char) (s : Survey) (i : Nat) : Survey :=
  let n := cs.size
  let ch := cs.getD i ' '
  let preceded := i == 0 || isGapChar (cs.getD (i - 1) ' ')
  let followed := i + 1 ≥ n || isGapChar (cs.getD (i + 1) ' ')
  let s :=
    if i == 0 then
      let s := if "#,[]{}&*!|>'\"%@`".toList.contains ch then
        { s with flowIndicators := true, blockIndicators := true } else s
      let s := if ch == '?' || ch == ':' then
        { s with flowIndicators := true, blockIndicators := s.blockIndicators || followed } else s
      if ch == '-' && followed then { s with flowIndicators := true, blockIndicators := true } else s
    else
      let s := if ",?[]{}".toList.contains ch then { s with flowIndicators := true } else s
      let s := if ch == ':' then
        { s with flowIndicators := true, blockIndicators := s.blockIndicators || followed } else s
      if ch == '#' && preceded then { s with flowIndicators := true, blockIndicators := true } else s
  let s := if isLineBreak ch then { s with lineBreaks := true } else s
  let s := if isWritableChar ch then s else { s with special := true }
  if ch == ' ' then
    { s with leadingSpace := s.leadingSpace || i == 0, trailingSpace := s.trailingSpace || i + 1 == n,
             breakSpace := s.breakSpace || s.previousBreak, previousSpace := true, previousBreak := false }
  else if isLineBreak ch then
    { s with leadingBreak := s.leadingBreak || i == 0, trailingBreak := s.trailingBreak || i + 1 == n,
             spaceBreak := s.spaceBreak || s.previousSpace, previousSpace := false, previousBreak := true }
  else { s with previousSpace := false, previousBreak := false }

/-- Analyses a text for the styles it may be written in. -/
def analyze (text : String) : Analysis :=
  if text.isEmpty then ⟨true, false, false, true, true⟩
  else
    let cs := text.toList.toArray
    let start : Survey :=
      if text.startsWith "---" || text.startsWith "..." then
        { blockIndicators := true, flowIndicators := true }
      else {}
    let s := (List.range cs.size).foldl (Survey.note cs) start
    let edges := s.leadingSpace || s.leadingBreak || s.trailingSpace || s.trailingBreak
    let quotedOnly := s.spaceBreak || s.special
    let plain := !edges && !s.breakSpace && !quotedOnly && !s.lineBreaks
    ⟨false, s.lineBreaks, plain && !s.flowIndicators, plain && !s.blockIndicators,
      !s.breakSpace && !quotedOnly⟩

/-- The state of the text being written. -/
structure Pen where
  /-- What was written so far. -/
  out : String := ""
  /-- The current column. -/
  column : Nat := 0
  /-- Whether the last thing written was white space. -/
  whitespace : Bool := true
  /-- Whether the line so far holds only indentation. -/
  indention : Bool := true
  /-- Whether the document ended with a plain scalar at its root. -/
  openEnded : Bool := false

namespace Pen

/-- Writes text, moving the column. -/
def put (p : Pen) (s : String) : Pen :=
  { p with out := p.out ++ s, column := p.column + s.length }

/-- Writes an indicator, after a space when one is needed and the last thing written was
not white space. -/
def indicator (p : Pen) (ind : String) (needSpace : Bool) (whitespace : Bool := false)
    (indention : Bool := false) : Pen :=
  let data := if p.whitespace || !needSpace then ind else " " ++ ind
  { p with out := p.out ++ data, column := p.column + data.length, whitespace,
           indention := p.indention && indention, openEnded := false }

/-- Ends the line with the given break. -/
def lineBreak (p : Pen) (data : String := "\n") : Pen :=
  { p with out := p.out ++ data, column := 0, whitespace := true, indention := true }

/-- Starts a new line at an indentation, unless the current line is still blank up to it. -/
def indent (p : Pen) (n : Nat) : Pen :=
  let p := if !p.indention || p.column > n || (p.column == n && !p.whitespace) then p.lineBreak else p
  if p.column < n then
    { p with out := p.out ++ String.ofList (List.replicate (n - p.column) ' '), column := n,
             whitespace := true }
  else p

end Pen

/-- The characters of a text from `a` up to `b`. -/
def slice (cs : Array Char) (a b : Nat) : String :=
  String.ofList ((cs.toList.drop a).take (b - a))

/-- Writes the line breaks of a text from `a` up to `b`; a first line feed needs one more. -/
def writeBreaks (cs : Array Char) (a b : Nat) (p : Pen) : Pen :=
  let p := if cs.getD a ' ' == '\n' then p.lineBreak else p
  (cs.toList.drop a |>.take (b - a)).foldl
    (fun p br => if br == '\n' then p.lineBreak else p.lineBreak br.toString) p

/-- Writes a text in single quotes; with `split`, a lone space past the line width becomes a
line break. -/
def writeSingleQuoted (indent : Nat) (text : String) (split : Bool) (p : Pen) : Pen :=
  let cs := text.toList.toArray
  let n := cs.size
  let rec go (fuel i start : Nat) (spaces breaks : Bool) (p : Pen) : Pen :=
    match fuel with
    | 0 => p
    | fuel + 1 =>
      let ch := cs[i]?
      let (p, start) :=
        if spaces then
          if ch != some ' ' then
            if start + 1 == i && p.column > lineWidth && split && start != 0 && i != n then
              (p.indent indent, i)
            else (p.put (slice cs start i), i)
          else (p, start)
        else if breaks then
          if ch.all (fun c => !isLineBreak c) then ((writeBreaks cs start i p).indent indent, i)
          else (p, start)
        else if ch.all (fun c => c == ' ' || isLineBreak c || c == '\'') then
          if start < i then (p.put (slice cs start i), i) else (p, start)
        else (p, start)
      let (p, start) := if ch == some '\'' then (p.put "''", i + 1) else (p, start)
      let (spaces, breaks) := match ch with
        | some c => (c == ' ', isLineBreak c)
        | none => (spaces, breaks)
      go fuel (i + 1) start spaces breaks p
  (go (n + 1) 0 0 false false (p.indicator "'" true)).indicator "'" false

/-- The escape of a code point in double quotes, without its backslash. -/
def escapeFor (c : Nat) : String :=
  match c with
  | 0x00 => "0" | 0x07 => "a" | 0x08 => "b" | 0x09 => "t" | 0x0A => "n" | 0x0B => "v"
  | 0x0C => "f" | 0x0D => "r" | 0x1B => "e" | 0x22 => "\"" | 0x5C => "\\" | 0x85 => "N"
  | 0xA0 => "_" | 0x2028 => "L" | 0x2029 => "P"
  | n =>
    let hex (w : Nat) : String :=
      let ds := Nat.toDigits 16 n |>.map Char.toUpper
      String.ofList (List.replicate (w - ds.length) '0' ++ ds)
    if n ≤ 0xFF then "x" ++ hex 2 else if n ≤ 0xFFFF then "u" ++ hex 4 else "U" ++ hex 8

/-- Whether a code point is written as itself in double quotes; a lone surrogate never is. -/
def keptInDoubleQuotes (n : Nat) : Bool :=
  !(n == 0x22 || n == 0x5C || n == 0x85 || n == 0x2028 || n == 0x2029 || n == 0xFEFF) &&
    ((0x20 ≤ n && n ≤ 0x7E) || (0xA0 ≤ n && n ≤ 0xD7FF) || (0xE000 ≤ n && n ≤ 0xFFFD))

/-- The code points of a text from `a` up to `b`, none of them a lone surrogate. -/
def slicePoints (cs : Array Nat) (a b : Nat) : String :=
  String.ofList (((cs.toList.drop a).take (b - a)).map Char.ofNat)

/-- Writes a text, given by its code points, in double quotes with escapes; with `split`,
long lines are broken with an escaped line end. The line is measured as the column plus the
characters from `start` to `i`, which is one less than the column right after an escape
(then `start` is `i + 1`). -/
def writeDoubleQuoted (indent : Nat) (cs : Array Nat) (split : Bool) (p : Pen) : Pen :=
  let n := cs.size
  let rec go (fuel i start : Nat) (p : Pen) : Pen :=
    match fuel with
    | 0 => p
    | fuel + 1 =>
      let ch := cs[i]?
      let (p, start) :=
        if ch.all (fun c => !keptInDoubleQuotes c) then
          let (p, start) := if start < i then (p.put (slicePoints cs start i), i) else (p, start)
          match ch with
          | some c => (p.put ("\\" ++ escapeFor c), i + 1)
          | none => (p, start)
        else (p, start)
      let (p, start) :=
        if 0 < i && i + 1 < n && (ch == some 32 || start ≥ i) &&
            p.column + i > lineWidth + start && split then
          let p := p.put (slicePoints cs start i ++ "\\")
          let start := if start < i then i else start
          let p := { p.indent indent with whitespace := false, indention := false }
          let p := if cs.getD start 32 == 32 && start < n then p.put "\\" else p
          (p, start)
        else (p, start)
      go fuel (i + 1) start p
  (go (n + 1) 0 0 (p.indicator "\"" true)).indicator "\"" false

/-- Writes a text plain; with `split`, a lone space past the line width becomes a line
break. -/
def writePlain (indent : Nat) (text : String) (split root : Bool) (p : Pen) : Pen :=
  let p := if root then { p with openEnded := true } else p
  if text.isEmpty then p
  else
    let p := if !p.whitespace then p.put " " else p
    let p := { p with whitespace := false, indention := false }
    let cs := text.toList.toArray
    let n := cs.size
    let rec go (fuel i start : Nat) (spaces breaks : Bool) (p : Pen) : Pen :=
      match fuel with
      | 0 => p
      | fuel + 1 =>
        let ch := cs[i]?
        let (p, start) :=
          if spaces then
            if ch != some ' ' then
              if start + 1 == i && p.column > lineWidth && split then
                ({ p.indent indent with whitespace := false, indention := false }, i)
              else (p.put (slice cs start i), i)
            else (p, start)
          else if breaks then
            if ch.all (fun c => !isLineBreak c) then
              ({ (writeBreaks cs start i p).indent indent with whitespace := false, indention := false }, i)
            else (p, start)
          else if ch.all (fun c => c == ' ' || isLineBreak c) then (p.put (slice cs start i), i)
          else (p, start)
        let (spaces, breaks) := match ch with
          | some c => (c == ' ', isLineBreak c)
          | none => (spaces, breaks)
        go fuel (i + 1) start spaces breaks p
    go (n + 1) 0 0 false false p

/-- Where a node stands. -/
structure Place where
  /-- At the root of the document. -/
  root : Bool := false
  /-- Under a mapping. -/
  mapping : Bool := false
  /-- As a plain key. -/
  simpleKey : Bool := false

/-- The text of a scalar value and whether that text reads back as a text. -/
def scalarText : Value → String × Bool
  | .null => ("null", false)
  | .bool b => (if b then "true" else "false", false)
  | .int n => (toString n, false)
  | .float x => (Decimal.FloatStyle.document.render x, false)
  | .str s => (s, implicitTag s == strTag)
  | .codeStr ps => ((Value.codeStr ps).text, true)
  | v => (v.text, false)

/-- The code points of a scalar's text. -/
def scalarPoints (v : Value) : List Nat :=
  (v.points?).getD ((scalarText v).1.toList.map Char.toNat)

/-- Analyses the text of a scalar. A lone surrogate is a character that only double quotes
can hold, by its escape. -/
def analyzeScalar (v : Value) (text : String) : Analysis :=
  let a := analyze text
  match v with
  | .codeStr _ => { a with flowPlain := false, blockPlain := false, singleQuoted := false }
  | _ => a

/-- Writes a scalar at an indentation. Texts that would read back as another kind of value
are quoted; other values are written plain. -/
def writeScalar (indent : Nat) (place : Place) (v : Value) (p : Pen) : Pen :=
  let (text, isText) := scalarText v
  let a := analyzeScalar v text
  let plainOk := match v with
    | .str _ | .codeStr _ => isText && !(place.simpleKey && (a.empty || a.multiline)) && a.blockPlain
    | _ => true
  let split := !place.simpleKey
  if plainOk then writePlain indent text split place.root p
  else if a.singleQuoted && !(place.simpleKey && a.multiline) then writeSingleQuoted indent text split p
  else writeDoubleQuoted indent (scalarPoints v).toArray split p

/-- The length of the short form of a scalar's tag (`!!str`, `!!int`, ...), which counts
towards the length of a key. -/
def tagLength : Value → Nat
  | .str _ | .codeStr _ | .int _ => 5
  | .bool _ | .null => 6
  | .float _ => 7
  | .bytes _ => 8
  | .date _ | .moment _ => 11
  | _ => 0

/-- Whether a key can be written plain before its colon: its text and its tag together are
shorter than 128 characters, and the text is neither empty nor spans lines. -/
def isSimpleKey (k : Value) : Bool :=
  let (text, _) := scalarText k
  let a := analyze text
  text.length + tagLength k < 128 && !a.empty && !a.multiline

/-- Whether a value is written as a scalar. -/
def isScalar : Value → Bool
  | .list _ | .tuple _ | .set _ | .dict _ => false
  | _ => true

/-- Orders mapping entries by the text of their keys. -/
def sortEntries (es : List (Value × Value)) : List (Value × Value) :=
  es.mergeSort (fun a b => Text.pointsLe (scalarPoints a.1) (scalarPoints b.1))

/-- Writes a node, with `fuel` levels of nesting left, under the indentation of its parent
(none at the root). -/
def writeNode : Nat → Option Nat → Place → Value → Pen → Pen
  | 0, _, _, _, p => p
  | fuel + 1, indent, place, v, p =>
    let items : Option (List Value) := match v with
      | .list xs | .tuple xs | .set xs => some xs
      | _ => none
    match items, v with
    | some [], _ => (p.indicator "[" true true).indicator "]" false
    | some xs, _ =>
      let indentless := place.mapping && !p.indention
      let inner := match indent with
        | none => 0
        | some i => if indentless then i else i + indentStep
      xs.foldl (fun p x =>
        let p := (p.indent inner).indicator "-" true false true
        writeNode fuel (some inner) {} x p) p
    | none, .dict [] => (p.indicator "\x7b" true true).indicator "\x7d" false
    | none, .dict es =>
      let inner := match indent with
        | none => 0
        | some i => i + indentStep
      (sortEntries es).foldl (fun p (k, x) =>
        let p := p.indent inner
        if isScalar k && isSimpleKey k then
          let p := writeNode fuel (some inner) { mapping := true, simpleKey := true } k p
          writeNode fuel (some inner) { mapping := true } x (p.indicator ":" false)
        else
          let p := writeNode fuel (some inner) { mapping := true } k (p.indicator "?" true false true)
          let p := (p.indent inner).indicator ":" true false true
          writeNode fuel (some inner) { mapping := true } x p) p
    | none, _ =>
      let here := match indent with
        | none => indentStep
        | some i => i + indentStep
      writeScalar here place v p

/-- Writes a value as a YAML document. -/
def dump (v : Value) : String :=
  -- every level of nesting shows at least one bracket in the display of the value
  let p := writeNode (v.display.length + 1) none { root := true } v {}
  let p := p.indent 0
  let p := if p.openEnded then (p.indicator "..." true).indent 0 else p
  p.out

end Preflight.Yaml
