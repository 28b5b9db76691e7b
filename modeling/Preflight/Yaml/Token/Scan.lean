import Preflight.Yaml.Token
import Preflight.Text.Encoding

/-!
# Scanning YAML text into tokens

The scanner reads the characters of a document and produces its tokens. It keeps the
indentation levels of the open block collections (closing them with block-end tokens as
the indentation falls), the depth of open flow collections, and for each depth the one
place where a simple key (a key without `?`) may have started; when the `:` of such a key
is found, a key token (and, in block context, the start of a block mapping) is inserted
before the key's first token.

Tokens are handed out one at a time, and a token is handed out only once no simple key
may still start at it. A problem found while preparing a token is reported when that token
is asked for; `scan` returns the tokens that are handed out before the problem.

Tabs are not blanks before a token: a tab where a token should start is a problem.
-/

set_option autoImplicit false

namespace Preflight.Yaml

/-- Whether a character ends a line or the text. -/
def isBreakZ (c : Char) : Bool :=
  c == '\x00' || c == '\r' || c == '\n' || c == '\x85' || c == '\u2028' || c == '\u2029'

/-- Whether a character is a line break. -/
def isBreak (c : Char) : Bool :=
  c == '\r' || c == '\n' || c == '\x85' || c == '\u2028' || c == '\u2029'

/-- Whether a character is a space, a tab, a line break or the end of the text. -/
def isBlankZ (c : Char) : Bool :=
  c == ' ' || c == '\t' || isBreakZ c

/-- Whether a character is a space, a line break or the end of the text (not a tab). -/
def isSpaceZ (c : Char) : Bool :=
  c == ' ' || isBreakZ c

/-- Whether a character may appear in a name: ASCII letters and digits, `-` and `_`. -/
def isWordChar (c : Char) : Bool :=
  ('0' ≤ c && c ≤ '9') || ('A' ≤ c && c ≤ 'Z') || ('a' ≤ c && c ≤ 'z') || c == '-' || c == '_'

/-- Whether a character is a hexadecimal digit. -/
def isHexChar (c : Char) : Bool :=
  ('0' ≤ c && c ≤ '9') || ('A' ≤ c && c ≤ 'F') || ('a' ≤ c && c ≤ 'f')

/-- The value of a hexadecimal digit. -/
def hexCharValue (c : Char) : Nat :=
  if '0' ≤ c && c ≤ '9' then c.toNat - '0'.toNat
  else if 'A' ≤ c && c ≤ 'F' then c.toNat - 'A'.toNat + 10
  else c.toNat - 'a'.toNat + 10

/-- Whether a character may appear in a tag's URI. -/
def isUriChar (c : Char) : Bool :=
  ('0' ≤ c && c ≤ '9') || ('A' ≤ c && c ≤ 'Z') || ('a' ≤ c && c ≤ 'z') ||
    "-;/?:@&=+$,_.!~*'()[]%".toList.contains c

/-- Whether a character cannot start a plain scalar on its own. -/
def isIndicatorStart (c : Char) : Bool :=
  isBlankZ c || "-?:,[]\x7b\x7d#&*!|>'\"%@`".toList.contains c

/-- The character a one-character escape of a double-quoted scalar stands for. -/
def escapeReplacement? (c : Char) : Option Char :=
  match c with
  | '0' => some '\x00'
  | 'a' => some '\x07'
  | 'b' => some '\x08'
  | 't' => some '\t'
  | '\t' => some '\t'
  | 'n' => some '\n'
  | 'v' => some '\x0b'
  | 'f' => some '\x0c'
  | 'r' => some '\r'
  | 'e' => some '\x1b'
  | ' ' => some ' '
  | '"' => some '"'
  | '\\' => some '\\'
  | '/' => some '/'
  | 'N' => some '\x85'
  | '_' => some '\xa0'
  | 'L' => some '\u2028'
  | 'P' => some '\u2029'
  | _ => none

/-- The number of hexadecimal digits of a numbered escape. -/
def escapeWidth? (c : Char) : Option Nat :=
  match c with
  | 'x' => some 2
  | 'u' => some 4
  | 'U' => some 8
  | _ => none

/-- A place where a simple key may have started. -/
structure SimpleKey where
  /-- The number of the key's first token. -/
  tokenNumber : Nat
  /-- Whether a key must follow (a block key at the current indentation). -/
  required : Bool
  /-- The mark of the key's start. -/
  mark : Mark
  deriving Inhabited

/-- The state of a scanner. -/
structure Scanner where
  /-- The text, with a NUL after its end. -/
  buf : Array Char
  /-- The index of the next character. -/
  pos : Nat := 0
  /-- The line of the next character. -/
  line : Nat := 0
  /-- The column of the next character. -/
  column : Nat := 0
  /-- Whether the end of the stream was reached. -/
  done : Bool := false
  /-- The number of open flow collections. -/
  flowLevel : Nat := 0
  /-- All tokens produced so far. -/
  tokens : Array Token := #[]
  /-- The number of tokens handed out. -/
  taken : Nat := 0
  /-- The current indentation. -/
  indent : Int := -1
  /-- The enclosing indentations, innermost first. -/
  indents : List Int := []
  /-- Whether a simple key may start here. -/
  allowSimpleKey : Bool := true
  /-- The possible simple keys, by flow depth. -/
  keys : List (Nat × SimpleKey) := []

/-- Scanning: a step on a scanner that may find a problem. -/
abbrev ScanM := StateT Scanner (Except Problem)

namespace Scan

/-- The character `k` places ahead. -/
def peekAt (k : Nat) : ScanM Char := do
  let s ← get
  return s.buf.getD (s.pos + k) '\x00'

/-- The next character. -/
def peek : ScanM Char := peekAt 0

/-- The next `n` characters. -/
def ahead (n : Nat) : ScanM String := do
  let s ← get
  return String.ofList (s.buf.extract s.pos (s.pos + n)).toList

/-- The current mark. -/
def here : ScanM Mark := do
  let s ← get
  return ⟨s.pos, s.line, s.column⟩

/-- Moves past one character, counting lines and columns; a byte-order mark takes no
column. -/
def step : ScanM Unit := modify fun s =>
  let c := s.buf.getD s.pos '\x00'
  let next := s.buf.getD (s.pos + 1) '\x00'
  if c == '\n' || c == '\x85' || c == '\u2028' || c == '\u2029' || (c == '\r' && next != '\n') then
    { s with pos := s.pos + 1, line := s.line + 1, column := 0 }
  else if c != '\uFEFF' then { s with pos := s.pos + 1, column := s.column + 1 }
  else { s with pos := s.pos + 1 }

/-- Moves past `n` characters. -/
def forward (n : Nat) : ScanM Unit := do
  for _ in [0:n] do step

/-- A bound on the steps of any loop over the text. -/
def bound : ScanM Nat := do
  return (← get).buf.size + 1

/-- The length of the run of characters from the next one that satisfy `p`. -/
def runLength (p : Char → Bool) (from_ : Nat := 0) : ScanM Nat := do
  let s ← get
  let mut n := from_
  for _ in [0:s.buf.size + 1] do
    if p (s.buf.getD (s.pos + n) '\x00') then n := n + 1 else break
  return n

/-- Moves past spaces. -/
def skipSpaces : ScanM Unit := do
  let n ← runLength (· == ' ')
  forward n

/-- Moves to the end of the line. -/
def skipToBreak : ScanM Unit := do
  let n ← runLength (fun c => !isBreakZ c)
  forward n

/-- Appends a token. -/
def push (k : TokenKind) (start stop : Mark) : ScanM Unit :=
  modify fun s => { s with tokens := s.tokens.push ⟨k, start, stop⟩ }

/-- A problem found at the current mark. -/
def fail {α : Type} (context : Option String) (contextMark : Option Mark) (problem : String) :
    ScanM α := do
  let m ← here
  throw { context, contextMark, problem := some problem, problemMark := some m }

/-- Stops with a failure of reading a part of the document. -/
def failWith {α : Type} (f : Failure) : ScanM α :=
  throw { failure := some f }

/-- Reads a line break: `\r\n`, `\r`, `\n` and NEL read as a newline; the line and
paragraph separators read as themselves; anything else reads as nothing. -/
def lineBreak : ScanM String := do
  let c ← peek
  if c == '\r' || c == '\n' || c == '\x85' then
    if (← ahead 2) == "\r\n" then forward 2 else forward 1
    return "\n"
  else if c == '\u2028' || c == '\u2029' then
    forward 1
    return c.toString
  else return ""

/-! ### Simple keys and indentation -/

/-- The number of the first token at which a simple key may start. -/
def nextPossibleKey (s : Scanner) : Option Nat :=
  s.keys.foldl (fun acc e => match acc with
    | none => some e.2.tokenNumber
    | some m => some (min m e.2.tokenNumber)) none

/-- Whether a possible key is no longer possible: keys stay on one line and within 1024
characters. -/
def isStale (s : Scanner) (k : SimpleKey) : Bool :=
  k.mark.line != s.line || s.pos - k.mark.index > 1024

/-- Drops the possible keys that are no longer possible; a required one is a problem. -/
def dropStaleKeys : ScanM Unit := do
  let s ← get
  for e in s.keys do
    if isStale s e.2 && e.2.required then
      fail (some "while scanning a simple key") (some e.2.mark) "could not find expected ':'"
  set { s with keys := s.keys.filter (fun e => !isStale s e.2) }

/-- Forgets the possible key at the current depth; a required one is a problem. -/
def removeKey : ScanM Unit := do
  let s ← get
  match s.keys.lookup s.flowLevel with
  | some k =>
    if k.required then
      fail (some "while scanning a simple key") (some k.mark) "could not find expected ':'"
    set { s with keys := s.keys.filter (fun (e : Nat × SimpleKey) => e.1 != s.flowLevel) }
  | none => pure ()

/-- Records that a simple key may start at the next token. -/
def saveKey : ScanM Unit := do
  let s ← get
  let required := s.flowLevel == 0 && s.indent == (s.column : Int)
  if s.allowSimpleKey then
    removeKey
    let s ← get
    let k : SimpleKey := ⟨s.tokens.size, required, ⟨s.pos, s.line, s.column⟩⟩
    set { s with keys := s.keys.filter (fun (e : Nat × SimpleKey) => e.1 != s.flowLevel) ++ [(s.flowLevel, k)] }

/-- Closes the block collections indented deeper than `col`. -/
def unwindIndent (col : Int) : ScanM Unit := do
  if (← get).flowLevel != 0 then return
  for _ in [0:(← get).indents.length + 1] do
    let s ← get
    if s.indent > col then
      match s.indents with
      | i :: rest =>
        let m ← here
        set { s with indent := i, indents := rest }
        push .blockEnd m m
      | [] => break
    else break

/-- Opens an indentation level at `col` if it is deeper than the current one. -/
def addIndent (col : Int) : ScanM Bool := do
  let s ← get
  if s.indent < col then
    set { s with indents := s.indent :: s.indents, indent := col }
    return true
  else return false

/-- Sets whether a simple key may start here. -/
def allowKey (b : Bool) : ScanM Unit :=
  modify fun s => { s with allowSimpleKey := b }

/-- Inserts a token at a given number, before the tokens produced after it. -/
def insertAt (n : Nat) (t : Token) : ScanM Unit :=
  modify fun s => { s with tokens := (s.tokens.extract 0 n).push t ++ s.tokens.extract n s.tokens.size }

/-! ### Directives, properties and tags -/

/-- Reads a directive's name. -/
def directiveName (start : Mark) : ScanM String := do
  let n ← runLength isWordChar
  if n == 0 then
    fail (some "while scanning a directive") (some start)
      s!"expected alphabetic or numeric character, but found {shownChar (← peekAt 0)}"
  let name ← ahead n
  forward n
  let c ← peek
  if !isSpaceZ c then
    fail (some "while scanning a directive") (some start)
      s!"expected alphabetic or numeric character, but found {shownChar c}"
  return name

/-- Reads a number of a `%YAML` directive; a number of more than 4300 digits is not read. -/
def versionNumber (start : Mark) : ScanM Nat := do
  let c ← peek
  if !('0' ≤ c && c ≤ '9') then
    fail (some "while scanning a directive") (some start) s!"expected a digit, but found {shownChar c}"
  let n ← runLength (fun c => '0' ≤ c && c ≤ '9')
  if n > 4300 then failWith (Failure.tooManyDigits n)
  let digits ← ahead n
  forward n
  return digits.toList.foldl (fun acc d => acc * 10 + (d.toNat - '0'.toNat)) 0

/-- Reads the value of a `%YAML` directive. -/
def versionValue (start : Mark) : ScanM DirectiveValue := do
  skipSpaces
  let major ← versionNumber start
  if (← peek) != '.' then
    fail (some "while scanning a directive") (some start)
      s!"expected a digit or '.', but found {shownChar (← peek)}"
  forward 1
  let minor ← versionNumber start
  if !isSpaceZ (← peek) then
    fail (some "while scanning a directive") (some start)
      s!"expected a digit or ' ', but found {shownChar (← peek)}"
  return .version major minor

/-- Reads a tag handle: `!`, `!!` or `!name!`. -/
def tagHandle (what : String) (start : Mark) : ScanM String := do
  let c ← peek
  if c != '!' then
    fail (some s!"while scanning a {what}") (some start) s!"expected '!', but found {shownChar c}"
  let mut n := 1
  let c ← peekAt 1
  if c != ' ' then
    n ← runLength isWordChar 1
    let c ← peekAt n
    if c != '!' then
      forward n
      fail (some s!"while scanning a {what}") (some start) s!"expected '!', but found {shownChar c}"
    n := n + 1
  let handle ← ahead n
  forward n
  return handle

/-- Reads `%`-escaped bytes of a URI, which must be UTF-8. -/
def uriEscapes (what : String) (start : Mark) : ScanM String := do
  let m ← here
  let mut codes : Array UInt8 := #[]
  for _ in [0:(← bound)] do
    if (← peek) != '%' then break
    forward 1
    for k in [0:2] do
      let c ← peekAt k
      if !isHexChar c then
        fail (some s!"while scanning a {what}") (some start)
          s!"expected URI escape sequence of 2 hexadecimal numbers, but found {shownChar c}"
    let hi ← peekAt 0
    let lo ← peekAt 1
    codes := codes.push (UInt8.ofNat (hexCharValue hi * 16 + hexCharValue lo))
    forward 2
  match Text.decodeUtf8 codes.toList with
  | .ok s => return s
  | .error f =>
    throw { context := some s!"while scanning a {what}", contextMark := some start,
            problem := some f.message, problemMark := some m }

/-- Reads the URI of a tag, with `%` escapes decoded. -/
def tagUri (what : String) (start : Mark) : ScanM String := do
  let mut chunks : Array String := #[]
  let mut n := 0
  for _ in [0:(← bound)] do
    let c ← peekAt n
    if !isUriChar c then break
    if c == '%' then
      chunks := chunks.push (← ahead n)
      forward n
      n := 0
      chunks := chunks.push (← uriEscapes what start)
    else n := n + 1
  if n > 0 then
    chunks := chunks.push (← ahead n)
    forward n
  if chunks.isEmpty then
    fail (some s!"while parsing a {what}") (some start)
      s!"expected URI, but found {shownChar (← peekAt 0)}"
  return String.join chunks.toList

/-- Reads the value of a `%TAG` directive. -/
def tagPrefixValue (start : Mark) : ScanM DirectiveValue := do
  skipSpaces
  let handle ← tagHandle "directive" start
  if (← peek) != ' ' then
    fail (some "while scanning a directive") (some start) s!"expected ' ', but found {shownChar (← peek)}"
  skipSpaces
  let pfx ← tagUri "directive" start
  if !isSpaceZ (← peek) then
    fail (some "while scanning a directive") (some start) s!"expected ' ', but found {shownChar (← peek)}"
  return .tagPrefix handle pfx

/-- Reads the rest of a directive's line: blanks and a comment. -/
def directiveEnd (start : Mark) : ScanM Unit := do
  skipSpaces
  if (← peek) == '#' then skipToBreak
  let c ← peek
  if !isBreakZ c then
    fail (some "while scanning a directive") (some start)
      s!"expected a comment or a line break, but found {shownChar c}"
  discard lineBreak

/-- Reads a directive. -/
def directive : ScanM Token := do
  let start ← here
  forward 1
  let name ← directiveName start
  let (value, stop) ←
    if name == "YAML" then do
      let v ← versionValue start
      pure (v, ← here)
    else if name == "TAG" then do
      let v ← tagPrefixValue start
      pure (v, ← here)
    else do
      let m ← here
      skipToBreak
      pure (DirectiveValue.other, m)
  directiveEnd start
  return ⟨.directive name value, start, stop⟩

/-- Reads an alias (`*name`) or an anchor (`&name`). -/
def anchorOrAlias (isAlias : Bool) : ScanM Token := do
  let start ← here
  let what := if isAlias then "alias" else "anchor"
  forward 1
  let n ← runLength isWordChar
  if n == 0 then
    fail (some s!"while scanning an {what}") (some start)
      s!"expected alphabetic or numeric character, but found {shownChar (← peek)}"
  let name ← ahead n
  forward n
  let c ← peek
  if !(isBlankZ c || "?:,]\x7d%@`".toList.contains c) then
    fail (some s!"while scanning an {what}") (some start)
      s!"expected alphabetic or numeric character, but found {shownChar c}"
  let stop ← here
  return ⟨if isAlias then .alias name else .anchor name, start, stop⟩

/-- Reads a tag: verbatim `!<uri>`, a lone `!`, or a handle and a suffix. -/
def tag : ScanM Token := do
  let start ← here
  let c ← peekAt 1
  let (handle, suffix) ←
    if c == '<' then do
      forward 2
      let suffix ← tagUri "tag" start
      if (← peek) != '>' then
        fail (some "while parsing a tag") (some start) s!"expected '>', but found {shownChar (← peek)}"
      forward 1
      pure (none, suffix)
    else if isBlankZ c then do
      forward 1
      pure (none, "!")
    else do
      let n ← runLength (fun c => !isSpaceZ c && c != '!') 1
      let handle ←
        if (← peekAt n) == '!' then tagHandle "tag" start
        else do
          forward 1
          pure "!"
      let suffix ← tagUri "tag" start
      pure (some handle, suffix)
  let c ← peek
  if !isSpaceZ c then
    fail (some "while scanning a tag") (some start) s!"expected ' ', but found {shownChar c}"
  let stop ← here
  return ⟨.tag handle suffix, start, stop⟩

/-! ### Block scalars -/

/-- Reads the header of a block scalar: chomping (`+` keep, `-` strip) and an
indentation indicator from 1 to 9, in either order. -/
def blockIndicators (start : Mark) : ScanM (Option Bool × Option Nat) := do
  let mut chomping : Option Bool := none
  let mut increment : Option Nat := none
  let c ← peek
  if c == '+' || c == '-' then
    chomping := some (c == '+')
    forward 1
    let c ← peek
    if '0' ≤ c && c ≤ '9' then
      if c == '0' then
        fail (some "while scanning a block scalar") (some start)
          "expected indentation indicator in the range 1-9, but found 0"
      increment := some (c.toNat - '0'.toNat)
      forward 1
  else if '0' ≤ c && c ≤ '9' then
    if c == '0' then
      fail (some "while scanning a block scalar") (some start)
        "expected indentation indicator in the range 1-9, but found 0"
    increment := some (c.toNat - '0'.toNat)
    forward 1
    let c ← peek
    if c == '+' || c == '-' then
      chomping := some (c == '+')
      forward 1
  let c ← peek
  if !isSpaceZ c then
    fail (some "while scanning a block scalar") (some start)
      s!"expected chomping or indentation indicators, but found {shownChar c}"
  return (chomping, increment)

/-- Reads the rest of a block scalar's header line. -/
def blockHeaderEnd (start : Mark) : ScanM Unit := do
  skipSpaces
  if (← peek) == '#' then skipToBreak
  let c ← peek
  if !isBreakZ c then
    fail (some "while scanning a block scalar") (some start)
      s!"expected a comment or a line break, but found {shownChar c}"
  discard lineBreak

/-- Reads the blank lines before a block scalar's first line, finding the widest
indentation among them. -/
def blockIndentation : ScanM (Array String × Nat × Mark) := do
  let mut breaks : Array String := #[]
  let mut widest := 0
  let mut stop ← here
  for _ in [0:(← bound)] do
    let c ← peek
    if !(c == ' ' || isBreak c) then break
    if c != ' ' then
      breaks := breaks.push (← lineBreak)
      stop ← here
    else
      forward 1
      let col := (← get).column
      if col > widest then widest := col
  return (breaks, widest, stop)

/-- Reads line breaks and the indentation up to `indent` after them. -/
def blockBreaks (indent : Nat) : ScanM (Array String × Mark) := do
  let mut breaks : Array String := #[]
  let mut stop ← here
  for _ in [0:(← bound)] do
    if (← get).column < indent && (← peek) == ' ' then forward 1 else break
  for _ in [0:(← bound)] do
    if !isBreak (← peek) then break
    breaks := breaks.push (← lineBreak)
    stop ← here
    for _ in [0:(← bound)] do
      if (← get).column < indent && (← peek) == ' ' then forward 1 else break
  return (breaks, stop)

/-- Reads a literal (`|`) or folded (`>`) block scalar. -/
def blockScalar (folded : Bool) : ScanM Token := do
  let start ← here
  forward 1
  let (chomping, increment) ← blockIndicators start
  blockHeaderEnd start
  let outer := (← get).indent
  let minIndent : Nat := if outer + 1 < 1 then 1 else (outer + 1).toNat
  let (breaks0, indent, stop0) ← match increment with
    | none => do
      let (bs, widest, m) ← blockIndentation
      pure (bs, max minIndent widest, m)
    | some inc => do
      let indent := minIndent + inc - 1
      let (bs, m) ← blockBreaks indent
      pure (bs, indent, m)
  let mut breaks := breaks0
  let mut stop := stop0
  let mut chunks : Array String := #[]
  let mut brk := ""
  for _ in [0:(← bound)] do
    if !((← get).column == indent && (← peek) != '\x00') then break
    chunks := chunks ++ breaks
    let leadingNonSpace := !((← peek) == ' ' || (← peek) == '\t')
    let n ← runLength (fun c => !isBreakZ c)
    chunks := chunks.push (← ahead n)
    forward n
    brk ← lineBreak
    let (bs, m) ← blockBreaks indent
    breaks := bs
    stop := m
    if (← get).column == indent && (← peek) != '\x00' then
      let c ← peek
      if folded && brk == "\n" && leadingNonSpace && !(c == ' ' || c == '\t') then
        if breaks.isEmpty then chunks := chunks.push " "
      else chunks := chunks.push brk
    else break
  if chomping != some false then chunks := chunks.push brk
  if chomping == some true then chunks := chunks ++ breaks
  return ⟨.scalar ⟨String.join chunks.toList, []⟩ (if folded then .folded else .literal), start, stop⟩

/-! ### Flow scalars -/

/-- Reads line breaks inside a quoted scalar; a document marker at a line's start is a
problem. -/
def quotedBreaks (start : Mark) : ScanM (Array String) := do
  let mut chunks : Array String := #[]
  for _ in [0:(← bound)] do
    let p ← ahead 3
    if (p == "---" || p == "...") && isBlankZ (← peekAt 3) then
      fail (some "while scanning a quoted scalar") (some start) "found unexpected document separator"
    for _ in [0:(← bound)] do
      let c ← peek
      if c == ' ' || c == '\t' then forward 1 else break
    if isBreak (← peek) then chunks := chunks.push (← lineBreak) else break
  return chunks

/-- Reads the text of a quoted scalar up to the next blank, quote or escape, and escapes,
onto the chunks read so far and the lone surrogates among them (each at its place in the
text, where the chunks hold the replacement character). -/
def quotedText (double : Bool) (start : Mark) (chunks : Array String) (lone : Array (Nat × Nat)) :
    ScanM (Array String × Array (Nat × Nat)) := do
  let mut chunks := chunks
  let mut lone := lone
  for _ in [0:(← bound)] do
    let n ← runLength (fun c => !(c == '\'' || c == '"' || c == '\\' || isBlankZ c))
    if n > 0 then
      chunks := chunks.push (← ahead n)
      forward n
    let c ← peek
    if !double && c == '\'' && (← peekAt 1) == '\'' then
      chunks := chunks.push "'"
      forward 2
    else if (double && c == '\'') || (!double && (c == '"' || c == '\\')) then
      chunks := chunks.push c.toString
      forward 1
    else if double && c == '\\' then
      forward 1
      let c ← peek
      match escapeReplacement? c, escapeWidth? c with
      | some r, _ =>
        chunks := chunks.push r.toString
        forward 1
      | none, some width =>
        forward 1
        for k in [0:width] do
          let d ← peekAt k
          if !isHexChar d then
            fail (some "while scanning a double-quoted scalar") (some start)
              s!"expected escape sequence of {width} hexadecimal numbers, but found {shownChar d}"
        let digits ← ahead width
        let code := digits.toList.foldl (fun acc d => acc * 16 + hexCharValue d) 0
        if code > 0x10FFFF then failWith ⟨.badValue, "chr() arg not in range(0x110000)"⟩
        if 0xD800 ≤ code && code ≤ 0xDFFF then
          lone := lone.push (chunks.foldl (fun n s => n + s.length) 0, code)
          chunks := chunks.push (Char.ofNat 0xFFFD).toString
        else chunks := chunks.push (Char.ofNat code).toString
        forward width
      | none, none =>
        if isBreak c then
          discard lineBreak
          chunks := chunks ++ (← quotedBreaks start)
        else
          fail (some "while scanning a double-quoted scalar") (some start)
            s!"found unknown escape character {shownChar c}"
    else break
  return (chunks, lone)

/-- Reads blanks inside a quoted scalar: a single line break folds to a space. -/
def quotedSpaces (start : Mark) : ScanM (Array String) := do
  let n ← runLength (fun c => c == ' ' || c == '\t')
  let ws ← ahead n
  forward n
  let c ← peek
  if c == '\x00' then
    fail (some "while scanning a quoted scalar") (some start) "found unexpected end of stream"
  else if isBreak c then
    let brk ← lineBreak
    let breaks ← quotedBreaks start
    let first := if brk != "\n" then #[brk] else if breaks.isEmpty then #[" "] else #[]
    return first ++ breaks
  else return #[ws]

/-- Reads a single- or double-quoted scalar. -/
def quotedScalar (double : Bool) : ScanM Token := do
  let start ← here
  let quote ← peek
  forward 1
  let (first, firstLone) ← quotedText double start #[] #[]
  let mut chunks := first
  let mut lone := firstLone
  for _ in [0:(← bound)] do
    if (← peek) == quote then break
    chunks := chunks ++ (← quotedSpaces start)
    let (more, moreLone) ← quotedText double start chunks lone
    chunks := more
    lone := moreLone
  forward 1
  let stop ← here
  return ⟨.scalar ⟨String.join chunks.toList, lone.toList⟩
    (if double then .doubleQuoted else .singleQuoted), start, stop⟩

/-! ### Plain scalars -/

/-- Reads the blanks after a word of a plain scalar; `none` when a document marker ends
the scalar. Line breaks fold as in quoted scalars. -/
def plainSpaces : ScanM (Option (Array String)) := do
  let n ← runLength (· == ' ')
  let ws ← ahead n
  forward n
  let c ← peek
  if isBreak c then
    let brk ← lineBreak
    allowKey true
    let p ← ahead 3
    if (p == "---" || p == "...") && isBlankZ (← peekAt 3) then return none
    let mut breaks : Array String := #[]
    for _ in [0:(← bound)] do
      let c ← peek
      if c == ' ' then forward 1
      else if isBreak c then
        breaks := breaks.push (← lineBreak)
        let p ← ahead 3
        if (p == "---" || p == "...") && isBlankZ (← peekAt 3) then return none
      else break
    let first := if brk != "\n" then #[brk] else if breaks.isEmpty then #[" "] else #[]
    return some (first ++ breaks)
  else if ws.isEmpty then return some #[]
  else return some #[ws]

/-- Whether the character at `k` ends a word of a plain scalar. -/
def endsPlainWord (k : Nat) : ScanM Bool := do
  let c ← peekAt k
  let flow := (← get).flowLevel != 0
  if isBlankZ c then return true
  if c == ':' then
    let d ← peekAt (k + 1)
    if isBlankZ d || (flow && ",[]\x7b\x7d".toList.contains d) then return true
  return flow && ",?[]\x7b\x7d".toList.contains c

/-- Reads a plain scalar. -/
def plainScalar : ScanM Token := do
  let start ← here
  let mut stop := start
  let indent := (← get).indent + 1
  let mut chunks : Array String := #[]
  let mut spaces : Array String := #[]
  for _ in [0:(← bound)] do
    if (← peek) == '#' then break
    let mut n := 0
    for _ in [0:(← bound)] do
      if (← endsPlainWord n) then break
      n := n + 1
    if n == 0 then break
    allowKey false
    chunks := chunks ++ spaces
    chunks := chunks.push (← ahead n)
    forward n
    stop ← here
    match (← plainSpaces) with
    | none => break
    | some sp =>
      spaces := sp
      if sp.isEmpty || (← peek) == '#' ||
          ((← get).flowLevel == 0 && ((← get).column : Int) < indent) then break
  return ⟨.scalar ⟨String.join chunks.toList, []⟩ .plain, start, stop⟩

/-! ### Fetching tokens -/

/-- Moves past blanks, comments and line breaks to the next token; a line break in block
context allows a simple key. A byte-order mark at the start is skipped. -/
def toNextToken : ScanM Unit := do
  if (← get).pos == 0 && (← peek) == '\uFEFF' then forward 1
  for _ in [0:(← bound)] do
    skipSpaces
    if (← peek) == '#' then skipToBreak
    if (← lineBreak) != "" then
      if (← get).flowLevel == 0 then allowKey true
    else break

/-- Produces a token that spans one indicator of `n` characters. -/
def indicator (k : TokenKind) (n : Nat := 1) : ScanM Unit := do
  let start ← here
  forward n
  let stop ← here
  push k start stop

/-- Produces the end of the stream. -/
def streamEnd : ScanM Unit := do
  unwindIndent (-1)
  removeKey
  allowKey false
  modify fun s => { s with keys := [] }
  let m ← here
  push .streamEnd m m
  modify fun s => { s with done := true }

/-- Produces a document marker (`---` or `...`). -/
def documentMarker (k : TokenKind) : ScanM Unit := do
  unwindIndent (-1)
  removeKey
  allowKey false
  indicator k 3

/-- Produces the start of a flow collection. -/
def flowStart (k : TokenKind) : ScanM Unit := do
  saveKey
  modify fun s => { s with flowLevel := s.flowLevel + 1 }
  allowKey true
  indicator k

/-- Produces the end of a flow collection. -/
def flowEnd (k : TokenKind) : ScanM Unit := do
  removeKey
  modify fun s => { s with flowLevel := s.flowLevel - 1 }
  allowKey false
  indicator k

/-- Produces a flow entry (`,`). -/
def flowEntry : ScanM Unit := do
  allowKey true
  removeKey
  indicator .flowEntry

/-- Produces a block entry (`-`), opening a block sequence if needed. -/
def blockEntry : ScanM Unit := do
  if (← get).flowLevel == 0 then
    if !(← get).allowSimpleKey then
      fail none none "sequence entries are not allowed here"
    if (← addIndent (← get).column) then
      let m ← here
      push .blockSequenceStart m m
  allowKey true
  removeKey
  indicator .blockEntry

/-- Produces a complex key (`?`), opening a block mapping if needed. -/
def complexKey : ScanM Unit := do
  if (← get).flowLevel == 0 then
    if !(← get).allowSimpleKey then
      fail none none "mapping keys are not allowed here"
    if (← addIndent (← get).column) then
      let m ← here
      push .blockMappingStart m m
  allowKey ((← get).flowLevel == 0)
  removeKey
  indicator .key

/-- Produces a value (`:`): a possible simple key before it becomes a key, inserted
before its first token. -/
def valueIndicator : ScanM Unit := do
  let s ← get
  match s.keys.lookup s.flowLevel with
  | some k =>
    set { s with keys := s.keys.filter (fun (e : Nat × SimpleKey) => e.1 != s.flowLevel) }
    insertAt k.tokenNumber ⟨.key, k.mark, k.mark⟩
    if s.flowLevel == 0 then
      if (← addIndent k.mark.column) then
        insertAt k.tokenNumber ⟨.blockMappingStart, k.mark, k.mark⟩
    allowKey false
  | none =>
    if s.flowLevel == 0 then
      if !s.allowSimpleKey then
        fail none none "mapping values are not allowed here"
      if (← addIndent s.column) then
        let m ← here
        push .blockMappingStart m m
    allowKey (s.flowLevel == 0)
    removeKey
  indicator .value

/-- Whether a plain scalar may start here. -/
def plainStarts : ScanM Bool := do
  let c ← peek
  let d ← peekAt 1
  return !isIndicatorStart c ||
    (!isBlankZ d && (c == '-' || ((← get).flowLevel == 0 && (c == '?' || c == ':'))))

/-- Produces the next tokens. -/
def fetchMore : ScanM Unit := do
  toNextToken
  dropStaleKeys
  unwindIndent (← get).column
  let c ← peek
  let col := (← get).column
  let flow := (← get).flowLevel != 0
  let blankAfter := isBlankZ (← peekAt 1)
  if c == '\x00' then streamEnd
  else if c == '%' && col == 0 then
    unwindIndent (-1)
    removeKey
    allowKey false
    let t ← directive
    modify fun s => { s with tokens := s.tokens.push t }
  else if c == '-' && col == 0 && (← ahead 3) == "---" && isBlankZ (← peekAt 3) then
    documentMarker .documentStart
  else if c == '.' && col == 0 && (← ahead 3) == "..." && isBlankZ (← peekAt 3) then
    documentMarker .documentEnd
  else if c == '[' then flowStart .flowSequenceStart
  else if c == '\x7b' then flowStart .flowMappingStart
  else if c == ']' then flowEnd .flowSequenceEnd
  else if c == '\x7d' then flowEnd .flowMappingEnd
  else if c == ',' then flowEntry
  else if c == '-' && blankAfter then blockEntry
  else if c == '?' && (flow || blankAfter) then complexKey
  else if c == ':' && (flow || blankAfter) then valueIndicator
  else if c == '*' || c == '&' then
    saveKey
    allowKey false
    let t ← anchorOrAlias (c == '*')
    modify fun s => { s with tokens := s.tokens.push t }
  else if c == '!' then
    saveKey
    allowKey false
    let t ← tag
    modify fun s => { s with tokens := s.tokens.push t }
  else if (c == '|' || c == '>') && !flow then
    allowKey true
    removeKey
    let t ← blockScalar (c == '>')
    modify fun s => { s with tokens := s.tokens.push t }
  else if c == '\'' || c == '"' then
    saveKey
    allowKey false
    let t ← quotedScalar (c == '"')
    modify fun s => { s with tokens := s.tokens.push t }
  else if (← plainStarts) then
    saveKey
    allowKey false
    let t ← plainScalar
    modify fun s => { s with tokens := s.tokens.push t }
  else
    fail (some "while scanning for the next token") none
      s!"found character {shownChar c} that cannot start any token"

/-- Whether more tokens must be produced before the next one can be handed out: none is
waiting, or a simple key may start at it. -/
def needMore : ScanM Bool := do
  let s ← get
  if s.done then return false
  if s.tokens.size ≤ s.taken then return true
  dropStaleKeys
  let s ← get
  return nextPossibleKey s == some s.taken

/-- Produces tokens until the next one can be handed out. -/
def prepareNext : ScanM Unit := do
  for _ in [0:(← bound) + 1] do
    if (← needMore) then fetchMore else break

end Scan

/-- Whether a character may appear in a document: tab, line feed, carriage return, the
printable ASCII characters, NEL, and the rest of Unicode from U+00A0 except surrogates and
U+FFFE, U+FFFF. -/
def isDocumentChar (c : Char) : Bool :=
  let n := c.toNat
  n == 0x09 || n == 0x0A || n == 0x0D || (0x20 ≤ n && n ≤ 0x7E) || n == 0x85 ||
    (0xA0 ≤ n && n ≤ 0xD7FF) || (0xE000 ≤ n && n ≤ 0xFFFD) || (0x10000 ≤ n && n ≤ 0x10FFFF)

/-- The tokens of a document as they are handed out one at a time: the tokens before a
problem, and the problem met when the next one is asked for. -/
structure TokenStream where
  /-- The tokens handed out. -/
  tokens : Array Token
  /-- The problem met when asking for the token after them, if any. -/
  problem : Option Problem

/-- Scans a document into the tokens handed out before a problem. -/
def scanTokens (text : String) : TokenStream :=
  let buf := (text.toList ++ ['\x00']).toArray
  let s0 : Scanner := { buf, tokens := #[⟨.streamStart, ⟨0, 0, 0⟩, ⟨0, 0, 0⟩⟩] }
  go s0 (4 * buf.size + 8)
where
  /-- Hands out tokens from `s` on, with `fuel` steps left. -/
  go (s : Scanner) (fuel : Nat) : TokenStream :=
    match fuel with
    | 0 => ⟨s.tokens.extract 0 s.taken, none⟩
    | fuel + 1 =>
      match Scan.prepareNext.run s with
      | .error p => ⟨s.tokens.extract 0 s.taken, some p⟩
      | .ok ((), s') =>
        if s'.taken < s'.tokens.size then go { s' with taken := s'.taken + 1 } fuel
        else ⟨s'.tokens, none⟩

end Preflight.Yaml
