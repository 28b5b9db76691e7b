import Preflight.Value.Display
import Preflight.Failure

/-!
# Places in a YAML document and the problems found there

A mark is a place in the document: the character's index, and its line and column counted
from zero. A problem names what was being read when it was found (with a mark), what is
wrong (with a mark) and an optional note. Its message shows each mark as its line and
column counted from one, followed by the line of the document with a caret under the place;
a context mark at the same place as the problem mark is shown once. A problem may instead
carry a failure of reading a part of the document, which is reported as it is.

The document is held with a NUL character after its end; a line of the snippet ends at a
line break or at that NUL, and is cut to at most 37 characters on either side of the mark,
with ` ... ` showing the cut.
-/

set_option autoImplicit false

namespace Preflight.Yaml

/-- A place in a document. -/
structure Mark where
  /-- The index of the character. -/
  index : Nat
  /-- The line, from zero. -/
  line : Nat
  /-- The column, from zero. -/
  column : Nat
  deriving DecidableEq, Repr, Inhabited

/-- The name under which documents given as text are shown. -/
def documentName : String := "<unicode string>"

/-- Whether a character ends a line of a snippet. -/
def endsSnippetLine (c : Char) : Bool :=
  c == '\x00' || c == '\r' || c == '\n' || c == '\x85' || c == '\u2028' || c == '\u2029'

/-- How far a snippet reaches on either side of its mark before it is cut. -/
def snippetReach : Nat := 37

/-- Moves the start of a snippet back from `p` while it stays on the line; returns the
start and whether it was cut. -/
def snippetStart (buf : Array Char) (p : Nat) : Nat × Bool :=
  go p p
where
  /-- Moves back from `start`, with `fuel` steps left. -/
  go (start fuel : Nat) : Nat × Bool :=
    match fuel with
    | 0 => (start, false)
    | fuel + 1 =>
      if start > 0 && !endsSnippetLine (buf.getD (start - 1) '\x00') then
        let s := start - 1
        if p - s ≥ snippetReach then (s + 5, true) else go s fuel
      else (start, false)

/-- Moves the end of a snippet forward from `p` while it stays on the line; returns the end
and whether it was cut. -/
def snippetEnd (buf : Array Char) (p : Nat) : Nat × Bool :=
  go p (buf.size - p)
where
  /-- Moves forward from `stop`, with `fuel` steps left. -/
  go (stop fuel : Nat) : Nat × Bool :=
    match fuel with
    | 0 => (stop, false)
    | fuel + 1 =>
      if stop < buf.size && !endsSnippetLine (buf.getD stop '\x00') then
        let e := stop + 1
        if e - p ≥ snippetReach then (e - 5, true) else go e fuel
      else (stop, false)

/-- The snippet of a mark: its line, indented by four, and a caret under the place. -/
def Mark.snippet (m : Mark) (buf : Array Char) : String :=
  let (start, cutHead) := snippetStart buf m.index
  let (stop, cutTail) := snippetEnd buf m.index
  let head := if cutHead then " ... " else ""
  let tail := if cutTail then " ... " else ""
  let text := String.ofList ((buf.extract start stop).toList)
  "    " ++ head ++ text ++ tail ++ "\n" ++
    String.ofList (List.replicate (4 + (m.index - start) + head.length) ' ') ++ "^"

/-- The description of a mark: its line and column from one, and its snippet. -/
def Mark.describe (m : Mark) (buf : Array Char) : String :=
  s!"  in \"{documentName}\", line {m.line + 1}, column {m.column + 1}:\n" ++ m.snippet buf

/-- A problem found while reading a document. -/
structure Problem where
  /-- What was being read. -/
  context : Option String := none
  /-- Where that began. -/
  contextMark : Option Mark := none
  /-- What is wrong. -/
  problem : Option String := none
  /-- Where it is wrong. -/
  problemMark : Option Mark := none
  /-- A note. -/
  note : Option String := none
  /-- A failure met while reading a part of the document that is not a fault of the
  document's form (a number too long to read, a character code out of range); it is
  reported as itself. -/
  failure : Option Failure := none
  deriving Inhabited

/-- The message of a problem. -/
def Problem.message (p : Problem) (buf : Array Char) : String :=
  let showContextMark :=
    match p.contextMark, p.problem, p.problemMark with
    | some c, some _, some q => c.line != q.line || c.column != q.column
    | some _, _, _ => true
    | none, _, _ => false
  let parts : List (Option String) :=
    [p.context,
     if showContextMark then p.contextMark.map (·.describe buf) else none,
     p.problem,
     p.problemMark.map (·.describe buf),
     p.note]
  "\n".intercalate (parts.filterMap id)

/-- The display of a character in a message, quoted. -/
def shownChar (c : Char) : String :=
  displayText c.toString

end Preflight.Yaml
