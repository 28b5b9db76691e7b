import Preflight.Value.Display
import Preflight.Text.Order

/-!
# Writing interchange documents

Values are written as interchange text. Texts keep every character except the quote, the
backslash and the control characters below 0x20, which are escaped (`\n`, `\t`, `\u001f`,
...), and lone surrogates, which are written as their escapes. A collection met again
inside itself is written empty. Doubles are written by their shortest digits, with `NaN` and `Infinity` for the
non-finite ones. A layout chooses between one line (items after `, `) and an indented form
with one item per line, and whether the members of objects are sorted by name.
-/

set_option autoImplicit false

namespace Preflight.Json

/-- How a document is laid out. -/
structure Layout where
  /-- Spaces per level of nesting, or `none` for a single line. -/
  indent : Option Nat
  /-- Whether object members are sorted by name. -/
  sortKeys : Bool

/-- One line, members in their order. -/
def Layout.line : Layout := ⟨none, false⟩

/-- Two-space indentation, members in their order. -/
def Layout.indented : Layout := ⟨some 2, false⟩

/-- Two-space indentation, members sorted by name. -/
def Layout.indentedSorted : Layout := ⟨some 2, true⟩

/-- One line, members sorted by name. -/
def Layout.lineSorted : Layout := ⟨none, true⟩

/-- The escaped form of one character inside a quoted text. -/
def escapeChar (c : Char) : String :=
  if c == '"' then "\\\""
  else if c == '\\' then "\\\\"
  else if c == '\n' then "\\n"
  else if c == '\r' then "\\r"
  else if c == '\t' then "\\t"
  else if c.toNat == 8 then "\\b"
  else if c.toNat == 12 then "\\f"
  else if c.toNat < 0x20 then "\\u" ++ hexPad 4 c.toNat
  else String.singleton c

/-- A quoted text. -/
def quote (s : String) : String :=
  "\"" ++ String.join (s.toList.map escapeChar) ++ "\""

/-- A quoted text given by code points; a lone surrogate is written as its escape. -/
def quotePoints (ps : List Nat) : String :=
  "\"" ++ String.join (ps.map fun n =>
    if Value.isSurrogate n then "\\u" ++ hexPad 4 n else escapeChar (Char.ofNat n)) ++ "\""

/-- The name under which a mapping key is written. -/
def keyName : Value → String
  | .str s => s
  | .bool b => if b then "true" else "false"
  | .null => "null"
  | .float x => Decimal.FloatStyle.interchange.render x
  | v => v.text

/-- Orders names by their characters' code points. -/
def nameLe (a b : String) : Bool := Text.textLe a b

/-- A value ready to be written: scalars already spelled, members already named and in the
order they are written. -/
inductive Doc where
  | atom (text : String)
  | items (xs : List Doc)
  | members (ms : List (String × Doc))

mutual
/-- Spells the scalars of a value and names (and, if asked, sorts) its members. -/
def prepare (sortKeys : Bool) : Value → Doc
  | .null => .atom "null"
  | .bool b => .atom (if b then "true" else "false")
  | .int n => .atom (toString n)
  | .float x => .atom (Decimal.FloatStyle.interchange.render x)
  | .str s => .atom (quote s)
  | .codeStr ps => .atom (quotePoints ps)
  | .list xs => .items (prepareAll sortKeys xs)
  | .tuple xs => .items (prepareAll sortKeys xs)
  | .set xs => .items (prepareAll sortKeys xs)
  | .dict es =>
    let ms := prepareEntries sortKeys es
    .members (if sortKeys then ms.mergeSort (fun a b => nameLe a.1 b.1) else ms)
  | .bytes b => .atom (quote (Value.bytes b).text)
  | .date d => .atom (quote (Value.date d).text)
  | .moment t => .atom (quote (Value.moment t).text)
  | .cycle m => if m then .members [] else .items []
/-- Prepares each value of a list. -/
def prepareAll (sortKeys : Bool) : List Value → List Doc
  | [] => []
  | x :: xs => prepare sortKeys x :: prepareAll sortKeys xs
/-- Prepares each entry of a mapping under its name. -/
def prepareEntries (sortKeys : Bool) : List (Value × Value) → List (String × Doc)
  | [] => []
  | e :: es => prepareEntry sortKeys e :: prepareEntries sortKeys es
/-- Prepares one entry of a mapping under its name. -/
def prepareEntry (sortKeys : Bool) : Value × Value → String × Doc
  | (k, v) => (keyName k, prepare sortKeys v)
end

/-- The line break and indentation before an item at nesting `depth`, if indented. -/
def breakAt (lay : Layout) (depth : Nat) : String :=
  match lay.indent with
  | none => ""
  | some n => "\n" ++ String.ofList (List.replicate (n * depth) ' ')

/-- The separator between items. -/
def Layout.comma (lay : Layout) : String :=
  match lay.indent with
  | none => ", "
  | some _ => ","

mutual
/-- Writes a prepared value at nesting `depth`. -/
def renderDoc (lay : Layout) (depth : Nat) : Doc → String
  | .atom t => t
  | .items [] => "[]"
  | .items xs =>
    "[" ++ breakAt lay (depth + 1) ++ renderDocs lay (depth + 1) xs ++ breakAt lay depth ++ "]"
  | .members [] => "\x7b\x7d"
  | .members ms =>
    "\x7b" ++ breakAt lay (depth + 1) ++ renderMembers lay (depth + 1) ms ++ breakAt lay depth ++ "\x7d"
/-- Writes the items of a list, separated. -/
def renderDocs (lay : Layout) (depth : Nat) : List Doc → String
  | [] => ""
  | [x] => renderDoc lay depth x
  | x :: xs => renderDoc lay depth x ++ lay.comma ++ breakAt lay depth ++ renderDocs lay depth xs
/-- Writes the members of an object, separated. -/
def renderMembers (lay : Layout) (depth : Nat) : List (String × Doc) → String
  | [] => ""
  | [m] => renderMember lay depth m
  | m :: ms =>
    renderMember lay depth m ++ lay.comma ++ breakAt lay depth ++ renderMembers lay depth ms
/-- Writes one member. -/
def renderMember (lay : Layout) (depth : Nat) : String × Doc → String
  | (k, d) => quote k ++ ": " ++ renderDoc lay depth d
end

/-- Writes a document in a layout. -/
def write (lay : Layout) (v : Value) : String := renderDoc lay 0 (prepare lay.sortKeys v)

end Preflight.Json
