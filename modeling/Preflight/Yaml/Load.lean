import Preflight.Yaml.Node
import Preflight.Decimal.Integer
import Preflight.Decimal.Read
import Preflight.Text.Base64
import Preflight.Text.Lower
import Preflight.Time.Civil
import Preflight.Failure

/-!
# Loading a YAML document as a value

The nodes of a document become values by their tags: null, truth values, integers,
floats, binary data (base64), dates and times, strings, sequences, mappings, sets, ordered
maps and lists of pairs. Any other tag is a problem. A mapping's `<<` keys merge the pairs
of the mappings they name before the mapping's own pairs; a later key replaces the value of
an equal earlier one but keeps its place. A key must not be a collection.

Values are made in rounds: a node's scalars are read as soon as the node is, while the
contents of the collections it holds wait for the next round. So the first problem met is
the first one in that order, not in the order of the text. A malformed explicit scalar
(an integer tagged `!!int` that is not one, a date out of range) is not a problem of the
document but a failure of the kind of the value's own reading.

A collection may hold itself through an alias. A loaded document keeps its graph of nodes,
so the value at any node can be unfolded from that node on, the collection standing as a
cycle where it is met again inside itself.
-/

set_option autoImplicit false

namespace Preflight.Yaml

open Preflight.Time

/-- Why a document could not be loaded. -/
inductive LoadError where
  /-- The document is not well-formed YAML, or a node cannot be made into a value; the
  message describes where. -/
  | malformed (message : String)
  /-- Making a value failed outside the document's rules. -/
  | failed (f : Failure)

/-- What a problem met while reading a document reports: its failure, if it carries one,
else the problem's message over the document `buf`. -/
def LoadError.ofProblem (p : Problem) (buf : Array Char) : LoadError :=
  match p.failure with
  | some f => .failed f
  | none => .malformed (p.message buf)

/-- The failure of an index past the end of a text. -/
def indexFailure : Failure := ⟨.index, "string index out of range"⟩

/-- A problem of construction at a node. -/
def constructProblem (context : Option String) (contextMark : Option Mark) (problem : String)
    (at_ : Mark) : Problem :=
  { context, contextMark, problem := some problem, problemMark := some at_ }

/-- Why a node could not be made into a value. -/
inductive BuildFault where
  | problem (p : Problem)
  | failed (f : Failure)

/-- The texts of truth values, lower-cased. -/
def truthWords : List (String × Bool) :=
  [("yes", true), ("no", false), ("true", true), ("false", false), ("on", true), ("off", false)]

/-- What a scalar node reads as: nothing, a truth value, a number, a text, bytes, a date or
a moment; never a collection. -/
inductive Scalar where
  | null
  | bool (b : Bool)
  | int (n : Int)
  | float (x : Float)
  | str (s : String)
  /-- A text holding lone surrogates, given by its code points. -/
  | codeStr (points : List Nat)
  | bytes (b : List UInt8)
  | date (d : Date)
  | moment (t : Moment)

/-- The value of a scalar. -/
def Scalar.value : Scalar → Value
  | .null => .null
  | .bool b => .bool b
  | .int n => .int n
  | .float x => .float x
  | .str s => .str s
  | .codeStr ps => .codeStr ps
  | .bytes b => .bytes b
  | .date d => .date d
  | .moment t => .moment t

/-- The text of some code points: a `str` unless one of them is a surrogate. -/
def Scalar.ofPoints (ps : List Nat) : Scalar :=
  if ps.any Value.isSurrogate then .codeStr ps else .str (String.ofList (ps.map Char.ofNat))

/-- Reads an integer in a base, as a failure on error. -/
def intIn (s : String) (base : Nat) : Except BuildFault Int :=
  (Decimal.readInt s base).mapError (fun f => .failed ⟨.badValue, f.message⟩)

/-- Splits a text at a character. -/
def splitOn (s : String) (c : Char) : List String :=
  (s.toList.splitOn c).map String.ofList

/-- Reads the text of an integer scalar: underscores dropped, a sign, then `0`, binary,
hexadecimal, octal (a leading zero), sexagesimal or decimal. -/
def intValue (text : String) : Except BuildFault Scalar := do
  let v := String.ofList (text.toList.filter (· != '_'))
  let first ← match v.toList.head? with
    | some c => pure c
    | none => throw (.failed indexFailure)
  let sign : Int := if first == '-' then -1 else 1
  let v := if first == '-' || first == '+' then String.ofList (v.toList.drop 1) else v
  if v == "0" then return .int 0
  if v.startsWith "0b" then return .int (sign * (← intIn (String.ofList (v.toList.drop 2)) 2))
  if v.startsWith "0x" then return .int (sign * (← intIn (String.ofList (v.toList.drop 2)) 16))
  match v.toList.head? with
  | none => throw (.failed indexFailure)
  | some '0' => return .int (sign * (← intIn v 8))
  | _ =>
    if v.toList.contains ':' then
      let parts ← (splitOn v ':').mapM (fun p => intIn p 10)
      let total := parts.foldl (fun acc d => acc * 60 + d) 0
      return .int (sign * total)
    return .int (sign * (← intIn v 10))

/-- Reads a text as a float the way the float reader of values does, as a failure on
error. -/
def floatIn (s : String) : Except BuildFault Float :=
  match Decimal.parseFloatText s with
  | some x => .ok x
  | none => .error (.failed ⟨.badValue, "could not convert string to float: " ++ displayText s⟩)

/-- Reads the text of a float scalar: underscores dropped, lower-cased, a sign, then
`.inf`, `.nan`, sexagesimal or decimal. -/
def floatValue (text : String) : Except BuildFault Scalar := do
  let v := Text.lower (String.ofList (text.toList.filter (· != '_')))
  let first ← match v.toList.head? with
    | some c => pure c
    | none => throw (.failed indexFailure)
  let neg := first == '-'
  let v := if first == '-' || first == '+' then String.ofList (v.toList.drop 1) else v
  let signed (x : Float) : Float := if neg then -x else x
  if v == ".inf" then return .float (signed (1.0 / 0.0))
  if v == ".nan" then return .float (0.0 / 0.0)
  if v.toList.contains ':' then
    let parts ← (splitOn v ':').mapM floatIn
    let (total, _) := parts.reverse.foldl
      (fun (acc : Float × Nat) d => (acc.1 + d * Float.ofNat acc.2, acc.2 * 60)) (0.0, 1)
    return .float (signed total)
  return .float (signed (← floatIn v))

/-- The message of text that is not ASCII, given by its code points: the first run of
characters outside ASCII. -/
def asciiFault (cs : List Nat) : Option String :=
  match cs.findIdx? (fun c => c ≥ 128) with
  | none => none
  | some i =>
    let run := (cs.drop i).takeWhile (fun c => c ≥ 128)
    let reason := "ordinal not in range(128)"
    if run.length == 1 then
      let n := run.headD 0
      let shown :=
        if n ≤ 0xff then "\\x" ++ hexPad 2 n
        else if n ≤ 0xffff then "\\u" ++ hexPad 4 n
        else "\\U" ++ hexPad 8 n
      some s!"'ascii' codec can't encode character '{shown}' in position {i}: {reason}"
    else
      some s!"'ascii' codec can't encode characters in position {i}-{i + run.length - 1}: {reason}"

/-- Reads the text of a binary scalar: ASCII base64. -/
def binaryValue (spelled : Text.LoneText) (m : Mark) : Except BuildFault Scalar :=
  let text := spelled.text
  match asciiFault spelled.points with
  | some msg => .error (.problem (constructProblem none none
      ("failed to convert base64 data into ascii: " ++ msg) m))
  | none =>
    match Text.Base64.decodeText text with
    | .ok bs => .ok (.bytes bs)
    | .error f => .error (.problem (constructProblem none none
        ("failed to decode base64 data: " ++ f.message) m))

/-- The fields of a date and time as written in a timestamp. -/
structure StampFields where
  year : Nat
  month : Nat
  day : Nat
  /-- The time of day and what follows it, if given. -/
  clock : Option (Nat × Nat × Nat × Option String × Option (Option (Bool × Nat × Option Nat)))

/-- Reads one or two digits. -/
def oneOrTwoDigits (cs : List Char) : Option (Nat × List Char) :=
  let isD (c : Char) := '0' ≤ c && c ≤ '9'
  match cs with
  | a :: b :: rest =>
    if isD a && isD b then some ((a.toNat - 48) * 10 + (b.toNat - 48), rest)
    else if isD a then some (a.toNat - 48, b :: rest) else none
  | [a] => if isD a then some (a.toNat - 48, []) else none
  | [] => none

/-- Reads exactly two digits. -/
def twoDigits (cs : List Char) : Option (Nat × List Char) :=
  match cs with
  | a :: b :: rest =>
    if '0' ≤ a && a ≤ '9' && '0' ≤ b && b ≤ '9' then some ((a.toNat - 48) * 10 + (b.toNat - 48), rest)
    else none
  | _ => none

/-- Whether what is left of a timestamp is its end (a final line feed is allowed). -/
def atStampEnd (cs : List Char) : Bool := cs.isEmpty || cs == ['\n']

/-- Reads the time zone of a timestamp: blanks, then `Z` or a signed hour with optional
minutes. `some none` is `Z`. -/
def stampZone (cs : List Char) : Option (Option (Option (Bool × Nat × Option Nat))) :=
  if atStampEnd cs then some none
  else
    let rest := cs.dropWhile (fun c => c == ' ' || c == '\t')
    match rest with
    | 'Z' :: r => if atStampEnd r then some (some none) else none
    | s :: r =>
      if s == '-' || s == '+' then
        match oneOrTwoDigits r with
        | some (h, r2) =>
          if atStampEnd r2 then some (some (some (s == '-', h, none)))
          else match r2 with
            | ':' :: r3 =>
              match twoDigits r3 with
              | some (m, r4) => if atStampEnd r4 then some (some (some (s == '-', h, some m))) else none
              | none => none
            | _ => none
        | none => none
      else none
    | [] => none

/-- Reads the fields of a timestamp: `YYYY-M-D`, then optionally a time after `T` or
blanks, with a fraction and a zone. -/
def stampFields (s : String) : Option StampFields := do
  let cs := s.toList
  let isD (c : Char) := '0' ≤ c && c ≤ '9'
  let y := cs.take 4
  guard (y.length == 4 && y.all isD)
  let year := y.foldl (fun acc c => acc * 10 + (c.toNat - 48)) 0
  let r := cs.drop 4
  guard (r.head? == some '-')
  let (month, r) ← oneOrTwoDigits (r.drop 1)
  guard (r.head? == some '-')
  let (day, r) ← oneOrTwoDigits (r.drop 1)
  if atStampEnd r then return ⟨year, month, day, none⟩
  let r ← match r with
    | c :: rest =>
      if c == 'T' || c == 't' then some rest
      else if c == ' ' || c == '\t' then some (rest.dropWhile (fun c => c == ' ' || c == '\t'))
      else none
    | [] => none
  let (hour, r) ← oneOrTwoDigits r
  guard (r.head? == some ':')
  let (minute, r) ← twoDigits (r.drop 1)
  guard (r.head? == some ':')
  let (second, r) ← twoDigits (r.drop 1)
  let (fraction, r) :=
    match r with
    | '.' :: rest => (some (String.ofList (rest.takeWhile isD)), rest.dropWhile isD)
    | _ => (none, r)
  let zone ← stampZone r
  return ⟨year, month, day, some (hour, minute, second, fraction, zone)⟩

/-- The failure of a date field out of range. -/
def dateFailure (f : DateFault) : BuildFault := .failed ⟨.badValue, f.message⟩

/-- Reads the text of a timestamp scalar as a date or a moment. -/
def timestampValue (text : String) : Except BuildFault Scalar := do
  let some f := stampFields text
    | throw (.failed ⟨.missingAttribute, "'NoneType' object has no attribute 'groupdict'"⟩)
  match f.clock with
  | none =>
    match Date.make f.year f.month f.day with
    | .ok d => return .date d
    | .error e => throw (dateFailure e)
  | some (hour, minute, second, fraction, zone) =>
    let micro := match fraction with
      | some digits =>
        let ds := (digits.toList.take 6)
        let ds := ds ++ List.replicate (6 - ds.length) '0'
        if digits.isEmpty then 0 else ds.foldl (fun acc c => acc * 10 + (c.toNat - 48)) 0
      | none => 0
    let offset : Option Int ← match zone with
      | none => pure none
      | some none => pure (some 0)
      | some (some (neg, h, m)) =>
        let span : Int := ((h * 60 + m.getD 0) * 60 : Nat) * 1000000
        let span := if neg then -span else span
        if span.natAbs ≥ microsPerDay then
          throw (.failed ⟨.badValue,
            "offset must be a timedelta strictly between -timedelta(hours=24) and timedelta(hours=24), not "
              ++ displaySpan span ++ "."⟩)
        pure (some span)
    let d ← match Date.make f.year f.month f.day with
      | .ok d => pure d
      | .error e => throw (dateFailure e)
    if hour > 23 then throw (.failed ⟨.badValue, "hour must be in 0..23"⟩)
    if minute > 59 then throw (.failed ⟨.badValue, "minute must be in 0..59"⟩)
    if second > 59 then throw (.failed ⟨.badValue, "second must be in 0..59"⟩)
    return .moment ⟨d, hour, minute, second, micro, offset⟩

/-- The constructors of collections. -/
inductive CollectionKind where
  | sequence | mapping | set | orderedMap | pairs
  deriving DecidableEq

/-- The collection kind a tag makes, if any. -/
def collectionOf? (tag : String) : Option CollectionKind :=
  if tag == seqTag then some .sequence
  else if tag == mapTag then some .mapping
  else if tag == setTag then some .set
  else if tag == omapTag then some .orderedMap
  else if tag == pairsTag then some .pairs
  else none

/-- Whether a tag makes a scalar value. -/
def isScalarTag (tag : String) : Bool :=
  [nullTag, boolTag, intTag, floatTag, binaryTag, timestampTag, strTag].contains tag

/-- The state of making values: the graph (merging changes mappings), which nodes were
reached, the scalar values read, and the collections waiting for the next round. -/
structure Builder where
  /-- The graph. -/
  graph : Graph
  /-- Which nodes were reached. -/
  reached : Array Bool
  /-- The values of scalar nodes read so far. -/
  scalars : Array (Option Scalar)
  /-- The collections whose contents wait for the next round. -/
  waiting : Array Nat := #[]

/-- Making values: a step that may fail. -/
abbrev BuildM := StateT Builder (Except BuildFault)

namespace Build

/-- A node of the graph. -/
def nodeAt (i : Nat) : BuildM Node := do
  return (← get).graph.nodes[i]?.getD default

/-- Changes a node of the graph. -/
def changeNode (i : Nat) (f : Node → Node) : BuildM Unit :=
  modify fun b => { b with graph := { nodes := b.graph.nodes.modify i f } }

/-- A problem at a node. -/
def failAt {α : Type} (context : Option String) (contextMark : Option Mark) (problem : String)
    (m : Mark) : BuildM α :=
  throw (.problem (constructProblem context contextMark problem m))

/-- The text of a scalar node; a mapping stands for the value under its `=` key. -/
def scalarText : Nat → Nat → BuildM Text.LoneText
  | 0, _ => throw (.problem { problem := some "too deeply nested" })
  | fuel + 1, i => do
    let n ← nodeAt i
    match n.body with
    | .scalar text _ => return text
    | .mapping pairs =>
      for (k, v) in pairs do
        if (← nodeAt k).tag == valueTag then return ← scalarText fuel v
      failAt none none s!"expected a scalar node, but found {n.kindName}" n.start
    | .sequence _ => failAt none none s!"expected a scalar node, but found {n.kindName}" n.start

/-- Reads a scalar node by its tag. -/
def scalarValue (i : Nat) (tag : String) : BuildM Scalar := do
  let n ← nodeAt i
  let fuel := (← get).graph.nodes.size + 1
  let spelled ← scalarText fuel i
  let text := spelled.text
  let lift {α : Type} (r : Except BuildFault α) : BuildM α := match r with
    | .ok a => pure a
    | .error e => throw e
  if tag == nullTag then return .null
  if tag == boolTag then
    let w := Text.lower text
    match truthWords.lookup w with
    | some b => return .bool b
    | none => throw (.failed ⟨.missingKey, displayText w⟩)
  if tag == intTag then return ← lift (intValue text)
  if tag == floatTag then return ← lift (floatValue text)
  if tag == binaryTag then return ← lift (binaryValue spelled n.start)
  if tag == timestampTag then
    -- the pattern is matched against the node's own text, which a mapping does not have
    match n.body with
    | .scalar t _ => return ← lift (timestampValue t.text)
    | _ => throw (.failed ⟨.wrongKind, "expected string or bytes-like object, got 'list'"⟩)
  return if spelled.lone.isEmpty then .str text else Scalar.ofPoints spelled.points

/-- Reaches a node: a scalar is read now, a collection waits for the next round, and a
node of an unknown tag is a problem. -/
def reach (i : Nat) : BuildM Unit := do
  if (← get).reached.getD i false then return
  modify fun b => { b with reached := b.reached.set! i true }
  let n ← nodeAt i
  if isScalarTag n.tag then
    let v ← scalarValue i n.tag
    modify fun b => { b with scalars := b.scalars.set! i (some v) }
  else if (collectionOf? n.tag).isSome then
    modify fun b => { b with waiting := b.waiting.push i }
  else
    failAt none none s!"could not determine a constructor for the tag {displayText n.tag}" n.start

/-- The pairs a mapping node holds now; none for other nodes. -/
def pairsOf (i : Nat) : BuildM (Array (Nat × Nat)) := do
  match (← nodeAt i).body with
  | .mapping ps => return ps
  | _ => return #[]

/-- The problem of running out of steps while merging. -/
def tooDeep {α : Type} : BuildM α := throw (.problem { problem := some "too deeply nested" })

mutual
/-- Merges the mappings named by `<<` keys into mapping node `i`, before its own pairs; keys
tagged `=` become strings. The node's pairs change in place as it goes: a `<<` pair is taken
out before the mappings it names are merged themselves, so a mapping that names itself
merges what it holds at that moment, and the walk over the pairs goes on from where it was
in whatever pairs the node then holds. The merged pairs come first at the end. -/
def flatten : Nat → Nat → BuildM Unit
  | 0, _ => tooDeep
  | fuel + 1, i => do
    let merge ← flattenFrom fuel i 0 #[]
    if !merge.isEmpty then
      let own ← pairsOf i
      changeNode i (fun x => { x with body := .mapping (merge ++ own) })

/-- Walks the pairs of mapping node `i` from `index` on, gathering onto `merge` the pairs
that `<<` keys name. -/
def flattenFrom : Nat → Nat → Nat → Array (Nat × Nat) → BuildM (Array (Nat × Nat))
  | 0, _, _, _ => tooDeep
  | fuel + 1, i, index, merge => do
    let n ← nodeAt i
    let ps ← pairsOf i
    match ps[index]? with
    | none => return merge
    | some (k, v) =>
      let kn ← nodeAt k
      if kn.tag == mergeTag then
        changeNode i (fun x => { x with body := .mapping (ps.eraseIdxIfInBounds index) })
        let vn ← nodeAt v
        match vn.body with
        | .mapping _ =>
          flatten fuel v
          let merged ← pairsOf v
          flattenFrom fuel i index (merge ++ merged)
        | .sequence items =>
          let mut groups : Array (Array (Nat × Nat)) := #[]
          for s in items do
            let sn ← nodeAt s
            match sn.body with
            | .mapping _ =>
              flatten fuel s
              groups := groups.push (← pairsOf s)
            | _ =>
              failAt (some "while constructing a mapping") (some n.start)
                s!"expected a mapping for merging, but found {sn.kindName}" sn.start
          flattenFrom fuel i index (groups.reverse.foldl (· ++ ·) merge)
        | .scalar .. =>
          failAt (some "while constructing a mapping") (some n.start)
            s!"expected a mapping or list of mappings for merging, but found {vn.kindName}" vn.start
      else
        if kn.tag == valueTag then
          changeNode k (fun x => { x with tag := strTag })
        flattenFrom fuel i (index + 1) merge
end

/-- Steps enough to merge the mappings of a graph: each step takes one pair, and merging
copies pairs a bounded number of times for any document that is not built to multiply
them. -/
def mergeFuel (g : Graph) : Nat :=
  let pairs := g.nodes.foldl (fun acc n => acc + match n.body with
    | .mapping ps => ps.size
    | _ => 0) 0
  64 * (g.nodes.size + pairs + 1)

/-- Whether a node makes a value that cannot be a key. -/
def unhashable (i : Nat) : BuildM Bool := do
  return (collectionOf? (← nodeAt i).tag).isSome

/-- Reads the pairs of a mapping: each key, then its value. -/
def mappingContents (i : Nat) : BuildM Unit := do
  let n ← nodeAt i
  if let .mapping _ := n.body then flatten (mergeFuel (← get).graph) i
  let n ← nodeAt i
  match n.body with
  | .mapping pairs =>
    for (k, v) in pairs do
      reach k
      if (← unhashable k) then
        failAt (some "while constructing a mapping") (some n.start) "found unhashable key" (← nodeAt k).start
      reach v
  | _ => failAt none none s!"expected a mapping node, but found {n.kindName}" n.start

/-- Reads the entries of an ordered map or a list of pairs: one-pair mappings. -/
def pairsContents (i : Nat) (isPairs : Bool) : BuildM Unit := do
  let n ← nodeAt i
  let context := if isPairs then "while constructing pairs" else "while constructing an ordered map"
  match n.body with
  | .sequence items =>
    for s in items do
      let sn ← nodeAt s
      match sn.body with
      | .mapping ps =>
        match ps.toList with
        | [(k, v)] =>
          reach k
          reach v
        | _ =>
          failAt (some context) (some n.start) s!"expected a single mapping item, but found {ps.size} items"
            sn.start
      | _ =>
        failAt (some context) (some n.start) s!"expected a mapping of length 1, but found {sn.kindName}"
          sn.start
  | _ => failAt (some context) (some n.start) s!"expected a sequence, but found {n.kindName}" n.start

/-- Reads the contents of a waiting collection. -/
def contents (i : Nat) : BuildM Unit := do
  let n ← nodeAt i
  match collectionOf? n.tag with
  | some .sequence =>
    match n.body with
    | .sequence items => for c in items do reach c
    | _ => failAt none none s!"expected a sequence node, but found {n.kindName}" n.start
  | some .mapping | some .set => mappingContents i
  | some .orderedMap => pairsContents i false
  | some .pairs => pairsContents i true
  | none => pure ()

/-- Reaches the root, then reads the waiting collections round by round. -/
def run (root : Nat) : BuildM Unit := do
  reach root
  for _ in [0:(← get).graph.nodes.size + 1] do
    let round := (← get).waiting
    if round.isEmpty then break
    modify fun b => { b with waiting := #[] }
    for i in round do contents i

end Build

/-- The value of a node, once every node was read without a problem, unfolded from the
node on; a collection met again inside itself (one of `seen`) stands there as a cycle. -/
def valueOf (b : Builder) : Nat → List Nat → Nat → Value
  | 0, _, _ => .null
  | fuel + 1, seen, i =>
    let n := b.graph.nodes[i]?.getD default
    match b.scalars[i]?.getD none with
    | some v => v.value
    | none =>
      if seen.contains i then
        match collectionOf? n.tag with
        | some .mapping | some .set => .cycle true
        | _ => .cycle false
      else
        let seen := i :: seen
        match collectionOf? n.tag, n.body with
        | some .sequence, .sequence items => .list (items.toList.map (valueOf b fuel seen))
        | some .mapping, .mapping pairs =>
          .dict (pairs.toList.foldl (fun es (k, v) =>
            Entries.insert es (valueOf b fuel seen k) (valueOf b fuel seen v)) [])
        | some .set, .mapping pairs =>
          .set (pairs.toList.foldl (fun es (k, _) =>
            if es.any (Value.sameKey (valueOf b fuel seen k)) then es
            else es ++ [valueOf b fuel seen k]) [])
        | some .orderedMap, .sequence items | some .pairs, .sequence items =>
          .list (items.toList.map (fun s =>
            match (b.graph.nodes[s]?.getD default).body with
            | .mapping ps =>
              match ps.toList with
              | [(k, v)] => .tuple [valueOf b fuel seen k, valueOf b fuel seen v]
              | _ => .null
            | _ => .null))
        | _, _ => .null

/-- A document read from YAML text: the graph of its nodes with their scalars read, and its
root. -/
structure Document where
  /-- The nodes and their scalars. -/
  built : Builder
  /-- The root node. -/
  root : Nat

namespace Document

/-- The value of a node, unfolded from that node on. -/
def valueAt (d : Document) (i : Nat) : Value :=
  valueOf d.built (d.built.graph.nodes.size + 1) [] i

/-- The value of the whole document. -/
def value (d : Document) : Value := d.valueAt d.root

/-- The node under a text key of a mapping node: the value of the last pair with that key,
since a later pair replaces the value of an earlier one. -/
def field? (d : Document) (i : Nat) (key : String) : Option Nat :=
  let n := d.built.graph.nodes[i]?.getD default
  match n.body with
  | .mapping pairs =>
    if n.tag != mapTag then none
    else (pairs.toList.reverse.find? (fun (k, _) => Value.sameKey (d.valueAt k) (.str key))).map (·.2)
  | _ => none

end Document

/-- Reads a whole text as a single YAML document; an empty text holds none. -/
def loadDocument (text : String) : Except LoadError (Option Document) :=
  let buf := (text.toList ++ ['\x00']).toArray
  match text.toList.findIdx? (fun c => !isDocumentChar c) with
  | some i =>
    let c := (text.toList[i]?.getD ' ').toNat
    .error (.malformed s!"unacceptable character #x{hexPad 4 c}: special characters are not allowed\n  in \"{documentName}\", position {i}")
  | none =>
    match composeSingle (parseEvents (scanTokens text)) with
    | .error p => .error (LoadError.ofProblem p buf)
    | .ok (_, none) => .ok none
    | .ok (g, some root) =>
      let b0 : Builder := { graph := g, reached := Array.replicate g.nodes.size false,
                            scalars := Array.replicate g.nodes.size none }
      match (Build.run root).run b0 with
      | .error (.problem p) => .error (LoadError.ofProblem p buf)
      | .error (.failed f) => .error (.failed f)
      | .ok ((), b) => .ok (some ⟨b, root⟩)

/-- The value of a whole text read as a single YAML document; an empty document is null. -/
def load (text : String) : Except LoadError Value :=
  (loadDocument text).map (fun d? => d?.elim .null Document.value)

end Preflight.Yaml
