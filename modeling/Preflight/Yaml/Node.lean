import Preflight.Yaml.Event
import Preflight.Yaml.Tag

/-!
# The node graph of a YAML document

Composing reads the events of a single document and builds its graph of nodes: scalars,
sequences and mappings, each with a tag. An anchor names a node and an alias refers back
to it, so a node may be reached from several places, and a collection may even contain
itself (its anchor is known as soon as it starts). Nodes are held in an array and refer to
each other by index.

A node without a tag gets one: a plain scalar's from its text, other scalars are strings,
and collections are sequences or mappings. A stream must hold at most one document.
-/

set_option autoImplicit false

namespace Preflight.Yaml

/-- The content of a node. -/
inductive NodeBody where
  | scalar (text : Text.LoneText) (style : ScalarStyle)
  | sequence (items : Array Nat)
  | mapping (pairs : Array (Nat × Nat))
  deriving Inhabited

/-- A node: its tag, content and the marks around it. -/
structure Node where
  /-- The node's tag. -/
  tag : String
  /-- The content. -/
  body : NodeBody
  /-- Where it starts. -/
  start : Mark
  /-- Where it ends. -/
  stop : Mark
  deriving Inhabited

/-- How messages name the kind of a node. -/
def Node.kindName (n : Node) : String :=
  match n.body with
  | .scalar .. => "scalar"
  | .sequence _ => "sequence"
  | .mapping _ => "mapping"

/-- The nodes of a document. -/
structure Graph where
  /-- The nodes, by index. -/
  nodes : Array Node := #[]
  deriving Inhabited

/-- The state of composing. -/
structure Composer where
  /-- The events produced by the parser. -/
  stream : EventStream
  /-- The number of events read. -/
  pos : Nat := 0
  /-- The nodes built so far. -/
  graph : Graph := {}
  /-- The anchors of the current document and their nodes. -/
  anchors : List (String × Nat) := []

/-- Composing: a step that may find a problem. -/
abbrev ComposeM := StateT Composer (Except Problem)

namespace Compose

/-- The next event; asking past the events produced meets the parser's problem. -/
def peekEvent : ComposeM Event := do
  let c ← get
  match c.stream.events[c.pos]? with
  | some e => return e
  | none => throw (c.stream.problem.getD { problem := some "unexpected end of events" })

/-- Reads the next event. -/
def nextEvent : ComposeM Event := do
  let e ← peekEvent
  modify fun c => { c with pos := c.pos + 1 }
  return e

/-- Adds a node and returns its index. -/
def addNode (n : Node) : ComposeM Nat := do
  let c ← get
  set { c with graph := { nodes := c.graph.nodes.push n } }
  return c.graph.nodes.size

/-- Changes a node. -/
def setNode (i : Nat) (f : Node → Node) : ComposeM Unit :=
  modify fun c => { c with graph := { nodes := c.graph.nodes.modify i f } }

/-- Names a node by an anchor. -/
def remember (anchor : Option String) (i : Nat) : ComposeM Unit :=
  match anchor with
  | some a => modify fun c => { c with anchors := c.anchors ++ [(a, i)] }
  | none => pure ()

/-- The start mark of a node. -/
def startOf (i : Nat) : ComposeM Mark := do
  return ((← get).graph.nodes[i]?.map (·.start)).getD default

/-- Composes a node and its content, with `fuel` levels of nesting left. -/
def node : Nat → ComposeM Nat
  | 0 => throw { problem := some "too deeply nested" }
  | fuel + 1 => do
    let e ← peekEvent
    if let .alias a := e.kind then
      discard nextEvent
      match (← get).anchors.lookup a with
      | some i => return i
      | none =>
        throw { problem := some s!"found undefined alias {displayText a}", problemMark := some e.start }
    if let some a := e.anchor? then
      if let some first := (← get).anchors.lookup a then
        throw { context := some s!"found duplicate anchor {displayText a}; first occurrence",
                contextMark := some (← startOf first),
                problem := some "second occurrence", problemMark := some e.start }
    match e.kind with
    | .scalar anchor tag plainImplicit _ text style =>
      discard nextEvent
      let t := match tag with
        | some t => if t == "!" then (if plainImplicit then implicitTag text.text else strTag) else t
        | none => if plainImplicit then implicitTag text.text else strTag
      let i ← addNode ⟨t, .scalar text style, e.start, e.stop⟩
      remember anchor i
      return i
    | .sequenceStart anchor tag _ _ =>
      discard nextEvent
      let t := match tag with
        | some t => if t == "!" then seqTag else t
        | none => seqTag
      let i ← addNode ⟨t, .sequence #[], e.start, e.start⟩
      remember anchor i
      let mut items : Array Nat := #[]
      for _ in [0:(← get).stream.events.size + 1] do
        let next ← peekEvent
        if let .sequenceEnd := next.kind then break
        items := items.push (← node fuel)
        setNode i (fun n => { n with body := .sequence items })
      let stop ← nextEvent
      setNode i (fun n => { n with stop := stop.stop })
      return i
    | .mappingStart anchor tag _ _ =>
      discard nextEvent
      let t := match tag with
        | some t => if t == "!" then mapTag else t
        | none => mapTag
      let i ← addNode ⟨t, .mapping #[], e.start, e.start⟩
      remember anchor i
      let mut pairs : Array (Nat × Nat) := #[]
      for _ in [0:(← get).stream.events.size + 1] do
        let next ← peekEvent
        if let .mappingEnd := next.kind then break
        let k ← node fuel
        let v ← node fuel
        pairs := pairs.push (k, v)
        setNode i (fun n => { n with body := .mapping pairs })
      let stop ← nextEvent
      setNode i (fun n => { n with stop := stop.stop })
      return i
    | _ => throw { problem := some "expected a node" }

/-- Composes the single document of a stream, if there is one. -/
def single : ComposeM (Option Nat) := do
  discard nextEvent
  let mut root : Option Nat := none
  if !((← peekEvent).kind matches .streamEnd) then
    discard nextEvent
    let fuel := (← get).stream.events.size + 1
    root := some (← node fuel)
    discard nextEvent
    modify fun c => { c with anchors := [] }
  let e ← peekEvent
  if !(e.kind matches .streamEnd) then
    let e ← nextEvent
    let rootStart ← match root with
      | some r => startOf r
      | none => pure default
    throw { context := some "expected a single document in the stream",
            contextMark := some rootStart,
            problem := some "but found another document", problemMark := some e.start }
  discard nextEvent
  return root

end Compose

/-- Composes the events of a stream into the graph of its single document and its root. -/
def composeSingle (es : EventStream) : Except Problem (Graph × Option Nat) :=
  match Compose.single.run { stream := es } with
  | .ok (root, c) => .ok (c.graph, root)
  | .error p => .error p

end Preflight.Yaml
