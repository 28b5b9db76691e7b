import Preflight.Yaml.Token.Scan

/-!
# YAML events

The parser reads tokens and produces the events of the document's structure: the stream
and its documents begin and end, scalars, aliases, and the starts and ends of sequences and
mappings. It is a machine with a stack of states, one for each open collection, and reads
at most the next token before deciding.

Tag handles are expanded here: `!!` stands for `tag:yaml.org,2002:` and `!` for itself,
unless a `%TAG` directive of the document says otherwise. An entry, key or value with no
content is an empty plain scalar.

Events are produced one at a time, as they are asked for; `parseEvents` returns the events
produced before a problem, and the problem met when the next one is asked for.
-/

set_option autoImplicit false

namespace Preflight.Yaml

/-- What an event is. -/
inductive EventKind where
  | streamStart
  | streamEnd
  | documentStart (explicit : Bool)
  | documentEnd (explicit : Bool)
  | alias (anchor : String)
  /-- A scalar: its anchor, tag, whether its tag may be chosen from its text as a plain
  scalar or as a quoted one, its text and style. -/
  | scalar (anchor : Option String) (tag : Option String) (plainImplicit quotedImplicit : Bool)
      (text : Text.LoneText) (style : ScalarStyle)
  | sequenceStart (anchor : Option String) (tag : Option String) (implicit flow : Bool)
  | sequenceEnd
  | mappingStart (anchor : Option String) (tag : Option String) (implicit flow : Bool)
  | mappingEnd
  deriving Inhabited

/-- An event and the marks around it. -/
structure Event where
  /-- What the event is. -/
  kind : EventKind
  /-- Where it starts. -/
  start : Mark
  /-- Where it ends. -/
  stop : Mark
  deriving Inhabited

/-- The anchor an event gives its node, if any. -/
def Event.anchor? (e : Event) : Option String :=
  match e.kind with
  | .scalar a .. => a
  | .sequenceStart a .. => a
  | .mappingStart a .. => a
  | _ => none

/-- The states of the parser. -/
inductive ParseState where
  | streamStart
  | implicitDocumentStart
  | documentStart
  | documentEnd
  | documentContent
  | blockNode
  | blockSequenceFirstEntry
  | blockSequenceEntry
  | indentlessSequenceEntry
  | blockMappingFirstKey
  | blockMappingKey
  | blockMappingValue
  | flowSequenceFirstEntry
  | flowSequenceEntry
  | flowSequenceEntryMappingKey
  | flowSequenceEntryMappingValue
  | flowSequenceEntryMappingEnd
  | flowMappingFirstKey
  | flowMappingKey
  | flowMappingValue
  | flowMappingEmptyValue
  | finished
  deriving DecidableEq, Repr, Inhabited

/-- The tag handles every document knows. -/
def defaultTagHandles : List (String × String) :=
  [("!", "!"), ("!!", "tag:yaml.org,2002:")]

/-- The state of a parser. -/
structure Parser where
  /-- The tokens handed out by the scanner. -/
  stream : TokenStream
  /-- The number of tokens read. -/
  pos : Nat := 0
  /-- The current state. -/
  state : ParseState := .streamStart
  /-- The states to return to, innermost first. -/
  states : List ParseState := []
  /-- The start marks of the open collections, innermost first. -/
  marks : List Mark := []
  /-- The tag handles of the current document. -/
  tagHandles : List (String × String) := []

/-- Parsing: a step on a parser that may find a problem. -/
abbrev ParseM := StateT Parser (Except Problem)

namespace Parse

/-- The next token; asking past the tokens handed out meets the scanner's problem. -/
def peekToken : ParseM Token := do
  let p ← get
  match p.stream.tokens[p.pos]? with
  | some t => return t
  | none => throw (p.stream.problem.getD { problem := some "unexpected end of tokens" })

/-- Reads the next token. -/
def nextToken : ParseM Token := do
  let t ← peekToken
  modify fun p => { p with pos := p.pos + 1 }
  return t

/-- Whether the next token is of one of the given sorts. -/
def isNext (sorts : List TokenSort) : ParseM Bool := do
  let t ← peekToken
  return sorts.contains t.kind.sort

/-- Goes to a state. -/
def goTo (s : ParseState) : ParseM Unit :=
  modify fun p => { p with state := s }

/-- Saves a state to return to. -/
def pushState (s : ParseState) : ParseM Unit :=
  modify fun p => { p with states := s :: p.states }

/-- Returns to the last saved state. -/
def popState : ParseM Unit :=
  modify fun p => match p.states with
    | s :: rest => { p with state := s, states := rest }
    | [] => { p with state := .finished }

/-- Records the start of a collection. -/
def pushMark (m : Mark) : ParseM Unit :=
  modify fun p => { p with marks := m :: p.marks }

/-- Forgets the start of the innermost collection. -/
def popMark : ParseM Unit :=
  modify fun p => { p with marks := p.marks.drop 1 }

/-- The start of the innermost collection. -/
def topMark : ParseM Mark := do
  return (← get).marks.headD default

/-- A problem found by the parser. -/
def fail {α : Type} (context : Option String) (contextMark : Option Mark) (problem : String)
    (at_ : Mark) : ParseM α :=
  throw { context, contextMark, problem := some problem, problemMark := some at_ }

/-- An empty plain scalar at a mark. -/
def emptyScalar (m : Mark) : Event :=
  ⟨.scalar none none true false ⟨"", []⟩ .plain, m, m⟩

/-- Reads the directives before an explicit document, setting its tag handles. -/
def directives : ParseM Unit := do
  modify fun p => { p with tagHandles := [] }
  let mut version : Option (Nat × Nat) := none
  for _ in [0:(← get).stream.tokens.size + 1] do
    let t ← peekToken
    match t.kind with
    | .directive name value =>
      discard nextToken
      if name == "YAML" then
        if version.isSome then fail none none "found duplicate YAML directive" t.start
        match value with
        | .version major minor =>
          if major != 1 then
            fail none none "found incompatible YAML document (version 1.* is required)" t.start
          version := some (major, minor)
        | _ => pure ()
      else if name == "TAG" then
        match value with
        | .tagPrefix handle pfx =>
          if ((← get).tagHandles.lookup handle).isSome then
            fail none none s!"duplicate tag handle {displayText handle}" t.start
          modify fun p => { p with tagHandles := p.tagHandles ++ [(handle, pfx)] }
        | _ => pure ()
    | _ => break
  modify fun p => { p with tagHandles :=
    p.tagHandles ++ defaultTagHandles.filter (fun d => (p.tagHandles.lookup d.1).isNone) }

/-- Parses a node: an alias, or properties followed by a scalar, a collection's start, or
nothing (an empty scalar). -/
def node (block indentless : Bool) : ParseM Event := do
  let t ← peekToken
  if let .alias name := t.kind then
    discard nextToken
    popState
    return ⟨.alias name, t.start, t.stop⟩
  let mut anchor : Option String := none
  let mut rawTag : Option (Option String × String) := none
  let mut start : Option Mark := none
  let mut stop : Option Mark := none
  let mut tagMark : Option Mark := none
  match t.kind with
  | .anchor a =>
    discard nextToken
    start := some t.start
    stop := some t.stop
    anchor := some a
    let t2 ← peekToken
    if let .tag h s := t2.kind then
      discard nextToken
      tagMark := some t2.start
      stop := some t2.stop
      rawTag := some (h, s)
  | .tag h s =>
    discard nextToken
    start := some t.start
    tagMark := some t.start
    stop := some t.stop
    rawTag := some (h, s)
    let t2 ← peekToken
    if let .anchor a := t2.kind then
      discard nextToken
      stop := some t2.stop
      anchor := some a
  | _ => pure ()
  let mut tag : Option String := none
  if let some (h, s) := rawTag then
    match h with
    | some handle =>
      match (← get).tagHandles.lookup handle with
      | some pfx => tag := some (pfx ++ s)
      | none =>
        fail (some "while parsing a node") start s!"found undefined tag handle {displayText handle}"
          (tagMark.getD default)
    | none => tag := some s
  let next ← peekToken
  let startMark := start.getD next.start
  let stopMark := stop.getD next.start
  let implicit := tag.isNone || tag == some "!"
  if indentless && next.kind.sort == .blockEntry then
    goTo .indentlessSequenceEntry
    return ⟨.sequenceStart anchor tag implicit false, startMark, next.stop⟩
  match next.kind with
  | .scalar text style =>
    discard nextToken
    let (pi, qi) :=
      if (style == .plain && tag.isNone) || tag == some "!" then (true, false)
      else if tag.isNone then (false, true)
      else (false, false)
    popState
    return ⟨.scalar anchor tag pi qi text style, startMark, next.stop⟩
  | .flowSequenceStart =>
    goTo .flowSequenceFirstEntry
    return ⟨.sequenceStart anchor tag implicit true, startMark, next.stop⟩
  | .flowMappingStart =>
    goTo .flowMappingFirstKey
    return ⟨.mappingStart anchor tag implicit true, startMark, next.stop⟩
  | .blockSequenceStart =>
    if block then
      goTo .blockSequenceFirstEntry
      return ⟨.sequenceStart anchor tag implicit false, startMark, next.start⟩
  | .blockMappingStart =>
    if block then
      goTo .blockMappingFirstKey
      return ⟨.mappingStart anchor tag implicit false, startMark, next.start⟩
  | _ => pure ()
  if anchor.isSome || tag.isSome then
    popState
    return ⟨.scalar anchor tag implicit false ⟨"", []⟩ .plain, startMark, stopMark⟩
  let what := if block then "block" else "flow"
  fail (some s!"while parsing a {what} node") (some startMark)
    s!"expected the node content, but found {displayText next.kind.name}" next.start

/-- Parses an entry of a block sequence or the sequence's end. -/
def blockSequenceEntry : ParseM Event := do
  let t ← peekToken
  if t.kind.sort == .blockEntry then
    discard nextToken
    if !(← isNext [.blockEntry, .blockEnd]) then
      pushState .blockSequenceEntry
      return ← node true false
    else
      goTo .blockSequenceEntry
      return emptyScalar t.stop
  if t.kind.sort != .blockEnd then
    fail (some "while parsing a block collection") (some (← topMark))
      s!"expected <block end>, but found {displayText t.kind.name}" t.start
  discard nextToken
  popState
  popMark
  return ⟨.sequenceEnd, t.start, t.stop⟩

/-- Parses an entry of a sequence without indentation, or its end. -/
def indentlessSequenceEntry : ParseM Event := do
  let t ← peekToken
  if t.kind.sort == .blockEntry then
    discard nextToken
    if !(← isNext [.blockEntry, .key, .value, .blockEnd]) then
      pushState .indentlessSequenceEntry
      return ← node true false
    else
      goTo .indentlessSequenceEntry
      return emptyScalar t.stop
  popState
  return ⟨.sequenceEnd, t.start, t.start⟩

/-- Parses a key of a block mapping or the mapping's end. -/
def blockMappingKey : ParseM Event := do
  let t ← peekToken
  if t.kind.sort == .key then
    discard nextToken
    if !(← isNext [.key, .value, .blockEnd]) then
      pushState .blockMappingValue
      return ← node true true
    else
      goTo .blockMappingValue
      return emptyScalar t.stop
  if t.kind.sort != .blockEnd then
    fail (some "while parsing a block mapping") (some (← topMark))
      s!"expected <block end>, but found {displayText t.kind.name}" t.start
  discard nextToken
  popState
  popMark
  return ⟨.mappingEnd, t.start, t.stop⟩

/-- Parses a value of a block mapping. -/
def blockMappingValue : ParseM Event := do
  let t ← peekToken
  if t.kind.sort == .value then
    discard nextToken
    if !(← isNext [.key, .value, .blockEnd]) then
      pushState .blockMappingKey
      return ← node true true
    else
      goTo .blockMappingKey
      return emptyScalar t.stop
  goTo .blockMappingKey
  return emptyScalar t.start

/-- Parses an entry of a flow sequence or the sequence's end. -/
def flowSequenceEntry (first : Bool) : ParseM Event := do
  if !(← isNext [.flowSequenceEnd]) then
    if !first then
      if (← isNext [.flowEntry]) then discard nextToken
      else
        let t ← peekToken
        fail (some "while parsing a flow sequence") (some (← topMark))
          s!"expected ',' or ']', but got {displayText t.kind.name}" t.start
    let t ← peekToken
    if t.kind.sort == .key then
      goTo .flowSequenceEntryMappingKey
      return ⟨.mappingStart none none true true, t.start, t.stop⟩
    else if t.kind.sort != .flowSequenceEnd then
      pushState .flowSequenceEntry
      return ← node false false
  let t ← nextToken
  popState
  popMark
  return ⟨.sequenceEnd, t.start, t.stop⟩

/-- Parses the key of a one-pair mapping inside a flow sequence. -/
def flowSequenceEntryMappingKey : ParseM Event := do
  let t ← nextToken
  if !(← isNext [.value, .flowEntry, .flowSequenceEnd]) then
    pushState .flowSequenceEntryMappingValue
    node false false
  else
    goTo .flowSequenceEntryMappingValue
    return emptyScalar t.stop

/-- Parses the value of a one-pair mapping inside a flow sequence. -/
def flowSequenceEntryMappingValue : ParseM Event := do
  let t ← peekToken
  if t.kind.sort == .value then
    discard nextToken
    if !(← isNext [.flowEntry, .flowSequenceEnd]) then
      pushState .flowSequenceEntryMappingEnd
      return ← node false false
    else
      goTo .flowSequenceEntryMappingEnd
      return emptyScalar t.stop
  goTo .flowSequenceEntryMappingEnd
  return emptyScalar t.start

/-- Parses a key of a flow mapping or the mapping's end. -/
def flowMappingKey (first : Bool) : ParseM Event := do
  if !(← isNext [.flowMappingEnd]) then
    if !first then
      if (← isNext [.flowEntry]) then discard nextToken
      else
        let t ← peekToken
        fail (some "while parsing a flow mapping") (some (← topMark))
          s!"expected ',' or '\x7d', but got {displayText t.kind.name}" t.start
    let t ← peekToken
    if t.kind.sort == .key then
      discard nextToken
      if !(← isNext [.value, .flowEntry, .flowMappingEnd]) then
        pushState .flowMappingValue
        return ← node false false
      else
        goTo .flowMappingValue
        return emptyScalar t.stop
    else if t.kind.sort != .flowMappingEnd then
      pushState .flowMappingEmptyValue
      return ← node false false
  let t ← nextToken
  popState
  popMark
  return ⟨.mappingEnd, t.start, t.stop⟩

/-- Parses a value of a flow mapping. -/
def flowMappingValue : ParseM Event := do
  let t ← peekToken
  if t.kind.sort == .value then
    discard nextToken
    if !(← isNext [.flowEntry, .flowMappingEnd]) then
      pushState .flowMappingKey
      return ← node false false
    else
      goTo .flowMappingKey
      return emptyScalar t.stop
  goTo .flowMappingKey
  return emptyScalar t.start

/-- Parses the start of an explicit document, or the end of the stream. -/
def documentStart : ParseM Event := do
  for _ in [0:(← get).stream.tokens.size + 1] do
    if (← isNext [.documentEnd]) then discard nextToken else break
  let t ← peekToken
  if t.kind.sort != .streamEnd then
    directives
    let d ← peekToken
    if d.kind.sort != .documentStart then
      fail none none s!"expected '<document start>', but found {displayText d.kind.name}" d.start
    discard nextToken
    pushState .documentEnd
    goTo .documentContent
    return ⟨.documentStart true, t.start, d.stop⟩
  discard nextToken
  goTo .finished
  return ⟨.streamEnd, t.start, t.stop⟩

/-- Produces the next event from the current state. -/
def nextEvent : ParseM Event := do
  match (← get).state with
  | .streamStart =>
    let t ← nextToken
    goTo .implicitDocumentStart
    return ⟨.streamStart, t.start, t.stop⟩
  | .implicitDocumentStart =>
    if !(← isNext [.directive, .documentStart, .streamEnd]) then
      modify fun p => { p with tagHandles := defaultTagHandles }
      let t ← peekToken
      pushState .documentEnd
      goTo .blockNode
      return ⟨.documentStart false, t.start, t.start⟩
    documentStart
  | .documentStart => documentStart
  | .documentEnd =>
    let t ← peekToken
    goTo .documentStart
    if t.kind.sort == .documentEnd then
      discard nextToken
      return ⟨.documentEnd true, t.start, t.stop⟩
    return ⟨.documentEnd false, t.start, t.start⟩
  | .documentContent =>
    if (← isNext [.directive, .documentStart, .documentEnd, .streamEnd]) then
      let t ← peekToken
      popState
      return emptyScalar t.start
    node true false
  | .blockNode => node true false
  | .blockSequenceFirstEntry =>
    let t ← nextToken
    pushMark t.start
    blockSequenceEntry
  | .blockSequenceEntry => blockSequenceEntry
  | .indentlessSequenceEntry => indentlessSequenceEntry
  | .blockMappingFirstKey =>
    let t ← nextToken
    pushMark t.start
    blockMappingKey
  | .blockMappingKey => blockMappingKey
  | .blockMappingValue => blockMappingValue
  | .flowSequenceFirstEntry =>
    let t ← nextToken
    pushMark t.start
    flowSequenceEntry true
  | .flowSequenceEntry => flowSequenceEntry false
  | .flowSequenceEntryMappingKey => flowSequenceEntryMappingKey
  | .flowSequenceEntryMappingValue => flowSequenceEntryMappingValue
  | .flowSequenceEntryMappingEnd =>
    goTo .flowSequenceEntry
    let t ← peekToken
    return ⟨.mappingEnd, t.start, t.start⟩
  | .flowMappingFirstKey =>
    let t ← nextToken
    pushMark t.start
    flowMappingKey true
  | .flowMappingKey => flowMappingKey false
  | .flowMappingValue => flowMappingValue
  | .flowMappingEmptyValue =>
    goTo .flowMappingKey
    return emptyScalar (← peekToken).start
  | .finished => throw { problem := some "no more events" }

end Parse

/-- The events of a document as they are produced one at a time: the events before a
problem, and the problem met when the next one is asked for. -/
structure EventStream where
  /-- The events produced. -/
  events : Array Event
  /-- The problem met when asking for the event after them, if any. -/
  problem : Option Problem

/-- Parses tokens into the events produced before a problem. -/
def parseEvents (ts : TokenStream) : EventStream :=
  go { stream := ts } #[] (4 * ts.tokens.size + 8)
where
  /-- Produces events from `p` on after `acc`, with `fuel` steps left. -/
  go (p : Parser) (acc : Array Event) (fuel : Nat) : EventStream :=
    match fuel with
    | 0 => ⟨acc, none⟩
    | fuel + 1 =>
      if p.state == .finished then ⟨acc, none⟩
      else
        match Parse.nextEvent.run p with
        | .error e => ⟨acc, some e⟩
        | .ok (ev, p') => go p' (acc.push ev) fuel

end Preflight.Yaml
