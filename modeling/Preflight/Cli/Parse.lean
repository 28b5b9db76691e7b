import Preflight.Cli.Help
import Preflight.Decimal.Read
import Preflight.Value.Display

/-!
# Parsing a command line

Each word of a command line is first classed: a word after the first `--` is a positional
word and `--` itself a marker; a word starting with a dash is an option when it is a
spelling of one, a spelling followed by `=` and a value, a long spelling's unique prefix,
or a short spelling with its value attached; a dash alone, a negative number and a word
with a space are positional; any other dashed word is an unknown option, kept aside for a
subcommand's grammar or as unrecognized. A prefix that fits several spellings is an error.

Then options and positional words are taken from left to right. Each option takes its value
from its `=` part or from the next word. Positional words are given to as many positional
slots as can be filled at once, each slot taking as many words as it can while the later
slots still fit: the first `--` among them is dropped, and a choice of subcommand takes
every word left, options included, and parses them with the subcommand's grammar.

Parsing stops early for help, for a version, and for errors: an error prints the usage line
and `prog: error: message` to the error stream and stops with status 2. Words no grammar
took are an error of the outermost grammar.
-/

set_option autoImplicit false

namespace Preflight.Cli

/-- How parsing stopped early: the status and what was printed to each stream. -/
structure Stop where
  /-- The exit status. -/
  status : Nat
  /-- What was printed to the output stream. -/
  out : String := ""
  /-- What was printed to the error stream. -/
  err : String := ""
  deriving DecidableEq

/-- The stop for an error of a grammar: its usage line and the message. -/
def Grammar.failure (g : Grammar) (message : String) : Stop :=
  { status := 2, err := g.usage ++ s!"{g.prog}: error: {message}\n" }

/-- An option word: the option it names (none when unknown), the spelling matched and the
value attached to it. -/
structure Hit where
  /-- The option named, if it is one of the grammar's. -/
  option : Option OptionSpec
  /-- The spelling matched, or the word itself when unknown. -/
  spelled : String
  /-- The value attached after `=` or to a short spelling. -/
  attached : Option String

/-- How a word of the command line is classed. -/
inductive Mark where
  /-- A positional word. -/
  | positional
  /-- The first `--`. -/
  | dashes
  /-- An option word. -/
  | option (h : Hit)

/-- The letter of a mark in the pattern positional slots are matched against. -/
def Mark.letter : Mark → Char
  | .positional => 'A'
  | .dashes => '-'
  | .option _ => 'O'

/-- Why parsing a grammar's words stopped: a printed stop, or an error message naming the
argument it is about. -/
inductive Halt where
  /-- A stop with printed text. -/
  | stop (s : Stop)
  /-- An error about an argument. -/
  | complaint (argument : Option String) (message : String)

/-- The text of an error about an argument. -/
def complaintText (argument : Option String) (message : String) : String :=
  match argument with
  | some a => s!"argument {a}: {message}"
  | none => message

/-- Whether a word looks like a negative number: a dash and digits, with at most one point
that has digits after it; a line break may end it. -/
def negativeNumber (s : String) : Bool :=
  let cs := s.toList
  let cs := if cs.getLast? == some '\n' then cs.dropLast else cs
  match cs with
  | '-' :: rest =>
    let digit (c : Char) : Bool := (Text.digitValue? c).isSome
    match rest.span digit with
    | (ds, []) => !ds.isEmpty
    | (_, '.' :: frac) => !frac.isEmpty && frac.all digit
    | _ => false
  | _ => false

/-- Splits a text at its first `=`. -/
def splitAtEquals (s : String) : Option (String × String) :=
  match s.toList.span (· != '=') with
  | (name, '=' :: rest) => some (String.ofList name, String.ofList rest)
  | _ => none

namespace Grammar

/-- The options a dashed word may mean by prefix: for a word starting with two dashes,
the spellings it (before any `=`) is a prefix of; for one dash, the spelling of its first
two characters with the rest attached, and the spellings it is a prefix of. -/
def prefixHits (g : Grammar) (s : String) : List Hit :=
  let cs := s.toList
  if cs.take 2 == ['-', '-'] then
    let (pre, attached) := match splitAtEquals s with
      | some (n, v) => (n, some v)
      | none => (s, none)
    g.spellings.filterMap (fun (n, o) =>
      if n.startsWith pre then some ⟨some o, n, attached⟩ else none)
  else
    let short := String.ofList (cs.take 2)
    let rest := String.ofList (cs.drop 2)
    g.spellings.filterMap (fun (n, o) =>
      if n == short then some ⟨some o, n, some rest⟩
      else if n.startsWith s then some ⟨some o, n, none⟩
      else none)

/-- Classes one word that is not after `--`; an error message when a prefix is ambiguous. -/
def classify (g : Grammar) (s : String) : Except String Mark := do
  if s.isEmpty || !s.startsWith "-" then return .positional
  if let some o := g.findOption? s then return .option ⟨some o, s, none⟩
  if s.length == 1 then return .positional
  if let some (n, v) := splitAtEquals s then
    if let some o := g.findOption? n then return .option ⟨some o, n, some v⟩
  match g.prefixHits s with
  | [h] => return .option h
  | [] =>
    if negativeNumber s && !(g.spellings.any (fun (n, _) => negativeNumber n)) then
      return .positional
    if s.contains ' ' then return .positional
    return .option ⟨none, s, none⟩
  | hits =>
    let fits := ", ".intercalate (hits.map (·.spelled))
    throw s!"ambiguous option: {s} could match {fits}"

/-- Classes the words of a command line. -/
def marks (g : Grammar) (ws : List String) : Except String (List Mark) :=
  go ws
where
  /-- Classes the words `ws`, all positional after a `--`. -/
  go : List String → Except String (List Mark)
    | [] => .ok []
    | w :: rest =>
      if w == "--" then .ok (.dashes :: rest.map (fun _ => .positional))
      else do
        let m ← g.classify w
        let ms ← go rest
        return m :: ms

end Grammar

/-- The number of leading `-` letters of a pattern. -/
def leadingDashes (pat : List Char) : Nat := (pat.takeWhile (· == '-')).length

/-- The word counts a positional slot may take from the start of a pattern, most first:
one word with `--` markers around it, an optional word, or for subcommands a word and
everything after it. -/
def candidates (s : Slot) (pat : List Char) : List Nat :=
  let k := leadingDashes pat
  let down (lo n : Nat) : List Nat := (List.range (n + 1)).reverse.map (lo + ·)
  match s with
  | .argument a =>
    match a.count with
    | .one => if pat[k]? == some 'A' then down (k + 1) (leadingDashes (pat.drop (k + 1))) else []
    | .optional =>
      (List.range (k + 1)).reverse.flatMap (fun j =>
        let withWord :=
          if pat[j]? == some 'A' then down (j + 1) (leadingDashes (pat.drop (j + 1))) else []
        withWord ++ down j (leadingDashes (pat.drop j)))
  | .commands => if pat[k]? == some 'A' then down (k + 1) (pat.length - (k + 1)) else []

/-- The first way to give every slot its words from the start of a pattern, trying the
counts of each slot in order. -/
def matchSlots : List Slot → List Char → Option (List Nat)
  | [], _ => some []
  | s :: rest, pat =>
    (candidates s pat).findSome? (fun n => (matchSlots rest (pat.drop n)).map (n :: ·))

/-- The counts for the longest run of leading slots that can all be given words. -/
def matchLeading (slots : List Slot) (pat : List Char) : List Nat :=
  ((List.range slots.length).reverse.findSome? (fun i => matchSlots (slots.take (i + 1)) pat)).getD []

/-- The progress of parsing a grammar's words. -/
structure Progress where
  /-- The namespace so far. -/
  ns : Namespace
  /-- The positional slots not yet given words. -/
  pending : List Slot
  /-- The attributes of positional slots given words. -/
  seen : List String := []
  /-- Words no one took. -/
  extras : List String := []
  /-- Words a subcommand's grammar did not take. -/
  passedOn : List String := []

/-- Reads the text of a value. -/
def readValue (r : Reader) (argument : String) (s : String) : Except Halt Value :=
  match r with
  | .text => .ok (.str s)
  | .real =>
    match Decimal.parseFloatText s with
    | some x => .ok (.float x)
    | none => .error (.complaint (some argument) s!"invalid float value: {displayText s}")

/-- Checks that a value is among the choices, if they are limited. -/
def checkChoice (argument : String) (choices : Option (List String)) (s : String) :
    Except Halt Unit :=
  match choices with
  | some cs =>
    if cs.contains s then .ok ()
    else
      let listed := ", ".intercalate (cs.map displayText)
      .error (.complaint (some argument) s!"invalid choice: {displayText s} (choose from {listed})")
  | none => .ok ()

/-- The words without the first `--`. -/
def dropMarker (ws : List String) : List String := ws.erase "--"

/-- Gives an option its words. -/
def takeOption (g : Grammar) (p : Progress) (o : OptionSpec) (ws : List String) :
    Except Halt Progress :=
  match o.kind with
  | .help => .error (.stop { status := 0, out := g.helpText })
  | .version t => .error (.stop { status := 0, out := versionOutput g.rawText t })
  | .flag => .ok { p with ns := p.ns.assign o.dest (.bool true) }
  | .value r =>
    match dropMarker ws with
    | [w] => do
      let v ← readValue r o.messageName w
      return { p with ns := p.ns.assign o.dest v }
    | vs => do
      let v ← vs.mapM (readValue r o.messageName)
      return { p with ns := p.ns.assign o.dest (.list v) }

/-- Gives a positional argument its words. -/
def takeArgument (p : Progress) (a : ArgumentSpec) (ws : List String) : Except Halt Progress := do
  let p := { p with seen := p.seen ++ [a.dest] }
  match dropMarker ws, a.count with
  | [], .optional =>
    if let .str d := a.default then checkChoice a.dest a.choices d
    return { p with ns := p.ns.assign a.dest a.default }
  | [w], _ =>
    checkChoice a.dest a.choices w
    return { p with ns := p.ns.assign a.dest (.str w) }
  | vs, _ =>
    for w in vs do checkChoice a.dest a.choices w
    return { p with ns := p.ns.assign a.dest (.list (vs.map .str)) }

/-- Gives the choice of subcommand its words: the first names the subcommand, whose
grammar parses the rest with `sub`; its attributes go into the namespace and the words it
did not take are passed on. -/
def takeCommand (sub : Grammar → List String → Except Stop (Namespace × List String))
    (g : Grammar) (p : Progress) (ws : List String) : Except Halt Progress := do
  let p := { p with seen := p.seen ++ [g.commandDest] }
  let name := ws.headD ""
  checkChoice g.commandDest (some g.commandNames) name
  let ns := p.ns.assign g.commandDest (.str name)
  match g.command? name with
  | none => return { p with ns }
  | some child =>
    match sub child (ws.drop 1) with
    | .error s => throw (.stop s)
    | .ok (childNs, rest) =>
      let ns := childNs.foldl (fun acc (k, v) => acc.assign k v) ns
      return { p with ns, passedOn := p.passedOn ++ rest }

/-- The state of a parse of one grammar's words, with what it needs to go on. -/
structure Parse where
  /-- The grammar. -/
  grammar : Grammar
  /-- The words. -/
  words : Array String
  /-- Their marks. -/
  marks : Array Mark
  /-- Parses a subcommand's words. -/
  sub : Grammar → List String → Except Stop (Namespace × List String)

namespace Parse

/-- The pattern of the marks from a position. -/
def pattern (q : Parse) (start : Nat) : List Char :=
  (q.marks.toList.drop start).map Mark.letter

/-- The words between two positions. -/
def slice (q : Parse) (start stop : Nat) : List String :=
  (q.words.toList.drop start).take (stop - start)

/-- Gives words to as many pending positional slots as can be filled at once from a
position; returns the position after the words taken. -/
def positionals (q : Parse) (p : Progress) (start : Nat) : Except Halt (Progress × Nat) := do
  let counts := matchLeading p.pending (q.pattern start)
  let mut p := p
  let mut pos := start
  for (s, n) in p.pending.zip counts do
    let ws := q.slice pos (pos + n)
    pos := pos + n
    p ← match s with
      | .argument a => takeArgument p a ws
      | .commands => takeCommand q.sub q.grammar p ws
  return ({ p with pending := p.pending.drop counts.length }, pos)

/-- Takes the option word at a position with its value; a short spelling with letters
attached stands for several options when the first takes no value. Returns the position
after the words taken. -/
def option (q : Parse) (p : Progress) (start : Nat) (h : Hit) : Except Halt (Progress × Nat) :=
  match h.option with
  | none => .ok ({ p with extras := p.extras ++ q.slice start (start + 1) }, start + 1)
  | some o => do
    let (taken, stop) ← match h.attached with
      | some v => attachedTo o h.spelled [] v.toList
      | none => bare o []
    let p ← taken.foldlM (fun p (o, ws) => takeOption q.grammar p o ws) p
    return (p, stop)
where
  /-- An option with no value attached: its value is the next word when it takes one. -/
  bare (o : OptionSpec) (acc : List (OptionSpec × List String)) :
      Except Halt (List (OptionSpec × List String) × Nat) :=
    if o.takesValue then
      match q.marks[start + 1]? with
      | some .positional => .ok (acc ++ [(o, q.slice (start + 1) (start + 2))], start + 2)
      | _ => .error (.complaint (some o.messageName) "expected one argument")
    else .ok (acc ++ [(o, [])], start + 1)
  /-- An option with letters attached: its value when it takes one; after a short spelling
  of an option without a value, the next letter is the next short option. -/
  attachedTo (o : OptionSpec) (spelled : String) (acc : List (OptionSpec × List String)) :
      List Char → Except Halt (List (OptionSpec × List String) × Nat)
    | [] =>
      if o.takesValue then .ok (acc ++ [(o, [""])], start + 1)
      else .error (.complaint (some o.messageName) "ignored explicit argument ''")
    | c :: cs =>
      let ignored : Halt := .complaint (some o.messageName)
        s!"ignored explicit argument {displayText (String.ofList (c :: cs))}"
      if o.takesValue then .ok (acc ++ [(o, [String.ofList (c :: cs)])], start + 1)
      else if spelled.toList[1]? == some '-' then .error ignored
      else
        let acc := acc ++ [(o, [])]
        let next := String.ofList ['-', c]
        match q.grammar.findOption? next with
        | some o' => if cs.isEmpty then bare o' acc else attachedTo o' next acc cs
        | none => .error ignored

/-- The first option word at or after a position. -/
def nextOption (q : Parse) (start : Nat) : Option (Nat × Hit) :=
  ((q.marks.toList.zipIdx).drop start).findSome? (fun (m, i) =>
    match m with
    | .option h => some (i, h)
    | _ => none)

/-- Takes the words from a position on, with `fuel` steps left: positional words before
each option, then the option; at the end the positional words left, and what is left over
is extra. -/
def run (q : Parse) (p : Progress) (start : Nat) : Nat → Except Halt Progress
  | 0 => finish p start
  | fuel + 1 =>
    match q.nextOption start with
    | none => finish p start
    | some (next, h) => do
      if start != next then
        let (p', stop) ← q.positionals p start
        if stop > start then return ← q.run p' stop fuel
        let p' := { p' with extras := p'.extras ++ q.slice stop next }
        let (p'', after) ← q.option p' next h
        q.run p'' after fuel
      else
        let (p', after) ← q.option p next h
        q.run p' after fuel
where
  /-- Gives the last positional words their slots; the words left are extra. -/
  finish (p : Progress) (start : Nat) : Except Halt Progress := do
    let (p, stop) ← q.positionals p start
    return { p with extras := p.extras ++ q.slice stop q.words.size }

end Parse

namespace Grammar

/-- The names of the required positional slots that were given no words. -/
def missing (g : Grammar) (p : Progress) : List String :=
  g.slots.filterMap (fun s =>
    match s with
    | .argument a => if a.count == .one && !p.seen.contains a.dest then some a.dest else none
    | .commands => if p.seen.contains g.commandDest then none else some g.commandDest)

/-- The height of a grammar: one more than the highest of its subcommands. -/
def height (g : Grammar) : Nat :=
  1 + (g.commands.attach.map (fun ⟨(_, _, c), _⟩ => height c)).foldl max 0
decreasing_by
  rename_i h
  have := List.sizeOf_lt_of_mem h
  cases g
  simp_all
  omega

/-- Parses words by a grammar, with `depth` levels of subcommands left; the namespace and
the words not taken, or how it stopped. -/
def parseKnown : Nat → Grammar → List String → Except Stop (Namespace × List String)
  | 0, g, _ => .error (g.failure "too many levels of subcommands")
  | depth + 1, g, ws =>
    match g.marks ws with
    | .error msg => .error (g.failure msg)
    | .ok ms =>
      let q : Parse := ⟨g, ws.toArray, ms.toArray, parseKnown depth⟩
      match q.run { ns := g.initial, pending := g.slots } 0 (ws.length + 1) with
      | .error (.stop s) => .error s
      | .error (.complaint a m) => .error (g.failure (complaintText a m))
      | .ok p =>
        match g.missing p with
        | [] => .ok (p.ns, p.extras ++ p.passedOn)
        | names =>
          let listed := ", ".intercalate names
          .error (g.failure s!"the following arguments are required: {listed}")

/-- Parses a command line: the namespace, or how parsing stopped. Words no grammar took
are an error. -/
def parse (g : Grammar) (ws : List String) : Except Stop Namespace :=
  match g.parseKnown g.height ws with
  | .error s => .error s
  | .ok (ns, []) => .ok ns
  | .ok (_, rest) =>
    let listed := " ".intercalate rest
    .error (g.failure s!"unrecognized arguments: {listed}")

end Grammar

end Preflight.Cli
