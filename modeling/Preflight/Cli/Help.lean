import Preflight.Cli.Grammar

/-!
# Usage lines and help texts

The usage line names the program, then each option in brackets with its value's
placeholder (the attribute in capitals), then the positional arguments: a choice of values
shown as `{a,b}`, an optional argument in brackets, and the subcommands followed by `...`.
A usage line longer than the width is broken into lines: when the program name is short the
options follow it and the positional arguments start a new line, every continuation lined
up after the name; otherwise the name stands alone and the rest is indented.

A help text is the usage line, the description, then the sections "positional arguments"
and "options". Each entry is its invocation with its help text in a column that starts two
places after the longest invocation but never further than column 24; an invocation too
long for the column puts its help on the next line. Subcommands are listed under their
choice, indented further. Runs of blank lines collapse to one.
-/

set_option autoImplicit false

namespace Preflight.Cli

/-- The width of help texts: eighty columns less a margin of two. -/
def textWidth : Nat := 78

/-- The furthest column at which help texts of entries start. -/
def maxHelpPosition : Nat := 24

/-- The text that starts a usage line. -/
def usagePrefix : String := "usage: "

/-- A run of spaces. -/
def spaces (n : Nat) : String := String.ofList (List.replicate n ' ')

/-- A text padded with spaces on the right to a width. -/
def padRight (s : String) (width : Nat) : String := s ++ spaces (width - s.length)

/-- A choice of values written `{a,b,c}`. -/
def choiceText (cs : List String) : String := "\x7b" ++ ",".intercalate cs ++ "\x7d"

/-- The placeholder of an option's value: its attribute in capitals. -/
def OptionSpec.placeholder (o : OptionSpec) : String := o.dest.toUpper

/-- Whether an option takes a value. -/
def OptionSpec.takesValue (o : OptionSpec) : Bool :=
  match o.kind with
  | .value _ => true
  | _ => false

/-- The name of an option in messages: its spellings joined by `/`. -/
def OptionSpec.messageName (o : OptionSpec) : String := "/".intercalate o.names

/-- How an option is shown in a usage line. -/
def OptionSpec.usage (o : OptionSpec) : String :=
  let first := o.names.headD ""
  if o.takesValue then s!"[{first} {o.placeholder}]" else s!"[{first}]"

/-- How an option is shown at the head of its entry: each spelling, with the placeholder
when it takes a value. -/
def OptionSpec.invocation (o : OptionSpec) : String :=
  if o.takesValue then ", ".intercalate (o.names.map (fun n => n ++ " " ++ o.placeholder))
  else ", ".intercalate o.names

/-- The placeholder of a positional argument: its choices, or else its attribute. -/
def ArgumentSpec.placeholder (a : ArgumentSpec) : String :=
  match a.choices with
  | some cs => choiceText cs
  | none => a.dest

namespace Grammar

/-- The placeholder of a positional slot. -/
def slotPlaceholder (g : Grammar) : Slot → String
  | .argument a => a.placeholder
  | .commands => choiceText g.commandNames

/-- The parts of a usage line a positional slot gives. -/
def slotUsage (g : Grammar) : Slot → List String
  | .argument a =>
    match a.count with
    | .one => [a.placeholder]
    | .optional => ["[" ++ a.placeholder ++ "]"]
  | .commands => [g.slotPlaceholder .commands, "..."]

/-- Lays parts out in lines of at most the width, each line starting with `indent` spaces;
with a first-line prefix of some length the first line is counted from it and has no
indent. -/
def usageLines (parts : List String) (indent : Nat) (firstPrefix : Option Nat) :
    List String :=
  let start := match firstPrefix with
    | some n => n - 1
    | none => indent - 1
  let (lines, line, _) := parts.foldl (fun (acc : List String × List String × Nat) part =>
    let (lines, line, len) := acc
    if len + 1 + part.length > textWidth && !line.isEmpty then
      (lines ++ [spaces indent ++ " ".intercalate line], [part], indent - 1 + part.length + 1)
    else (lines, line ++ [part], len + part.length + 1)) ([], [], start)
  let lines := if line.isEmpty then lines else lines ++ [spaces indent ++ " ".intercalate line]
  match firstPrefix, lines with
  | some _, first :: rest => String.ofList (first.toList.drop indent) :: rest
  | _, _ => lines

/-- The usage of a grammar after `usage: `, broken into lines when it is too long. -/
def usageBody (g : Grammar) : String :=
  let optParts := g.options.map OptionSpec.usage
  let posParts := g.slots.flatMap g.slotUsage
  let full := " ".intercalate (g.prog :: optParts ++ posParts)
  if usagePrefix.length + full.length ≤ textWidth then full
  else if 4 * (usagePrefix.length + g.prog.length) ≤ 3 * textWidth then
    let indent := usagePrefix.length + g.prog.length + 1
    let lines :=
      if !optParts.isEmpty then
        usageLines (g.prog :: optParts) indent (some usagePrefix.length) ++
          usageLines posParts indent none
      else if !posParts.isEmpty then
        usageLines (g.prog :: posParts) indent (some usagePrefix.length)
      else [g.prog]
    "\n".intercalate lines
  else
    let indent := usagePrefix.length
    let lines := usageLines (optParts ++ posParts) indent none
    let lines :=
      if lines.length > 1 then usageLines optParts indent none ++ usageLines posParts indent none
      else lines
    "\n".intercalate (g.prog :: lines)

/-- The usage line of a grammar, ending in a line break. -/
def usage (g : Grammar) : String := usagePrefix ++ g.usageBody ++ "\n"

end Grammar

/-- The words of a text, split at blanks. -/
def words (s : String) : List String :=
  (s.split (fun c => c == ' ' || c == '\n' || c == '\t' || c == '\r')).toList.filterMap
    (fun w => if w.isEmpty then none else some w.toString)

/-- Fills words into lines of at most a width; a word longer than the width is cut. -/
def fillWords (ws : List String) (width : Nat) : List String :=
  let width := max width 1
  let (lines, line) := ws.foldl (fun (acc : List String × String) w =>
    let (lines, line) := acc
    if line.isEmpty then (lines, w)
    else if line.length + 1 + w.length ≤ width then (lines, line ++ " " ++ w)
    else (lines ++ [line], w)) ([], "")
  let lines := if line.isEmpty then lines else lines ++ [line]
  lines.flatMap (fun l => cut l.toList width l.length)
where
  /-- Cuts a line into pieces of the width, with `fuel` pieces at most. -/
  cut (cs : List Char) (width : Nat) : Nat → List String
    | 0 => []
    | fuel + 1 =>
      if cs.length ≤ width then [String.ofList cs]
      else String.ofList (cs.take width) :: cut (cs.drop width) width fuel

/-- The lines of a help text in a width: as written when `raw`, otherwise refilled. -/
def helpLines (raw : Bool) (text : String) (width : Nat) : List String :=
  if raw then (text.splitOn "\n") else fillWords (words text) width

/-- One entry of a help section: the invocation at an indent and the help text in its
column. -/
def entry (raw : Bool) (helpPosition indent : Nat) (invocation : String)
    (help : Option String) : String :=
  let actionWidth := helpPosition - indent - 2
  let helpWidth := max (textWidth - helpPosition) 11
  match help with
  | none => spaces indent ++ invocation ++ "\n"
  | some h =>
    if h.isEmpty then spaces indent ++ invocation ++ "\n"
    else
      let (head, firstIndent) :=
        if invocation.length ≤ actionWidth then
          (spaces indent ++ padRight invocation actionWidth ++ "  ", 0)
        else (spaces indent ++ invocation ++ "\n", helpPosition)
      if h.trimAscii.isEmpty then
        if head.endsWith "\n" then head else head ++ "\n"
      else
        match helpLines raw h helpWidth with
        | [] => head
        | first :: rest =>
          head ++ spaces firstIndent ++ first ++ "\n" ++
            String.join (rest.map (fun l => spaces helpPosition ++ l ++ "\n"))

/-- Collapses runs of three or more line breaks to two. -/
def collapseBreaks (s : String) : String :=
  let (out, run) := s.toList.foldl (fun (acc : List Char × Nat) c =>
    let (out, run) := acc
    if c == '\n' then (out, run + 1)
    else (out ++ List.replicate (min run 2) '\n' ++ [c], 0)) ([], 0)
  String.ofList (out ++ List.replicate (min run 2) '\n')

/-- Removes line breaks at both ends of a text. -/
def trimBreaks (s : String) : String :=
  String.ofList (((s.toList.dropWhile (· == '\n')).reverse.dropWhile (· == '\n')).reverse)

/-- The finished form of a help text: blank runs collapsed, line breaks at the ends
removed and one line break at the end; nothing stays nothing. -/
def finish (s : String) : String :=
  if s.isEmpty then s else trimBreaks (collapseBreaks s) ++ "\n"

/-- A free text as it appears in a help text: as written when `raw`, otherwise refilled,
followed by a blank line. -/
def textBlock (raw : Bool) (text : String) : String :=
  if raw then text ++ "\n\n"
  else "\n".intercalate (fillWords (words text) (max textWidth 11)) ++ "\n\n"

/-- The text printed for a version option. -/
def versionOutput (raw : Bool) (text : String) : String := finish (textBlock raw text)

namespace Grammar

/-- The invocations shown for a positional slot: its placeholder, then for subcommands
each name with its help, indented two more places. -/
def slotEntries (g : Grammar) : Slot → String × Option String × List (String × String)
  | .argument a => (a.placeholder, a.help, [])
  | .commands => (g.slotPlaceholder .commands, none, g.commands.map (fun (n, h, _) => (n, h)))

/-- The help text of a grammar. -/
def helpText (g : Grammar) : String :=
  let slots : List (String × Option String × List (String × String)) :=
    g.slots.map g.slotEntries
  let slotWidths := slots.flatMap (fun (inv, _, subs) =>
    (inv.length + 2) :: subs.map (fun (n, _) => n.length + 4))
  let widest :=
    (g.options.map (fun (o : OptionSpec) => o.invocation.length + 2) ++ slotWidths).foldl max 0
  let helpPosition := min (widest + 2) maxHelpPosition
  let positional := String.join (slots.map (fun (inv, help, subs) =>
    entry g.rawText helpPosition 2 inv help ++
      String.join (subs.map (fun (n, h) => entry g.rawText helpPosition 4 n (some h)))))
  let optional := String.join
    (g.options.map (fun (o : OptionSpec) => entry g.rawText helpPosition 2 o.invocation o.help))
  let block (heading body : String) : String :=
    if body.isEmpty then "" else "\n" ++ heading ++ ":\n" ++ body ++ "\n"
  let description := match g.description with
    | some d => textBlock g.rawText d
    | none => ""
  finish (usagePrefix ++ g.usageBody ++ "\n\n" ++ description ++
    block "positional arguments" positional ++ block "options" optional)

end Grammar

end Preflight.Cli
