import Preflight.Value.Display
import Preflight.Text.Blank
import Preflight.Text.Order

/-!
# Document schemas

A schema states what a document must look like: the kinds of value allowed, the fields an
object must have, the schemas of its known fields and whether other fields are allowed, a
text's least length and a pattern it must show, the values allowed, and a number's least
value. Checking a document gives every violation in a fixed order: the kind first, then
required fields, then each known field in the schema's order (its violations with the
field's name put in front of their path), then fields that are not allowed.

A truth value is not a number; a float with no fraction is an integer.
-/

set_option autoImplicit false

namespace Preflight

/-- The kinds of values a schema names. -/
inductive ValueKind where
  | object | array | string | integer | number | boolean | null
  deriving DecidableEq, Repr

/-- The name of a kind, as messages show it. -/
def ValueKind.name : ValueKind → String
  | .object => "object"
  | .array => "array"
  | .string => "string"
  | .integer => "integer"
  | .number => "number"
  | .boolean => "boolean"
  | .null => "null"

/-- Whether a value is of a kind. -/
def ValueKind.holds (k : ValueKind) (v : Value) : Bool :=
  match k, v with
  | .object, .dict _ => true
  | .array, .list _ => true
  | .string, .str _ => true
  | .string, .codeStr _ => true
  | .integer, .int _ => true
  | .integer, .float x => x.floor == x && !x.isInf
  | .number, .int _ => true
  | .number, .float _ => true
  | .boolean, .bool _ => true
  | .null, .null => true
  | _, _ => false

/-- A rule on texts: a pattern the text must show, with the pattern's own spelling. -/
structure TextRule where
  /-- The pattern as written. -/
  spelling : String
  /-- Whether a text, given by its code points, shows the pattern somewhere. -/
  found : List Nat → Bool

/-- A schema. -/
inductive Schema where
  | mk
    (kinds : List ValueKind)
    (required : List String)
    (fields : List (String × Schema))
    (closed : Bool)
    (minLength : Option Nat)
    (pattern : Option TextRule)
    (choices : Option (List Value))
    (minimum : Option Int)

/-- A violation: where in the document (the keys on the way) and what is wrong. -/
structure Violation where
  /-- The keys from the document's root to the value. -/
  path : List Value
  /-- What is wrong. -/
  message : String

/-- Whether two values are equal as a schema compares them: truth values equal only truth
values. -/
def sameForSchema (a b : Value) : Bool :=
  match a, b with
  | .bool x, .bool y => x == y
  | .bool _, _ => false
  | _, .bool _ => false
  | .str x, .str y => x == y
  | .codeStr x, .codeStr y => x == y
  | .int x, .int y => x == y
  | .null, .null => true
  | _, _ => false

/-- The display of a list of values. -/
def displayList (vs : List Value) : String :=
  (Value.list vs).display

/-- The texts of the values of a mapping's keys, for messages. -/
def keyText (v : Value) : String :=
  match v with
  | .str s => s
  | other => other.text

/-- The code points of the text of a mapping's key, by which keys are ordered. -/
def keyPoints (v : Value) : List Nat :=
  (v.points?).getD (v.text.toList.map Char.toNat)

/-- A document as a schema reads it: the value at each of its places, and the place under a
text key of a mapping. A value reads as itself. A document whose collections may hold
themselves reads place by place, each place's value unfolded from that place on, so that
a collection is cut only where it is met again inside itself. -/
structure Reading (α : Type) where
  /-- The value at a place. -/
  value : α → Value
  /-- The place under a text key of a mapping, if there is one. -/
  field? : α → String → Option α

/-- Values read as themselves: the place under a key is the entry's value. -/
def Reading.ofValues : Reading Value := ⟨id, Value.field?⟩

namespace Schema

/-- A schema of one kind of value. -/
def ofKind (k : ValueKind) : Schema := .mk [k] [] [] false none none none none

/-- A schema of an object with known fields only. -/
def closedObject (fields : List (String × Schema)) : Schema :=
  .mk [.object] [] fields true none none none none

/-- The violations of a document at a place, with `fuel` levels of nesting left. -/
def check {α : Type} (r : Reading α) : Nat → Schema → α → List Violation
  | 0, _, _ => []
  | fuel + 1, .mk kinds required fields closed minLength pattern choices minimum, a =>
    let v := r.value a
    let kindErr :=
      if kinds.isEmpty || kinds.any (·.holds v) then []
      else [⟨[], s!"{v.display} is not of type " ++ ", ".intercalate (kinds.map (fun k => displayText k.name))⟩]
    let members := match v with
      | .dict es => some es
      | _ => none
    let requiredErr := match members with
      | some es => required.filterMap (fun req =>
          if Entries.contains es (.str req) then none
          else some ⟨[], s!"{displayText req} is a required property"⟩)
      | none => []
    let fieldErr := match members with
      | some _ => fields.flatMap (fun (name, sub) =>
          match r.field? a name with
          | some x => (check r fuel sub x).map (fun e => ⟨.str name :: e.path, e.message⟩)
          | none => [])
      | none => []
    let minErr := match v.points?, minLength with
      | some ps, some n => if ps.length < n then
          [⟨[], v.display ++ (if n == 1 then " should be non-empty" else " is too short")⟩] else []
      | _, _ => []
    let patErr := match v.points?, pattern with
      | some ps, some rule => if rule.found ps then [] else
          [⟨[], s!"{v.display} does not match {displayText rule.spelling}"⟩]
      | _, _ => []
    let choiceErr := match choices with
      | some cs => if cs.any (sameForSchema v) then [] else
          [⟨[], s!"{v.display} is not one of {displayList cs}"⟩]
      | none => []
    let minimumErr := match v, minimum with
      | .int n, some m => if n < m then [⟨[], s!"{v.display} is less than the minimum of {m}"⟩] else []
      | .float x, some m => if x < Float.ofInt m then [⟨[], s!"{v.display} is less than the minimum of {m}"⟩] else []
      | _, _ => []
    let extraErr := match members with
      | some es =>
        if closed then
          let extras := es.filterMap (fun (k, _) =>
            if (match k with | .str s => fields.any (·.1 == s) | _ => false) then none else some k)
          let extras := extras.mergeSort (fun a b => Text.pointsLe (keyPoints a) (keyPoints b))
          if extras.isEmpty then [] else
            let verb := if extras.length == 1 then "was" else "were"
            [⟨[], "Additional properties are not allowed (" ++ ", ".intercalate (extras.map Value.display) ++
              s!" {verb} unexpected)"⟩]
        else []
      | none => []
    kindErr ++ requiredErr ++ fieldErr ++ minErr ++ patErr ++ choiceErr ++ minimumErr ++ extraErr

/-- The violations of a document at a place. -/
def violations {α : Type} (s : Schema) (r : Reading α) (a : α) : List Violation :=
  check r 64 s a

/-- The violations of a value. -/
def violationsOf (s : Schema) (v : Value) : List Violation :=
  s.violations Reading.ofValues v

end Schema

/-- The rule that a text shows a character that is not blank. -/
def showsNonBlank : TextRule :=
  ⟨"\\S", fun ps => ps.any (fun n => Value.isSurrogate n || !Text.isBlank (Char.ofNat n))⟩

end Preflight
