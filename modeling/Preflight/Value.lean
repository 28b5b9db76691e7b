import Preflight.Decimal.Format
import Preflight.Time.Civil

/-!
# Values

A value is what configuration files, interchange documents and configuration layers hold:
nothing, truth values, integers of any size, doubles, texts, byte strings, dates and moments,
lists, tuples, sets and mappings. A mapping keeps its entries in insertion order. A text may
hold lone surrogates, and a collection may hold itself: a value then ends where the
collection is met again.

Keys are compared by value across the numeric kinds: `1`, `1.0` and `true` are the same key,
and every not-a-number is the same key as every other. Writing an entry under a key that is
already present replaces the value and keeps the key first written.
-/

set_option autoImplicit false

namespace Preflight

open Preflight.Time

/-- A dynamic value. -/
inductive Value where
  | null
  | bool (b : Bool)
  | int (n : Int)
  | float (x : Float)
  | str (s : String)
  /-- A text holding lone surrogates (code points from U+D800 to U+DFFF), which a `String`
  cannot hold, given by its code points. A text without them is always a `str`. -/
  | codeStr (points : List Nat)
  | bytes (b : List UInt8)
  | date (d : Date)
  | moment (t : Moment)
  | list (items : List Value)
  | tuple (items : List Value)
  | set (items : List Value)
  | dict (entries : List (Value × Value))
  /-- A collection met again inside itself, standing for the whole of it: a mapping when
  `mapping` is set, else a sequence. A value read from a document whose collections hold
  themselves ends there. -/
  | cycle (mapping : Bool)
  deriving Inhabited

namespace Value

/-- Whether a value counts as true in a condition: empty texts and collections, zero and
nothing count as false. -/
def truthy : Value → Bool
  | .null => false
  | .bool b => b
  | .int n => n != 0
  | .float x => x != 0
  | .str s => !s.isEmpty
  | .codeStr ps => !ps.isEmpty
  | .bytes b => !b.isEmpty
  | .date _ => true
  | .moment _ => true
  | .list xs => !xs.isEmpty
  | .tuple xs => !xs.isEmpty
  | .set xs => !xs.isEmpty
  | .dict es => !es.isEmpty
  | .cycle _ => true

/-- Whether a code point is a surrogate. -/
def isSurrogate (n : Nat) : Bool := 0xD800 ≤ n && n ≤ 0xDFFF

/-- The text of some code points: a `str` unless one of them is a surrogate. -/
def ofPoints (ps : List Nat) : Value :=
  if ps.any isSurrogate then .codeStr ps else .str (String.ofList (ps.map Char.ofNat))

/-- The code points of a text. -/
def points? : Value → Option (List Nat)
  | .str s => some (s.toList.map Char.toNat)
  | .codeStr ps => some ps
  | _ => none

/-- The exact value of a finite double as a fraction: numerator and a power-of-two
denominator. -/
def floatRatio (x : Float) : Int × Nat :=
  let b := Decimal.Binary.ofBits x.abs.toBits
  let mag : Int := if 0 ≤ b.exp then (b.mant * Nat.pow 2 b.exp.toNat : Nat) else b.mant
  let den : Nat := if 0 ≤ b.exp then 1 else Nat.pow 2 (-b.exp).toNat
  ((if Decimal.signBit x then -mag else mag), den)

/-- Whether an integer and a double are the same number. -/
def intEqFloat (n : Int) (x : Float) : Bool :=
  if Decimal.isNaN x || Decimal.isInfinite x then false
  else if x == 0 then n == 0
  else
    let (num, den) := floatRatio x
    num == n * den

/-- The number a value stands for as a key, when it is a truth value or a number. -/
inductive Numeric where
  | exact (n : Int)
  | approx (x : Float)

/-- The numeric reading of a value, when it has one. -/
def numeric? : Value → Option Numeric
  | .bool b => some (.exact (if b then 1 else 0))
  | .int n => some (.exact n)
  | .float x => some (.approx x)
  | _ => none

/-- Whether two numbers are the same key. Every not-a-number is the same key. -/
def Numeric.sameKey : Numeric → Numeric → Bool
  | .exact a, .exact b => a == b
  | .exact a, .approx y => intEqFloat a y
  | .approx x, .exact b => intEqFloat b x
  | .approx x, .approx y => x == y || (Decimal.isNaN x && Decimal.isNaN y)

mutual
/-- Whether two values are the same key of a mapping. -/
def sameKey : Value → Value → Bool
  | .str a, .str b => a == b
  | .codeStr a, .codeStr b => a == b
  | .bytes a, .bytes b => a == b
  | .null, .null => true
  | .date a, .date b => a == b
  | .moment a, .moment b => a.instant == b.instant && (a.offset.isSome == b.offset.isSome)
  | .tuple a, .tuple b => sameKeys a b
  | a, b =>
    match a.numeric?, b.numeric? with
    | some x, some y => x.sameKey y
    | _, _ => false
/-- Whether two lists of values are pairwise the same keys. -/
def sameKeys : List Value → List Value → Bool
  | [], [] => true
  | a :: as, b :: bs => sameKey a b && sameKeys as bs
  | _, _ => false
end

mutual
/-- Whether a value can be a key of a mapping: lists, sets and mappings cannot. -/
def hashable : Value → Bool
  | .list _ => false
  | .set _ => false
  | .dict _ => false
  | .cycle _ => false
  | .tuple xs => allHashable xs
  | _ => true
/-- Whether every value of a list can be a key. -/
def allHashable : List Value → Bool
  | [] => true
  | x :: xs => hashable x && allHashable xs
end

mutual
/-- The kind of the first part of a value that cannot be a key, if there is one. -/
def unhashableKind? : Value → Option String
  | .list _ => some "list"
  | .set _ => some "set"
  | .dict _ => some "dict"
  | .cycle m => some (if m then "dict" else "list")
  | .tuple xs => firstUnhashableKind? xs
  | _ => none
/-- The kind of the first part of a list of values that cannot be a key. -/
def firstUnhashableKind? : List Value → Option String
  | [] => none
  | x :: xs => (unhashableKind? x).orElse (fun _ => firstUnhashableKind? xs)
end

end Value

/-- Entries of a mapping in insertion order. -/
abbrev Entries := List (Value × Value)

namespace Entries

/-- The value stored under a key. -/
def get? (es : Entries) (k : Value) : Option Value :=
  (es.find? (fun e => Value.sameKey e.1 k)).map (·.2)

/-- Whether a key is present. -/
def contains (es : Entries) (k : Value) : Bool :=
  es.any (fun e => Value.sameKey e.1 k)

/-- Stores a value under a key: an existing entry keeps its place and its key. -/
def insert (es : Entries) (k v : Value) : Entries :=
  if es.contains k then es.map (fun e => if Value.sameKey e.1 k then (e.1, v) else e)
  else es ++ [(k, v)]

/-- Removes the entry of a key. -/
def erase (es : Entries) (k : Value) : Entries :=
  es.filter (fun e => !Value.sameKey e.1 k)

end Entries

/-- The name of the kind of a value, as messages name it. -/
def Value.kindName : Value → String
  | .null => "NoneType"
  | .bool _ => "bool"
  | .int _ => "int"
  | .float _ => "float"
  | .str _ => "str"
  | .codeStr _ => "str"
  | .bytes _ => "bytes"
  | .date _ => "datetime.date"
  | .moment _ => "datetime.datetime"
  | .list _ => "list"
  | .tuple _ => "tuple"
  | .set _ => "set"
  | .dict _ => "dict"
  | .cycle m => if m then "dict" else "list"

/-- The value stored under a text key of a mapping value. -/
def Value.field? (v : Value) (key : String) : Option Value :=
  match v with
  | .dict es => Entries.get? es (.str key)
  | _ => none

end Preflight
