import Preflight.Config.Coerce
import Preflight.Failure

/-!
# Layered configuration

A configuration is built from four layers of settings, in increasing precedence:
defaults, settings read from files, settings from the environment, and settings resolved
last. The merged view holds each key once, with the value of the highest layer that holds
it; keys keep the position of their first appearance over the layers in order, so a key
first set by the defaults stays where the defaults put it.

A builder collects the layers, and building it takes a snapshot: later changes to the
builder do not change configurations built before.
-/

set_option autoImplicit false

namespace Preflight.Config

/-- The layers of a configuration, lowest precedence first. -/
inductive Layer where
  | defaults
  | file
  | environment
  | resolved
  deriving DecidableEq, Repr, Inhabited

/-- All layers, lowest precedence first. -/
def Layer.order : List Layer := [.defaults, .file, .environment, .resolved]

/-- The name of a layer. -/
def Layer.name : Layer → String
  | .defaults => "defaults"
  | .file => "file"
  | .environment => "environment"
  | .resolved => "resolved"

/-- The layer of a name, if there is one. -/
def Layer.ofName? (s : String) : Option Layer :=
  Layer.order.find? (fun l => l.name == s)

/-- Settings in the order they were first set: a key appears once. Keys are compared as
the keys of a mapping are, so `1`, `1.0` and `true` are one key. -/
structure Table where
  /-- The settings, in order. -/
  entries : Entries := []
  deriving Inhabited

namespace Table

/-- The table with no settings. -/
def empty : Table := {}

/-- The value of a key. -/
def find? (t : Table) (k : Value) : Option Value :=
  Entries.get? t.entries k

/-- Whether a key is set. -/
def has (t : Table) (k : Value) : Bool :=
  Entries.contains t.entries k

/-- Sets a key: an existing key keeps its position (and its first spelling) and takes the
new value, a new key goes last. -/
def put (t : Table) (k v : Value) : Table :=
  ⟨Entries.insert t.entries k v⟩

/-- Sets every key of a list of settings, in its order. -/
def putList (t : Table) (u : Entries) : Table :=
  u.foldl (fun acc e => acc.put e.1 e.2) t

/-- Sets every key of `u`, in its order. -/
def putAll (t u : Table) : Table :=
  t.putList u.entries

/-- Removes a key. -/
def remove (t : Table) (k : Value) : Table :=
  ⟨Entries.erase t.entries k⟩

/-- Sets a setting named by a text. -/
def putText (t : Table) (k : String) (v : Value) : Table :=
  t.put (.str k) v

/-- The table of settings named by texts, in order. -/
def ofTexts (u : List (String × Value)) : Table :=
  u.foldl (fun acc e => acc.putText e.1 e.2) empty

/-- The table as a mapping value. -/
def toValue (t : Table) : Value :=
  .dict t.entries

/-- The number of settings. -/
def size (t : Table) : Nat :=
  t.entries.length

end Table

/-- Why a value cannot be taken as a table of settings. -/
inductive TableFault where
  /-- The value is of a kind that cannot be iterated. -/
  | notIterable (kind : String)
  /-- An element of a sequence of pairs is not a sequence. -/
  | notSequence (index : Nat)
  /-- An element of a sequence of pairs does not have two parts. -/
  | wrongLength (index length : Nat)
  /-- A key cannot be a key of a mapping: it is (or holds) a list, set or mapping. -/
  | unhashable (kind : String)

/-- The failure a table fault reports. -/
def TableFault.toFailure : TableFault → Failure
  | .notIterable k => ⟨.wrongKind, s!"'{k}' object is not iterable"⟩
  | .notSequence i => ⟨.wrongKind, s!"cannot convert dictionary update sequence element #{i} to a sequence"⟩
  | .wrongLength i n =>
    ⟨.badValue, s!"dictionary update sequence element #{i} has length {n}; 2 is required"⟩
  | .unhashable k => ⟨.wrongKind, s!"unhashable type: '{k}'"⟩

/-- The key and value of one element of a sequence of pairs, the element at index `i`:
a two-part list or tuple, a two-character text, or a mapping of two keys. -/
def pairOf (i : Nat) (x : Value) : Except TableFault (Value × Value) := do
  let (k, v) ← match x with
    | .list [k, v] => .ok (k, v)
    | .tuple [k, v] => .ok (k, v)
    | .str s =>
      match s.toList with
      | [a, b] => .ok (.str a.toString, .str b.toString)
      | cs => .error (.wrongLength i cs.length)
    | .codeStr ps =>
      match ps with
      | [a, b] => .ok (Value.ofPoints [a], Value.ofPoints [b])
      | _ => .error (.wrongLength i ps.length)
    | .list xs => .error (.wrongLength i xs.length)
    | .tuple xs => .error (.wrongLength i xs.length)
    | .dict es =>
      match es with
      | [(a, _), (b, _)] => .ok (a, b)
      | _ => .error (.wrongLength i es.length)
    | _ => .error (.notSequence i)
  match k.unhashableKind? with
  | some kind => .error (.unhashable kind)
  | none => .ok (k, v)

/-- Sets the pairs of a sequence into a table, from index `i` on, as far as they go: the
table with the pairs before the first bad element set, and that element's fault. -/
def putPairs (i : Nat) (t : Table) : List Value → Table × Option TableFault
  | [] => (t, none)
  | x :: rest =>
    match pairOf i x with
    | .ok (k, v) => putPairs (i + 1) (t.put k v) rest
    | .error f => (t, some f)

/-- Sets the settings of a value into a table, as far as they go: a mapping's entries, or a
sequence's pairs, later pairs overriding earlier ones. A bad pair stops the setting, and
the pairs before it stay set. -/
def Table.update (t : Table) (v : Value) : Table × Option TableFault :=
  match v with
  | .dict es => (t.putList es, none)
  | .list xs => putPairs 0 t xs
  | .tuple xs => putPairs 0 t xs
  | .str s => putPairs 0 t (s.toList.map (fun c => .str c.toString))
  | .codeStr ps => putPairs 0 t (ps.map (fun p => Value.ofPoints [p]))
  | other => (t, some (.notIterable other.kindName))

/-- Takes a value as a table of settings: a mapping, or a sequence of pairs, later pairs
overriding earlier ones. -/
def Table.ofValue (v : Value) : Except TableFault Table :=
  match Table.empty.update v with
  | (t, none) => .ok t
  | (_, some f) => .error f

/-- The four layers of settings. -/
structure Layers where
  /-- The defaults. -/
  defaults : Table := {}
  /-- Settings read from configuration files. -/
  file : Table := {}
  /-- Settings taken from the environment. -/
  environment : Table := {}
  /-- Settings resolved after the others are known. -/
  resolved : Table := {}
  deriving Inhabited

namespace Layers

/-- The settings of one layer. -/
def get (ls : Layers) : Layer → Table
  | .defaults => ls.defaults
  | .file => ls.file
  | .environment => ls.environment
  | .resolved => ls.resolved

/-- Changes the settings of one layer. -/
def modify (ls : Layers) (l : Layer) (f : Table → Table) : Layers :=
  match l with
  | .defaults => { ls with defaults := f ls.defaults }
  | .file => { ls with file := f ls.file }
  | .environment => { ls with environment := f ls.environment }
  | .resolved => { ls with resolved := f ls.resolved }

end Layers

/-- One setting of the merged view: its key, value and the layer it came from. -/
structure Setting where
  /-- The key. -/
  key : Value
  /-- The value. -/
  value : Value
  /-- The layer that supplied the value. -/
  layer : Layer

/-- Adds one layer's settings to a merged view: a key already present takes the new value
and layer in its old position. -/
def overlay (merged : List Setting) (l : Layer) (t : Table) : List Setting :=
  t.entries.foldl (fun acc e =>
    if acc.any (fun s => Value.sameKey s.key e.1) then
      acc.map (fun s => if Value.sameKey s.key e.1 then ⟨s.key, e.2, l⟩ else s)
    else acc ++ [⟨e.1, e.2, l⟩]) merged

end Preflight.Config

namespace Preflight

/-- A configuration: four layers, read through their merged view. -/
structure Config where
  /-- The layers. -/
  layers : Config.Layers := {}
  deriving Inhabited

end Preflight

namespace Preflight.Config

/-- Why a configuration cannot be made or read. -/
inductive ConfigFault where
  /-- Names that are not layers (sorted, each once). -/
  | unknownLayers (names : List String)
  /-- A name that is not a layer, given to a builder. -/
  | unknownLayer (name : String)
  /-- A layer whose settings are not a table. -/
  | badTable (fault : TableFault)
  /-- A key that is not set. -/
  | missingKey (key : Value)
  /-- A key that cannot be a key of a mapping, of the kind named. -/
  | unhashable (kind : String)
  /-- A value that cannot be read as asked. -/
  | coerce (fault : CoerceFault)

/-- The failure a configuration fault reports. -/
def ConfigFault.toFailure : ConfigFault → Failure
  | .unknownLayers ns => ⟨.badValue, "unknown configuration layers: " ++ ", ".intercalate ns⟩
  | .unknownLayer n => ⟨.badValue, "unknown configuration layer: " ++ n⟩
  | .badTable f => f.toFailure
  | .missingKey k => ⟨.missingKey, k.display⟩
  | .unhashable k => ⟨.wrongKind, s!"unhashable type: '{k}'"⟩
  | .coerce f => ⟨.badValue, f.message⟩

/-- Inserts a text into a sorted list of texts without repeating it. -/
def insertSorted (s : String) : List String → List String
  | [] => [s]
  | x :: xs => if s == x then x :: xs else if s < x then s :: x :: xs else x :: insertSorted s xs

/-- Makes a configuration from named layers; every name must be a layer. -/
def ofNamed (named : List (String × Value)) : Except ConfigFault Config := do
  let unknown := named.foldl (fun acc e =>
    if (Layer.ofName? e.1).isSome then acc else insertSorted e.1 acc) []
  if !unknown.isEmpty then throw (.unknownLayers unknown)
  let mut ls : Layers := {}
  for l in Layer.order do
    match named.find? (fun e => e.1 == l.name) with
    | none => pure ()
    | some (_, v) =>
      match Table.ofValue v with
      | .ok t => ls := ls.modify l (fun _ => t)
      | .error f => throw (.badTable f)
  return ⟨ls⟩

/-- The merged view. -/
def items (c : Config) : List Setting :=
  Layer.order.foldl (fun acc l => overlay acc l (c.layers.get l)) []

/-- Refuses a key that cannot be looked up: a list, set or mapping, or a tuple holding one. -/
def checkKey (k : Value) : Except ConfigFault Unit :=
  match k.unhashableKind? with
  | some kind => .error (.unhashable kind)
  | none => .ok ()

/-- The setting of a key in the merged view. -/
def setting? (c : Config) (k : Value) : Option Setting :=
  c.items.find? (fun s => Value.sameKey s.key k)

/-- The value of a key, if it is set. -/
def find? (c : Config) (k : Value) : Option Value :=
  (c.setting? k).map (·.value)

/-- The value of a key; a missing key is a fault. -/
def get (c : Config) (k : Value) : Except ConfigFault Value := do
  checkKey k
  match c.find? k with
  | some v => .ok v
  | none => .error (.missingKey k)

/-- Whether a key is set. -/
def contains (c : Config) (k : Value) : Except ConfigFault Bool := do
  checkKey k
  return (c.setting? k).isSome

/-- The number of keys. -/
def size (c : Config) : Nat :=
  c.items.length

/-- The layer that supplied a key. -/
def source? (c : Config) (k : Value) : Except ConfigFault (Option Layer) := do
  checkKey k
  return (c.setting? k).map (·.layer)

/-- The value of a key as a present value: a missing or null value is absent. -/
def present? (c : Config) (k : Value) : Option Value :=
  match c.find? k with
  | some .null => none
  | v => v

/-- The value of a key read by `read`, or `dflt` when the key is missing or null. -/
def getOr {α : Type} (c : Config) (k : Value) (dflt : α) (read : Value → Except ConfigFault α) :
    Except ConfigFault α := do
  checkKey k
  match c.present? k with
  | some v => read v
  | none => .ok dflt

/-- The text of a setting's value, or the default when it is missing or null. -/
def getText (c : Config) (k : String) (dflt : String := "") : String :=
  match c.present? (.str k) with
  | some v => v.text
  | none => dflt

/-- A setting's value read as a truth value, or the default when it is missing or null. -/
def getBool (c : Config) (k : String) (dflt : Bool := false) : Except ConfigFault Bool :=
  c.getOr (.str k) dflt (fun v => (coerceBool v).mapError .coerce)

/-- A setting's value read as an integer, or the default when it is missing or null. -/
def getInt (c : Config) (k : String) (dflt : Int := 0) : Except ConfigFault Int :=
  c.getOr (.str k) dflt (fun v => (coerceInt v).mapError .coerce)

/-- The merged view as a mapping value. -/
def toValue (c : Config) : Value :=
  .dict (c.items.map (fun s => (s.key, s.value)))

/-- The display of a configuration: its merged mapping. -/
def display (c : Config) : String :=
  "Config(" ++ c.toValue.display ++ ")"

/-- The settings of a named layer. -/
def layerNamed (c : Config) (name : Value) : Except ConfigFault Table := do
  checkKey name
  match name with
  | .str s =>
    match Layer.ofName? s with
    | some l => .ok (c.layers.get l)
    | none => .error (.missingKey name)
  | _ => .error (.missingKey name)

/-- Collects layers of settings and builds configurations from them. -/
structure Builder where
  /-- The layers collected so far. -/
  layers : Layers := {}
  deriving Inhabited

namespace Builder

/-- Sets the settings of `values` in a named layer. -/
def update (b : Builder) (layer : String) (values : Table) : Except ConfigFault Builder :=
  match Layer.ofName? layer with
  | some l => .ok ⟨b.layers.modify l (fun t => t.putAll values)⟩
  | none => .error (.unknownLayer layer)

/-- Sets the settings of `values` in a layer. -/
def put (b : Builder) (l : Layer) (values : Table) : Builder :=
  ⟨b.layers.modify l (fun t => t.putAll values)⟩

/-- Sets one key in a layer. -/
def set (b : Builder) (l : Layer) (k : String) (v : Value) : Builder :=
  b.put l ⟨[(.str k, v)]⟩

/-- Sets the settings of a value into a layer, as far as they go (see `Table.update`). -/
def updateWith (b : Builder) (l : Layer) (v : Value) : Builder × Option ConfigFault :=
  let (t, fault) := (b.layers.get l).update v
  (⟨b.layers.modify l (fun _ => t)⟩, fault.map .badTable)

/-- Sets one key in a layer, for a key that can be a key of a mapping. -/
def setKey (b : Builder) (l : Layer) (k v : Value) : Except ConfigFault Builder := do
  checkKey k
  return b.put l ⟨[(k, v)]⟩

/-- The value a key would have if the configuration were built now: that of the highest
layer holding it, even a null value. -/
def peek? (b : Builder) (k : Value) : Option Value :=
  Layer.order.reverse.findSome? (fun l => (b.layers.get l).find? k)

/-- The value a key would have if the configuration were built now, for a key that can be
looked up. -/
def lookup (b : Builder) (k : Value) : Except ConfigFault (Option Value) := do
  checkKey k
  return b.peek? k

/-- Builds a configuration from the layers collected so far. -/
def build (b : Builder) : Config :=
  ⟨b.layers⟩

end Builder

end Preflight.Config
