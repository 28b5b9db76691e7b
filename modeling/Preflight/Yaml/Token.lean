import Preflight.Yaml.Mark
import Preflight.Text.Lone

/-!
# YAML tokens

The tokens of a YAML character stream: the markers of the stream and its documents,
directives, the indicators of block and flow collections, keys, values and entries, and
the nodes' properties (aliases, anchors, tags) and scalars. Each token spans the text
between two marks.
-/

set_option autoImplicit false

namespace Preflight.Yaml

/-- The value of a directive. -/
inductive DirectiveValue where
  /-- A `%YAML` directive: the version's major and minor numbers. -/
  | version (major minor : Nat)
  /-- A `%TAG` directive: a handle and the prefix it stands for. -/
  | tagPrefix (handle pfx : String)
  /-- Another directive, whose value is not read. -/
  | other
  deriving Inhabited

/-- The scalar styles. -/
inductive ScalarStyle where
  | plain
  | singleQuoted
  | doubleQuoted
  | literal
  | folded
  deriving DecidableEq, Repr, Inhabited

/-- What a token is. -/
inductive TokenKind where
  | streamStart
  | streamEnd
  | directive (name : String) (value : DirectiveValue)
  | documentStart
  | documentEnd
  | blockSequenceStart
  | blockMappingStart
  | blockEnd
  | flowSequenceStart
  | flowMappingStart
  | flowSequenceEnd
  | flowMappingEnd
  | key
  | value
  | blockEntry
  | flowEntry
  | alias (name : String)
  | anchor (name : String)
  /-- A tag: its handle (none for a verbatim tag or a lone `!`) and suffix. -/
  | tag (handle : Option String) (suffix : String)
  /-- A scalar: its text (a double-quoted one may spell lone surrogates) and style. -/
  | scalar (text : Text.LoneText) (style : ScalarStyle)
  deriving Inhabited

/-- A token and the marks around it. -/
structure Token where
  /-- What the token is. -/
  kind : TokenKind
  /-- Where it starts. -/
  start : Mark
  /-- Where it ends. -/
  stop : Mark
  deriving Inhabited

/-- How messages name a kind of token. -/
def TokenKind.name : TokenKind → String
  | .streamStart => "<stream start>"
  | .streamEnd => "<stream end>"
  | .directive _ _ => "<directive>"
  | .documentStart => "<document start>"
  | .documentEnd => "<document end>"
  | .blockSequenceStart => "<block sequence start>"
  | .blockMappingStart => "<block mapping start>"
  | .blockEnd => "<block end>"
  | .flowSequenceStart => "["
  | .flowMappingStart => "\x7b"
  | .flowSequenceEnd => "]"
  | .flowMappingEnd => "\x7d"
  | .key => "?"
  | .value => ":"
  | .blockEntry => "-"
  | .flowEntry => ","
  | .alias _ => "<alias>"
  | .anchor _ => "<anchor>"
  | .tag _ _ => "<tag>"
  | .scalar _ _ => "<scalar>"

/-- The kinds of tokens, without their contents, for tests on the next token. -/
inductive TokenSort where
  | streamStart | streamEnd | directive | documentStart | documentEnd
  | blockSequenceStart | blockMappingStart | blockEnd
  | flowSequenceStart | flowMappingStart | flowSequenceEnd | flowMappingEnd
  | key | value | blockEntry | flowEntry | alias | anchor | tag | scalar
  deriving DecidableEq, Repr

/-- The sort of a kind of token. -/
def TokenKind.sort : TokenKind → TokenSort
  | .streamStart => .streamStart
  | .streamEnd => .streamEnd
  | .directive _ _ => .directive
  | .documentStart => .documentStart
  | .documentEnd => .documentEnd
  | .blockSequenceStart => .blockSequenceStart
  | .blockMappingStart => .blockMappingStart
  | .blockEnd => .blockEnd
  | .flowSequenceStart => .flowSequenceStart
  | .flowMappingStart => .flowMappingStart
  | .flowSequenceEnd => .flowSequenceEnd
  | .flowMappingEnd => .flowMappingEnd
  | .key => .key
  | .value => .value
  | .blockEntry => .blockEntry
  | .flowEntry => .flowEntry
  | .alias _ => .alias
  | .anchor _ => .anchor
  | .tag _ _ => .tag
  | .scalar _ _ => .scalar

end Preflight.Yaml
