/-!
# Failures

Every operation that can fail reports a failure: its kind and its message. The kinds are
the program's own vocabulary of failures, each shown under the name its answers give it.
Each part of the library keeps its own causes of failure and turns them into a failure
only at its edge.
-/

set_option autoImplicit false

namespace Preflight

/-- The kinds of failure an operation can report. -/
inductive FailureKind where
  /-- A value of the right kind with an unusable content. -/
  | badValue
  /-- A look-up of a key that is not there. -/
  | missingKey
  /-- A value of the wrong kind. -/
  | wrongKind
  /-- An index past the end of a sequence. -/
  | index
  /-- A field or method that a value does not have. -/
  | missingAttribute
  /-- A failure of the running program itself. -/
  | runtime
  /-- An unusable configuration. -/
  | config
  /-- A file or directory that does not exist. -/
  | fileNotFound
  /-- A file or directory that exists already. -/
  | fileExists
  /-- A directory where a file was wanted. -/
  | isDirectory
  /-- A file where a directory was wanted. -/
  | notDirectory
  /-- An access that is not permitted. -/
  | permission
  /-- Another failure of the operating system. -/
  | system
  /-- Bytes that are not text in the expected encoding. -/
  | undecodable
  /-- A document that is not well-formed JSON. -/
  | malformedJson
  /-- A document that does not satisfy its schema. -/
  | invalidDocument
  /-- A condition the program relies on does not hold. -/
  | broken
  deriving DecidableEq, Repr

/-- The name under which answers show a kind of failure. -/
def FailureKind.name : FailureKind → String
  | .badValue => "ValueError"
  | .missingKey => "KeyError"
  | .wrongKind => "TypeError"
  | .index => "IndexError"
  | .missingAttribute => "AttributeError"
  | .runtime => "RuntimeError"
  | .config => "ConfigError"
  | .fileNotFound => "FileNotFoundError"
  | .fileExists => "FileExistsError"
  | .isDirectory => "IsADirectoryError"
  | .notDirectory => "NotADirectoryError"
  | .permission => "PermissionError"
  | .system => "OSError"
  | .undecodable => "UnicodeDecodeError"
  | .malformedJson => "JSONDecodeError"
  | .invalidDocument => "ValidationError"
  | .broken => "AssertionError"

/-- A failure: its kind and its message. -/
structure Failure where
  /-- The kind of failure. -/
  kind : FailureKind
  /-- The message. -/
  message : String
  deriving DecidableEq, Repr

/-- The refusal of an integer written with more digits than are read (4300). -/
def Failure.tooManyDigits (count : Nat) : Failure :=
  ⟨.badValue, s!"Exceeds the limit (4300 digits) for integer string conversion: value has {count} digits; use sys.set_int_max_str_digits() to increase the limit"⟩

/-- Whether a failure comes from the operating system (a file that is missing, present, of
the wrong kind or not permitted). -/
def FailureKind.isSystem : FailureKind → Bool
  | .fileNotFound | .fileExists | .isDirectory | .notDirectory | .permission | .system => true
  | _ => false

end Preflight
