import Preflight.Json.Read

/-!
# Version markers

Each bundle of check templates carries a version marker: a JSON object whose `version`
field, a text, names the bundle's version. A marker without the field has the empty
version. A version is kept as a text value, since an escape in the marker may spell a lone
surrogate. A marker may be given as text or as bytes in any of the encodings JSON allows.
-/

set_option autoImplicit false

namespace Preflight.Template

/-- The name of the file that holds a bundle's version marker. -/
def markerFile : String := "version.json"

/-- Why a version marker cannot be read. -/
inductive MarkerFault where
  /-- The document cannot be read. -/
  | unreadable (e : Json.BytesError)
  /-- The document is not an object. -/
  | notObject
  /-- The `version` field is not a text. -/
  | versionNotText

/-- The failure a marker fault reports. -/
def MarkerFault.toFailure : MarkerFault → Failure
  | .unreadable e => e.toFailure
  | .notObject => ⟨.badValue, "version marker must be a JSON object"⟩
  | .versionNotText => ⟨.badValue, "version marker field 'version' must be a string"⟩

/-- The version a read document names, a text. -/
def versionOf (v : Value) : Except MarkerFault Value :=
  match v with
  | .dict es =>
    match Entries.get? es (.str "version") with
    | none => .ok (.str "")
    | some (.str s) => .ok (.str s)
    | some (.codeStr ps) => .ok (.codeStr ps)
    | some _ => .error .versionNotText
  | _ => .error .notObject

/-- Reads a version marker given as text that may hold lone surrogates. -/
def parseMarkerText (raw : Text.LoneText) : Except MarkerFault Value :=
  match Json.parseText raw with
  | .ok v => versionOf v
  | .error e => .error (.unreadable (.unreadable e))

/-- Reads a version marker given as text. -/
def parseMarker (raw : String) : Except MarkerFault Value :=
  parseMarkerText ⟨raw, []⟩

/-- Reads a version marker given as bytes. -/
def parseMarkerBytes (raw : List UInt8) : Except MarkerFault Value :=
  match Json.parseBytes raw with
  | .ok v => versionOf v
  | .error e => .error (.unreadable e)

end Preflight.Template
