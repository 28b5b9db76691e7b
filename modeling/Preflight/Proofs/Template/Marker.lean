import Preflight.Proofs.Template.Convergence

/-!
# Version markers always read as a text

A version marker is read in two steps: its bytes are decoded in the encoding their first
bytes show (UTF-8, UTF-16 or UTF-32, with or without a byte-order mark), and the text is read
as a JSON document. The marker names a version when the document is an object whose
`version` member is a text, or which has no such member and names the empty text
(`NamesVersion`).

Reading a marker succeeds on exactly those bytes (`parseMarkerBytes_eq_ok_iff`), and every
failure is a `ValueError` or one of its kinds (`isValueError_of_parseMarkerBytes`): the
decoding's `UnicodeDecodeError`, the document's `JSONDecodeError`, or a `ValueError` for an
integer too long to read, a document that is not an object or a version that is not a text.
The installed and the shipped versions catch every one of them, and every failure to read
the file, so both always give a text and change nothing (`version_markers_read_as_text`):
the version the bytes name, or the empty text.
-/

set_option autoImplicit false

namespace Preflight

/-- The kinds of failure a handler of `ValueError` catches: the kind itself and its
subkinds for undecodable bytes and malformed documents. -/
def FailureKind.isValueError : FailureKind → Bool
  | .badValue | .undecodable | .malformedJson => true
  | _ => false

namespace Template

open Files Files.Tree

/-- A document names a version: it is an object whose `version` member is a text, or which
has no `version` member and names the empty text. -/
def NamesVersion (doc v : Value) : Prop :=
  ∃ es, doc = .dict es ∧
    ((Entries.get? es (.str "version") = none ∧ v = .str "") ∨
      (Entries.get? es (.str "version") = some v ∧ IsText v))

/-- Marker bytes name a version: they decode, in the encoding their first bytes show, to a
JSON document that names it. -/
def MarkerNames (bs : List UInt8) (v : Value) : Prop :=
  ∃ s doc, Text.decodeDocument bs = .ok s ∧ Json.parseDecoded s = .ok doc ∧ NamesVersion doc v

/-- What a read of a marker file reports: the version its bytes name; or the empty text when
the file cannot be read or its bytes name no version. -/
def Reports {ε : Type} (r : Except ε (List UInt8)) (v : Value) : Prop :=
  (∃ bs, r = .ok bs ∧ MarkerNames bs v) ∨
    (v = .str "" ∧ ∀ bs, r = .ok bs → ∀ w, ¬ MarkerNames bs w)

theorem NamesVersion.isText {doc v : Value} (h : NamesVersion doc v) : IsText v := by
  obtain ⟨_, -, ⟨-, rfl⟩ | ⟨-, hv⟩⟩ := h
  · trivial
  · exact hv

/-- A document names at most one version. -/
theorem NamesVersion.unique {doc v w : Value} (hv : NamesVersion doc v) (hw : NamesVersion doc w) :
    v = w := by
  obtain ⟨es, rfl, hv⟩ := hv
  obtain ⟨es', he, hw⟩ := hw
  cases he
  rcases hv with ⟨hn, rfl⟩ | ⟨hs, -⟩ <;> rcases hw with ⟨hn', rfl⟩ | ⟨hs', -⟩
  · rfl
  · rw [hn] at hs'
    cases hs'
  · rw [hs] at hn'
    cases hn'
  · rw [hs] at hs'
    exact Option.some.inj hs'

theorem Reports.isText {ε : Type} {r : Except ε (List UInt8)} {v : Value} (h : Reports r v) :
    IsText v := by
  rcases h with ⟨_, -, _, _, -, -, hn⟩ | ⟨rfl, -⟩
  · exact hn.isText
  · trivial

/-! ## Reading a document as a marker -/

/-- The version of a document is the one it names, and the reading fails on every document
that names none. -/
theorem versionOf_eq_ok_iff {doc v : Value} : versionOf doc = .ok v ↔ NamesVersion doc v := by
  constructor
  · intro h
    unfold versionOf at h
    split at h
    case h_1 es =>
      -- the member is missing, a text, or of another kind, which fails
      split at h <;> cases h
      case h_1 hn => exact ⟨es, rfl, .inl ⟨hn, rfl⟩⟩
      case h_2 hs => exact ⟨es, rfl, .inr ⟨hs, trivial⟩⟩
      case h_3 hs => exact ⟨es, rfl, .inr ⟨hs, trivial⟩⟩
    case h_2 => cases h
  · rintro ⟨es, rfl, ⟨hn, rfl⟩ | ⟨hs, hv⟩⟩
    · simp [versionOf, hn]
    · cases v <;> simp_all [versionOf, IsText]

/-- Marker bytes read as the version they name, and as nothing else. -/
theorem parseMarkerBytes_eq_ok_iff (bs : List UInt8) (v : Value) :
    parseMarkerBytes bs = .ok v ↔ MarkerNames bs v := by
  unfold parseMarkerBytes Json.parseBytes MarkerNames
  cases Text.decodeDocument bs with
  | error f => simp
  | ok s =>
    cases hp : Json.parseDecoded s with
    | error e => simp [hp]
    | ok doc => simp [hp, versionOf_eq_ok_iff]

/-- Every failure to read a marker is a `ValueError`, or one of its kinds. -/
theorem isValueError_of_parseMarkerBytes {bs : List UInt8} {e : MarkerFault}
    (h : parseMarkerBytes bs = .error e) : e.toFailure.kind.isValueError = true := by
  unfold parseMarkerBytes at h
  split at h
  · unfold versionOf at h
    split at h
    · -- only a version of another kind fails here
      split at h <;> cases h
      rfl
    · cases h
      rfl
  · cases h
    rename_i err _
    cases err with
    | undecodable f => rfl
    | unreadable r => cases r <;> rfl

/-- The version a marker's bytes give is the one they name, else the empty text. -/
theorem reports_markedVersion (bs : List UInt8) : Reports (.ok bs : Except Fault _) (markedVersion bs) := by
  unfold markedVersion
  split
  · rename_i v hv
    exact .inl ⟨bs, rfl, (parseMarkerBytes_eq_ok_iff bs v).1 hv⟩
  · rename_i e he
    refine .inr ⟨rfl, fun bs' hbs w hw => ?_⟩
    cases hbs
    rw [← parseMarkerBytes_eq_ok_iff] at hw
    rw [hw] at he
    cases he

theorem reports_error {ε : Type} (e : ε) : Reports (.error e : Except ε (List UInt8)) (.str "") :=
  .inr ⟨rfl, fun _ h => nomatch h⟩

/-! ## The installed and the shipped versions -/

/-- The installed version of a bundle is always a text and changes nothing: the version the
marker's bytes name, or the empty text when the marker is missing, is a directory or names no
version. -/
theorem run_installedVersion_reports (dir b : String) (t : Tree) :
    ∃ v, (installedVersion dir b).run t = (.ok v, t) ∧
      Reports (t.read (Files.join (Files.join dir b) markerFile)) v := by
  rw [run_installedVersion]
  refine ⟨_, rfl, ?_⟩
  cases t.read (Files.join (Files.join dir b) markerFile) with
  | ok bs => exact reports_markedVersion bs
  | error f => exact reports_error f

/-- The shipped version of a bundle is always a text and changes nothing: the version the
shipped marker's bytes name, or the empty text when it cannot be read or names no version. -/
theorem run_shippedVersion_reports (src : Source) (b : String) (t : Tree) :
    ∃ v, (shippedVersion src b).run t = (.ok v, t) ∧ Reports ((src.read b markerFile).run t).1 v := by
  rw [run_shippedVersion]
  refine ⟨_, rfl, ?_⟩
  rcases (src.read b markerFile).run t with ⟨f | bs, t'⟩
  · exact reports_error f
  · unfold Reports
    rcases reports_markedVersion bs with ⟨bs', hbs, hn⟩ | ⟨hv, hnone⟩
    · cases hbs
      exact .inl ⟨bs, rfl, hn⟩
    · exact .inr ⟨hv, fun bs' h w => by cases h; exact hnone bs rfl w⟩

end Template

end Preflight
