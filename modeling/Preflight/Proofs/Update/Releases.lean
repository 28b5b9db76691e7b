import Preflight.Proofs.Update.Throttle
import Preflight.Proofs.Version.Order

/-!
# The newest release, and what a check reports

The package index answers with an object whose `releases` map release names to their files.
The newest release it names is the greatest, in the order of versions, of the names that have
files, read as versions, that are neither pre-releases nor development releases
(`Candidate`). An answer with no such release yields no version (`Announces`).

The answer is taken apart without checking its shape: JSON that is not an object, and
`releases` that are not an object, make the reading fail as asking a list for a key does
(`latestRelease_not_object`, `latestRelease_releases_not_object`); only text that is not JSON
at all yields no version (`latestRelease_malformed`).

A check that is due and not cancelled reports the release it fetched exactly when the release
comes after the running version, and shows the notice exactly when it is also asked to
(`run_check_reports`).
-/

set_option autoImplicit false

namespace Preflight.Update

open Files (Tree Action)
open Time (Moment)

/-! ## What an index answer names -/

/-- The releases an index answer lists: its `releases`, an empty object when it has none. -/
def releasesOf (es : Entries) : Value := (Entries.get? es (.str "releases")).getD (.dict [])

/-- The names of the releases that have files. -/
def releaseNames (rs : Entries) : List String :=
  rs.filterMap fun (k, files) =>
    match k with
    | .str s => if files.truthy then some s else none
    | _ => none

theorem mem_releaseNames {rs : Entries} {k : String} :
    k ∈ releaseNames rs ↔ ∃ files, (Value.str k, files) ∈ rs ∧ files.truthy = true := by
  simp only [releaseNames, List.mem_filterMap]
  constructor
  · rintro ⟨⟨key, files⟩, hmem, h⟩
    cases key <;> simp at h
    obtain ⟨htruthy, rfl⟩ := h
    exact ⟨files, hmem, htruthy⟩
  · rintro ⟨files, hmem, htruthy⟩
    exact ⟨(.str k, files), hmem, by simp [htruthy]⟩

/-- A release the check may announce: a release with files whose name reads as a version that
is neither a pre-release nor a development release. -/
def Candidate (rs : Entries) (w : Version) : Prop :=
  ∃ k files, (Value.str k, files) ∈ rs ∧ files.truthy = true ∧ Version.read k = .ok (some w) ∧
    w.isPrerelease = false

/-- Reading names that all read: the versions among the results are those of the names. -/
theorem mapM_read_eq_ok : ∀ {names : List String}, (∀ k ∈ names, (Version.read k).isOk = true) →
    ∃ reads, names.mapM Version.read = .ok reads ∧
      ∀ w, some w ∈ reads ↔ ∃ k ∈ names, Version.read k = .ok (some w)
  | [], _ => ⟨[], rfl, by simp⟩
  | k :: ks, h => by
    obtain ⟨r, hr⟩ : ∃ r, Version.read k = .ok r := by
      have := h k List.mem_cons_self
      cases hk : Version.read k with
      | error => rw [hk] at this; cases this
      | ok r => exact ⟨r, rfl⟩
    obtain ⟨reads, hreads, hmem⟩ := mapM_read_eq_ok fun k' hk' => h k' (List.mem_cons_of_mem k hk')
    refine ⟨r :: reads, by simp [List.mapM_cons, hr, hreads], fun w => ?_⟩
    rw [List.mem_cons, hmem]
    constructor
    · rintro (h | ⟨k', hk', hw⟩)
      · exact ⟨k, List.mem_cons_self, by rw [hr, h]⟩
      · exact ⟨k', List.mem_cons_of_mem k hk', hw⟩
    · rintro ⟨k', hk', hw⟩
      rcases List.mem_cons.1 hk' with rfl | hk'
      · rw [hr] at hw
        cases hw
        exact .inl rfl
      · exact .inr ⟨k', hk', hw⟩

/-! ## The newest release an answer names -/

/-- The versions an answer's releases yield once their names are read: the versions read,
less the pre-releases and development releases. -/
def candidates (reads : List (Option Version)) : List Version :=
  (reads.filterMap id).filter fun v => !v.isPrerelease

theorem mem_candidates {rs : Entries} {reads : List (Option Version)}
    (hmem : ∀ w, some w ∈ reads ↔ ∃ k ∈ releaseNames rs, Version.read k = .ok (some w))
    (w : Version) : w ∈ candidates reads ↔ Candidate rs w := by
  simp only [candidates, List.mem_filter, List.mem_filterMap, id, exists_eq_right, hmem,
    Bool.not_eq_true', mem_releaseNames, Candidate]
  constructor
  · rintro ⟨⟨k, ⟨files, hk, hfiles⟩, hread⟩, hpre⟩
    exact ⟨k, files, hk, hfiles, hread, hpre⟩
  · rintro ⟨k, files, hk, hfiles, hread, hpre⟩
    exact ⟨⟨k, ⟨files, hk, hfiles⟩, hread⟩, hpre⟩

/-- An answer whose releases are an object yields the normal form of the greatest candidate,
once every name with files is read. -/
theorem latestRelease_of_releases {body : String} {es rs : Entries}
    (hp : Json.parse body = .ok (.dict es)) (hr : releasesOf es = .dict rs) :
    latestRelease body = ((releaseNames rs).mapM Version.read).map fun reads =>
      (Version.greatest? (candidates reads)).map Version.toText := by
  unfold latestRelease
  rw [hp]
  dsimp only
  unfold releasesOf at hr
  rw [hr]
  rfl

/-- What an answer with readable releases yields: no version exactly when no release is a
candidate, and otherwise the normal form of a candidate that no candidate ranks above. -/
structure Announces (rs : Entries) (r : Option String) : Prop where
  none_iff : r = none ↔ ∀ w, ¬ Candidate rs w
  greatest : ∀ v, r = some v → ∃ g, Candidate rs g ∧
    (∀ w, Candidate rs w → (Version.compare w g).isLE) ∧ v = g.toText

theorem latestRelease_announces {body : String} {es rs : Entries}
    (hp : Json.parse body = .ok (.dict es)) (hr : releasesOf es = .dict rs)
    (hread : ∀ k ∈ releaseNames rs, (Version.read k).isOk = true) :
    ∃ r, latestRelease body = .ok r ∧ Announces rs r := by
  obtain ⟨reads, hreads, hmem⟩ := mapM_read_eq_ok hread
  have hcand := mem_candidates hmem
  refine ⟨_, by rw [latestRelease_of_releases hp hr, hreads]; rfl, ⟨?_, ?_⟩⟩
  · rw [Option.map_eq_none_iff, Version.greatest?_eq_none, List.eq_nil_iff_forall_not_mem]
    exact forall_congr' fun w => not_congr (hcand w)
  · intro v hv
    obtain ⟨g, hg, rfl⟩ := Option.map_eq_some_iff.1 hv
    obtain ⟨hgmem, hmax⟩ := Version.greatest?_spec hg
    exact ⟨g, (hcand g).1 hgmem, fun w hw => hmax w ((hcand w).2 hw), rfl⟩

/-- An answer that is not JSON yields no version. -/
theorem latestRelease_malformed {body : String} {f : Json.PlacedFault}
    (hp : Json.parse body = .error (.malformed f)) : latestRelease body = .ok none := by
  unfold latestRelease
  rw [hp]

/-- An answer that is JSON but not an object fails, as asking it for its releases does. -/
theorem latestRelease_not_object {body : String} {v : Value} (hp : Json.parse body = .ok v)
    (hv : ∀ es, v ≠ .dict es) :
    latestRelease body =
      .error ⟨.missingAttribute, "'" ++ v.kindName ++ "' object has no attribute 'get'"⟩ := by
  unfold latestRelease
  rw [hp]
  cases v
  case dict es => exact absurd rfl (hv es)
  all_goals rfl

/-- An answer whose releases are not an object fails, as listing them does. -/
theorem latestRelease_releases_not_object {body : String} {es : Entries}
    (hp : Json.parse body = .ok (.dict es)) (hr : ∀ rs, releasesOf es ≠ .dict rs) :
    latestRelease body = .error
      ⟨.missingAttribute, "'" ++ (releasesOf es).kindName ++ "' object has no attribute 'items'"⟩ := by
  unfold latestRelease
  rw [hp]
  dsimp only
  unfold releasesOf at hr ⊢
  generalize (Entries.get? es (.str "releases")).getD (.dict []) = rel at hr ⊢
  cases rel
  case dict rs => exact absurd rfl (hr rs)
  all_goals rfl

/-! ## What a check reports -/

variable {inst : Install} {t : Tree} {s : State}

/-- A check that is due, not cancelled, and fetched a release reports it exactly when it comes
after the running version, with the notice exactly when it is also asked to notify. -/
theorem run_check_reports (hw : Writable inst t)
    (hload : (loadState (statePath inst)).run t = (.ok s, t)) {now : Moment}
    (hdue : s.due now.toUTC = true) (current : String) (notify : Bool) {answer : Option String}
    {r : String} (hfetch : fetched answer = .ok (some r)) {how : Circumstances}
    (hdev : how.inCheckout = false) (hcancel : how.cancelledDuringFetch = false) {c v : Version}
    (hc : Version.read current = .ok (some c)) (hv : Version.read r = .ok (some v)) :
    ((check inst now current notify answer how).run t).1 =
      .ok (if Version.compare c v = .lt then (some r, if notify then notice current r else "")
        else (none, "")) := by
  unfold check
  simp only [hdev, Bool.false_eq_true, if_false]
  rw [Action.run_bind_of_ok hload]
  simp only [hdue, Bool.not_true, Bool.false_eq_true, if_false]
  cases answer with
  | none => simp [fetched] at hfetch
  | some body =>
    simp only [fetched] at hfetch
    simp only [hfetch, pure_bind, hcancel, Bool.false_eq_true, if_false]
    rw [Action.run_bind_of_ok (run_storeState hw _)]
    rw [Action.run_bind, Action.run_ofExcept, hc]
    dsimp only
    rw [Action.run_bind, Action.run_ofExcept, hv]
    dsimp only
    -- the release is kept out exactly when it does not come after the running version
    have hle : Version.le v c = !(Version.compare c v == .lt) := by
      simp only [Version.le, @Std.OrientedCmp.eq_swap _ Version.compare _ v c]
      cases Version.compare c v <;> rfl
    rw [hle]
    by_cases hlt : Version.compare c v = .lt <;> simp [hlt]

/-! ## The check as a whole -/

end Preflight.Update
