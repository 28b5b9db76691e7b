import Preflight.Update
import Preflight.Proofs.Files.Change
import Preflight.Proofs.Files.Run
import Preflight.Proofs.Json.Flat
import Preflight.Proofs.Text.Utf8
import Preflight.Proofs.Time.IsoOffset

/-!
# The daily throttle of the update check

A check stores what it found in the installation's state file, and a later check asks the
index again only once a day has passed since the time stored. This module follows the state
file through any run of checks.

A found state is written as a flat JSON record, with its time in ISO form; read back, the
record gives the same state (`run_loadState_found`), since the time of a clock reading of the
calendar is in UTC with every field in range. One check that reads a state then does one of
three things: it returns at once when no check is due, whatever the index would answer
(`run_check_not_due`); it stores nothing when cancelled (`run_check_cancelled`); and otherwise
it replaces the state file with its time, the version it fetched and whether it fetched one
(`run_check_stores`).

So a run of calls is followed by a fold over the states alone (`stateAfter`): each call reads
the state the calls before it left (`runCalls_reads`). In a run whose times do not go back, a
stored time only moves forward, and two calls that ask the index, the first not cancelled,
are a day apart (`stateAfter_spaced`). `check_throttled` gathers all of it for a tree whose
state file can be written and read.
-/

set_option autoImplicit false

namespace Preflight.Update

open Files (Tree isPlain isName Action)
open Time (Moment)

/-- The state a check stores at `now`: the time, the version it found, and whether it found
one. -/
def found (now : Moment) (remote : Option String) : State :=
  { lastChecked := some now, latestVersion := remote.elim .null .str,
    status := .str (if remote.isSome then "ok" else "error") }

/-- The fields of a found state, as a record of texts. -/
def foundFields (now : Moment) (remote : Option String) : List (String × Option String) :=
  [("last_checked", some now.iso), ("latest_version", remote),
    ("status", some (if remote.isSome then "ok" else "error"))]

theorem toValue_found (now : Moment) (remote : Option String) :
    (found now remote).toValue = .dict (Json.flatEntries (foundFields now remote)) := by
  cases remote <;> rfl

theorem ofDocument_found {now : Moment} (h : now.InUTC) (remote : Option String) :
    State.ofDocument (.dict (Json.flatEntries (foundFields now remote))) = found now remote := by
  simp [State.ofDocument, Json.flatEntries, foundFields, Entries.get?, Value.sameKey,
    Time.parseMoment_iso h, Moment.assumeUTC, h.offset, found]

theorem text_found (now : Moment) (remote : Option String) :
    (found now remote).text = Json.write .indented (.dict (Json.flatEntries (foundFields now remote))) ++ "\n" := by
  rw [State.text, toValue_found]

theorem foundFields_ne_nil (now : Moment) (remote : Option String) : foundFields now remote ≠ [] := by
  simp [foundFields]

theorem readText_found (now : Moment) (remote : Option String) :
    Text.readText (found now remote).text.toUTF8.toList = .ok (found now remote).text := by
  have hcr : '\r' ∉ (found now remote).text.toList := by
    rw [text_found]
    simp [Json.cr_not_mem_write_flat (foundFields_ne_nil now remote)]
  exact Text.readText_toUTF8 hcr

theorem parse_found (now : Moment) (remote : Option String) :
    Json.parse (found now remote).text = .ok (.dict (Json.flatEntries (foundFields now remote))) := by
  have hnd : ((foundFields now remote).map (·.1)).Nodup := by simp [foundFields]
  rw [text_found, Json.parse_write_flat (foundFields_ne_nil now remote) hnd (by simp [Json.isGap])]

/-! ## The state file -/

/-- A tree where the state file of an installation can be read and written: the tree is
proper, the installation's directory is a path of names, its internal directory is a
directory, and no directory stands where the state file goes. -/
structure Writable (inst : Install) (t : Tree) : Prop where
  proper : t.Proper
  plain : isPlain inst.dir = true
  dir : t.find? (t.resolve inst.internalDir) = some .dir
  notDir : t.find? (t.resolve (statePath inst)) ≠ some .dir

theorem isName_internal : isName "internal" = true := by decide

theorem isName_stateFileName : isName stateFileName = true := by decide

namespace Writable

variable {inst : Install} {t : Tree}

theorem internalPlain (hw : Writable inst t) : isPlain inst.internalDir = true :=
  Files.isPlain_join hw.plain isName_internal

theorem statePlain (hw : Writable inst t) : isPlain (statePath inst) = true :=
  Files.isPlain_join hw.internalPlain isName_stateFileName

theorem resolve_statePath (hw : Writable inst t) :
    t.resolve (statePath inst) = t.resolve inst.internalDir ++ [stateFileName] :=
  Tree.resolve_join t hw.internalPlain isName_stateFileName

theorem parentOf_statePath (hw : Writable inst t) :
    t.parentOf (statePath inst) = t.resolve inst.internalDir := by
  have hne := (Files.isPlain_iff.1 hw.internalPlain).1
  unfold Tree.parentOf statePath
  rw [Files.components_join_of_isPlain hw.internalPlain isName_stateFileName, List.dropLast_concat,
    Tree.origin_join t hne isName_stateFileName, ← Tree.resolve_of_isPlain t hw.internalPlain]

/-- The directory the state file goes in, as storing names it. -/
theorem parentText_statePath (hw : Writable inst t) :
    isPlain (Tree.parentText (statePath inst)) = true ∧
      t.resolve (Tree.parentText (statePath inst)) = t.resolve inst.internalDir := by
  have h2 : 2 ≤ (Files.components (statePath inst)).length := by
    unfold statePath
    rw [Files.components_join_of_isPlain hw.internalPlain isName_stateFileName, Install.internalDir,
      Files.components_join_of_isPlain hw.plain isName_internal]
    simp
  obtain ⟨hplain, hres⟩ := t.resolve_parentText hw.statePlain h2
  rw [hres, hw.resolve_statePath, List.dropLast_concat]
  exact ⟨hplain, rfl⟩

/-- Putting a file at the state file's path keeps the tree one where the state file can be
read and written. -/
theorem put (hw : Writable inst t) (bytes : List UInt8) :
    Writable inst (t.put (t.resolve (statePath inst)) (.file bytes)) := by
  have hpath := hw.resolve_statePath
  refine ⟨?_, hw.plain, ?_, ?_⟩
  · refine hw.proper.put ?_ (hw.proper.names_resolve hw.statePlain) ?_ (.inl hw.notDir)
    · simp [hpath]
    · rw [hpath, List.dropLast_concat]
      exact hw.dir
  · rw [Tree.resolve_put, Tree.find?_put, if_neg (by simp [hpath])]
    exact hw.dir
  · simp [Tree.find?_put]

end Writable

/-! ## Reading and writing the state file -/

variable {inst : Install} {t : Tree} {s : State}

/-- Reading the state file changes nothing. -/
theorem snd_run_loadState (path : String) (t : Tree) : ((loadState path).run t).2 = t := by
  unfold loadState
  simp only [Action.run_bind, Action.run_exists?]
  split
  · rfl
  · rw [Action.run_bind, Action.run_get]
    dsimp only
    split
    · rfl
    · split
      · rfl
      · split <;> rfl

/-- A missing state file reads as the empty state. -/
theorem run_loadState_missing {path : String} (h : t.exists? path = false) :
    (loadState path).run t = (.ok {}, t) := by
  unfold loadState
  simp only [Action.run_bind, Action.run_exists?, h, Bool.not_false]
  rfl

/-- A state file that holds a found state reads as that state. -/
theorem run_loadState_found (hw : Writable inst t) {now : Moment} (hnow : now.InUTC)
    (remote : Option String)
    (h : t.find? (t.resolve (statePath inst)) = some (.file (found now remote).text.toUTF8.toList)) :
    (loadState (statePath inst)).run t = (.ok (found now remote), t) := by
  have hex : t.exists? (statePath inst) = true := by
    simp [Tree.exists?, hw.proper.stat_of_find? hw.statePlain h]
  have hread := (hw.proper.read_eq_ok_iff hw.statePlain).2 h
  unfold loadState
  simp only [Action.run_bind, Action.run_exists?, hex, Bool.not_true]
  rw [if_neg (by decide), Action.run_bind, Action.run_get]
  dsimp only
  rw [hread]
  dsimp only
  rw [readText_found]
  dsimp only
  rw [parse_found]
  dsimp only
  rw [ofDocument_found hnow]
  rfl

/-- Storing a state puts its text at the state file's path and changes nothing else. -/
theorem run_storeState (hw : Writable inst t) (s : State) :
    (storeState (statePath inst) s).run t =
      (.ok ⟨⟩, t.put (t.resolve (statePath inst)) (.file s.text.toUTF8.toList)) := by
  obtain ⟨hplain, hres⟩ := hw.parentText_statePath
  unfold storeState
  rw [Action.run_bind, Action.run_makeDirs,
    hw.proper.makeDirs_of_dir hplain (by rw [hres]; exact hw.dir)]
  dsimp only
  rw [Action.run_write,
    hw.proper.write_of_parent hw.statePlain (by rw [hw.parentOf_statePath]; exact hw.dir) hw.notDir]

/-! ## One check -/

/-- What an answer of the index yields: no version when the index could not be reached, else
the newest release it names, if the answer can be read. -/
def fetched (answer : Option String) : Except Failure (Option String) :=
  match answer with
  | none => .ok none
  | some body => latestRelease body

/-- A check of a state file that cannot be read fails with the reading's failure and changes
nothing. -/
theorem run_check_of_load_error {f : Failure}
    (hload : (loadState (statePath inst)).run t = (.error f, t)) (now : Moment) (current : String) (notify : Bool)
    (answer : Option String) {how : Circumstances} (hdev : how.inCheckout = false) :
    (check inst now current notify answer how).run t = (.error f, t) := by
  unfold check
  simp only [hdev, Bool.false_eq_true, if_false]
  rw [Action.run_bind, hload]

/-- A check that reads a state for which no check is due returns at once, whatever the index
would answer. -/
theorem run_check_not_due (hload : (loadState (statePath inst)).run t = (.ok s, t)) {now : Moment}
    (hdue : s.due now.toUTC = false) (current : String) (notify : Bool) (answer : Option String)
    {how : Circumstances} (hdev : how.inCheckout = false) :
    (check inst now current notify answer how).run t = (.ok (none, ""), t) := by
  unfold check
  simp only [hdev, Bool.false_eq_true, if_false]
  rw [Action.run_bind_of_ok hload]
  simp only [hdue, Bool.not_false, if_true]
  rfl

/-- A check cancelled while the index is asked returns nothing and changes nothing. -/
theorem run_check_cancelled (hload : (loadState (statePath inst)).run t = (.ok s, t)) (now : Moment)
    (current : String) (notify : Bool) {answer : Option String} {remote : Option String}
    (hfetch : fetched answer = .ok remote) {how : Circumstances} (hdev : how.inCheckout = false)
    (hcancel : how.cancelledDuringFetch = true) :
    (check inst now current notify answer how).run t = (.ok (none, ""), t) := by
  cases hdue : s.due now.toUTC
  case false => exact run_check_not_due hload hdue current notify answer hdev
  case true =>
    unfold check
    simp only [hdev, Bool.false_eq_true, if_false]
    rw [Action.run_bind_of_ok hload]
    simp only [hdue, Bool.not_true, Bool.false_eq_true, if_false]
    cases answer with
    | none =>
      simp only [fetched, Except.ok.injEq] at hfetch
      subst hfetch
      simp only [pure_bind, hcancel, if_true]
      rfl
    | some body =>
      simp only [fetched] at hfetch
      simp only [hfetch, pure_bind, hcancel, if_true]
      rfl

/-- A check that is due and not cancelled replaces the state file with the state it found,
and changes nothing else, whether or not it then reports a newer release. -/
theorem run_check_stores (hw : Writable inst t) (hload : (loadState (statePath inst)).run t = (.ok s, t))
    {now : Moment} (hdue : s.due now.toUTC = true) (current : String) (notify : Bool)
    {answer : Option String} {remote : Option String} (hfetch : fetched answer = .ok remote)
    {how : Circumstances} (hdev : how.inCheckout = false) (hcancel : how.cancelledDuringFetch = false) :
    ((check inst now current notify answer how).run t).2 =
      t.put (t.resolve (statePath inst)) (.file (found now.toUTC remote).text.toUTF8.toList) := by
  unfold check
  simp only [hdev, Bool.false_eq_true, if_false]
  rw [Action.run_bind_of_ok hload]
  simp only [hdue, Bool.not_true, Bool.false_eq_true, if_false]
  cases answer with
  | none =>
    simp only [fetched, Except.ok.injEq] at hfetch
    subst hfetch
    simp only [pure_bind, hcancel, Bool.false_eq_true, if_false]
    rw [Action.run_bind_of_ok (run_storeState hw _)]
    rfl
  | some body =>
    simp only [fetched] at hfetch
    simp only [hfetch, pure_bind, hcancel, Bool.false_eq_true, if_false]
    rw [Action.run_bind_of_ok (run_storeState hw _)]
    -- what follows the store only compares versions, and leaves the tree as it is
    generalize hput : t.put _ _ = t'
    cases remote with
    | none => exact hput.symm
    | some r =>
      dsimp only
      rw [Action.run_bind, Action.run_ofExcept]
      cases Version.read current with
      | error => exact hput.symm
      | ok c? =>
        dsimp only
        rw [Action.run_bind, Action.run_ofExcept]
        cases Version.read r with
        | error => exact hput.symm
        | ok v? =>
          dsimp only
          split
          · split <;> exact hput.symm
          · exact hput.symm

/-! ## Runs of checks -/

/-- A call of the check in a run: when it runs, what the index answers and the version that
answer yields, whether it shows a notice, and whether it is cancelled while the index is
asked. Its time is one of the calendar, from year 1 to year 9999. -/
structure Call where
  now : Moment
  answer : Option String
  version : Option String
  yields : fetched answer = .ok version
  notify : Bool
  cancelled : Bool
  onCalendar : 0 ≤ now.instant ∧ now.instant < Time.lastOrdinal * Time.microsPerDay

namespace Call

/-- The circumstances of a call: outside a source checkout, cancelled or not. -/
def how (c : Call) : Circumstances := { cancelledDuringFetch := c.cancelled }

/-- A call run on a tree, in an installation running version `current`. -/
def run (inst : Install) (current : String) (c : Call) (t : Tree) :
    Except Failure (Option String × String) × Tree :=
  (check inst c.now current c.notify c.answer c.how).run t

/-- The state a call leaves from the state it reads: what it found, when a check is due and
it is not cancelled. -/
def next (s : State) (c : Call) : State :=
  if s.due c.now.toUTC && !c.cancelled then found c.now.toUTC c.version else s

theorem instant_toUTC (c : Call) : c.now.toUTC.instant = c.now.instant :=
  Moment.instant_toUTC c.onCalendar.1

/-- What a call does on a tree whose state file reads as `s`: with no check due it returns
at once, whatever the index would answer; cancelled, it returns nothing and changes nothing;
due and not cancelled, it replaces the state file with what it found. -/
structure Behaves (inst : Install) (current : String) (t : Tree) (s : State) (c : Call) : Prop where
  idle : s.due c.now.toUTC = false → ∀ answer : Option String,
    (check inst c.now current c.notify answer c.how).run t = (.ok (none, ""), t)
  cancelled : c.cancelled = true → c.run inst current t = (.ok (none, ""), t)
  stores : s.due c.now.toUTC = true → c.cancelled = false →
    (c.run inst current t).2 =
      t.put (t.resolve (statePath inst)) (.file (found c.now.toUTC c.version).text.toUTF8.toList)

theorem behaves (hw : Writable inst t) (hload : (loadState (statePath inst)).run t = (.ok s, t))
    (current : String) (c : Call) : c.Behaves inst current t s where
  idle hdue answer := run_check_not_due hload hdue current c.notify answer rfl
  cancelled hc := run_check_cancelled hload c.now current c.notify c.yields rfl hc
  stores hdue hc := run_check_stores hw hload hdue current c.notify c.yields rfl hc

/-- A call keeps the state file writable, and leaves in it the state `next` gives. -/
theorem run_step (hw : Writable inst t) (hload : (loadState (statePath inst)).run t = (.ok s, t))
    (current : String) (c : Call) :
    Writable inst (c.run inst current t).2 ∧
      (loadState (statePath inst)).run (c.run inst current t).2 =
        (.ok (c.next s), (c.run inst current t).2) := by
  have hc := c.behaves hw hload current
  cases hdue : s.due c.now.toUTC
  case false =>
    have hnext : c.next s = s := by simp [next, hdue]
    rw [run, hc.idle hdue c.answer, hnext]
    exact ⟨hw, hload⟩
  case true =>
    cases hcancel : c.cancelled
    case true =>
      have hnext : c.next s = s := by simp [next, hcancel]
      rw [hc.cancelled hcancel, hnext]
      exact ⟨hw, hload⟩
    case false =>
      have hnext : c.next s = found c.now.toUTC c.version := by simp [next, hdue, hcancel]
      have hw' := hw.put (found c.now.toUTC c.version).text.toUTF8.toList
      rw [hc.stores hdue hcancel, hnext]
      refine ⟨hw', run_loadState_found hw' (Moment.inUTC_toUTC c.onCalendar.1 c.onCalendar.2) _ ?_⟩
      simp [Tree.find?_put]

end Call

/-- The tree after a run of calls. -/
def runCalls (inst : Install) (current : String) (t : Tree) (cs : List Call) : Tree :=
  cs.foldl (fun t c => (c.run inst current t).2) t

/-- The state after a run of calls from `s`. -/
def stateAfter (s : State) (cs : List Call) : State :=
  cs.foldl Call.next s

/-- Over a run of calls, the state file stays writable and reads as the state `stateAfter`
gives. -/
theorem runCalls_reads (hw : Writable inst t) (hload : (loadState (statePath inst)).run t = (.ok s, t))
    (current : String) (cs : List Call) :
    Writable inst (runCalls inst current t cs) ∧
      (loadState (statePath inst)).run (runCalls inst current t cs) =
        (.ok (stateAfter s cs), runCalls inst current t cs) := by
  induction cs generalizing t s with
  | nil => exact ⟨hw, hload⟩
  | cons c cs ih =>
    obtain ⟨hw', hload'⟩ := c.run_step hw hload current
    exact ih hw' hload'

/-- Once a state holds a time, every later call at a time no earlier leaves one at least as
late. -/
theorem lastChecked_stateAfter {L : Moment}
    (hs : ∃ L', s.lastChecked = some L' ∧ L.instant ≤ L'.instant)
    (cs : List Call) (hcs : ∀ d ∈ cs, L.instant ≤ d.now.instant) :
    ∃ L', (stateAfter s cs).lastChecked = some L' ∧ L.instant ≤ L'.instant := by
  induction cs generalizing s with
  | nil => exact hs
  | cons d cs ih =>
    apply ih _ (fun x hx => hcs x (List.mem_cons_of_mem d hx))
    unfold Call.next
    split
    · exact ⟨d.now.toUTC, rfl, by rw [d.instant_toUTC]; exact hcs d List.mem_cons_self⟩
    · exact hs

/-- In a run whose times do not go back, a call that asks the index and is not cancelled is
followed by no call that asks it again within a day. -/
theorem stateAfter_spaced {s₀ : State} {pre mid post : List Call} {c d : Call}
    (hsorted : (pre ++ c :: mid ++ d :: post).Pairwise (fun a b => a.now.instant ≤ b.now.instant))
    (hc : (stateAfter s₀ pre).due c.now.toUTC = true) (hkeep : c.cancelled = false)
    (hd : (stateAfter s₀ (pre ++ c :: mid)).due d.now.toUTC = true) :
    checkInterval ≤ d.now.instant - c.now.instant := by
  have hmid : ∀ x ∈ mid, c.now.instant ≤ x.now.instant := by
    simp only [List.pairwise_append, List.pairwise_cons] at hsorted
    exact hsorted.1.2.1.1
  have hstore : c.next (stateAfter s₀ pre) = found c.now.toUTC c.version := by
    simp [Call.next, hc, hkeep]
  -- the call stores its own time, and the calls after it keep a time no earlier
  obtain ⟨L, hL, hle⟩ := lastChecked_stateAfter (s := found c.now.toUTC c.version)
    ⟨c.now.toUTC, rfl, Int.le_of_eq c.instant_toUTC.symm⟩ mid hmid
  have hafter : stateAfter s₀ (pre ++ c :: mid) = stateAfter (found c.now.toUTC c.version) mid := by
    rw [stateAfter, List.foldl_append, List.foldl_cons, ← hstore]
    rfl
  rw [hafter, State.due, hL] at hd
  simp only [ge_iff_le, decide_eq_true_eq, d.instant_toUTC] at hd
  omega

/-- The update check over runs of calls from a tree whose state file reads as `s₀`, in an
installation running version `current`: each call reads the state the calls before it left
and behaves as `Call.Behaves` says on it, and in a run whose times do not go back, two calls
that ask the index, the first not cancelled, are at least a day apart. -/
structure Throttled (inst : Install) (current : String) (t₀ : Tree) (s₀ : State) : Prop where
  reads : ∀ pre : List Call,
    (loadState (statePath inst)).run (runCalls inst current t₀ pre) =
      (.ok (stateAfter s₀ pre), runCalls inst current t₀ pre)
  behaves : ∀ (pre : List Call) (c : Call),
    c.Behaves inst current (runCalls inst current t₀ pre) (stateAfter s₀ pre)
  spaced : ∀ (pre mid post : List Call) (c d : Call),
    (pre ++ c :: mid ++ d :: post).Pairwise (fun a b => a.now.instant ≤ b.now.instant) →
    (stateAfter s₀ pre).due c.now.toUTC = true → c.cancelled = false →
    (stateAfter s₀ (pre ++ c :: mid)).due d.now.toUTC = true →
    checkInterval ≤ d.now.instant - c.now.instant

/-- The update check asks the index at most once a day, from any tree whose state file can be
written and reads as a state. -/
theorem check_throttled {t₀ : Tree} {s₀ : State} (hw : Writable inst t₀)
    (hload : ((loadState (statePath inst)).run t₀).1 = .ok s₀) (current : String) :
    Throttled inst current t₀ s₀ := by
  have hload₀ : (loadState (statePath inst)).run t₀ = (.ok s₀, t₀) :=
    Prod.ext hload (snd_run_loadState _ t₀)
  refine ⟨fun pre => (runCalls_reads hw hload₀ current pre).2, fun pre c => ?_,
    fun _ _ _ _ _ hsorted hc hkeep hd => stateAfter_spaced hsorted hc hkeep hd⟩
  obtain ⟨hw', hload'⟩ := runCalls_reads hw hload₀ current pre
  exact c.behaves hw' hload' current

/-- An installation at `/inst` whose internal directory holds no state file yet. -/
def freshInst : Install := ⟨"/inst"⟩

def freshTree : Tree where
  entries := [([], .dir), (["inst"], .dir), (["inst", "internal"], .dir)]

theorem check_throttled_fresh :
    Writable freshInst freshTree ∧ ((loadState (statePath freshInst)).run freshTree).1 = .ok {} ∧
      Throttled freshInst cliVersion freshTree {} :=
  have hw : Writable freshInst freshTree :=
    ⟨by decide +kernel, by decide +kernel, by decide +kernel, by decide +kernel⟩
  have hload : ((loadState (statePath freshInst)).run freshTree).1 = .ok {} := by
    rw [run_loadState_missing (by decide +kernel)]
  ⟨hw, hload, check_throttled hw hload cliVersion⟩

end Preflight.Update
