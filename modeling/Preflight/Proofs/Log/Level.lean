import Preflight.Log.Level
import Preflight.Log.Sink

/-!
# The level of the log

A log level is asked for by name, and the name is read twice: the configuration's check
reads it in lower case as written, the log reads it without blanks around it and in lower
case. The two readings agree on every name the check lets through, because blank characters
lower-case to themselves: a text whose lower case is a level name holds no blank at all, so
stripping leaves it as it is (`strip_of_ofName?_lower`).

Hence an environment whose first non-empty level variable holds such a name asks the log for
that very level (`Environ.resolvedLevel_of_logLevel?`), and so does one where the name has
just been set under `CHECKPIPE_LOG_LEVEL` (`Environ.logLevel?_set_first`).

On the log's side, setting the program's logger up gives it the severity of the level named
(`Logging.configure_level`), and writing records leaves that severity alone
(`Logging.emit_level`).
-/

set_option autoImplicit false

namespace Preflight

namespace Text

/-- No run of the lower-case mapping reaches a blank character. -/
theorem lowerRuns_apart_blanks :
    ∀ r ∈ lowerRuns, ∀ x ∈ blankRanges, r.last < x.1 ∨ x.2 < r.first := by
  decide +kernel

theorem toNat_ne_of_isBlank {c : Char} (h : isBlank c = true) {n : Nat}
    (hn : inRangeList blankRanges n = false) : c.toNat ≠ n := by
  intro he
  unfold isBlank at h
  rw [he, hn] at h
  cases h

/-- A blank character is its own lower case. -/
theorem lowerChar_of_isBlank {c : Char} (h : isBlank c = true) : lowerChar c = [c] := by
  have hnone : lowerRuns.find? (fun r => r.covers c.toNat) = none := by
    rw [List.find?_eq_none]
    intro r hr hcov
    obtain ⟨x, hx, hin⟩ := List.any_eq_true.1 h
    simp only [CaseRun.covers, Bool.and_eq_true, decide_eq_true_eq] at hcov hin
    rcases lowerRuns_apart_blanks r hr x hx with hlt | hgt <;> omega
  have h130 : c.toNat ≠ 0x130 := toNat_ne_of_isBlank h (by decide)
  simp [lowerChar, h130, hnone]

/-- Lower-casing keeps every blank character of a text, whatever comes before it. -/
theorem mem_lowerAfter_of_isBlank {c : Char} (hc : isBlank c = true) :
    ∀ {before cs : List Char}, c ∈ cs → c ∈ lowerAfter before cs
  | _, [], h => nomatch h
  | before, d :: rest, h => by
    have hsigma : c.toNat ≠ 0x3A3 := toNat_ne_of_isBlank hc (by decide)
    unfold lowerAfter
    rcases List.mem_cons.1 h with rfl | hrest
    · simp [hsigma, lowerChar_of_isBlank hc]
    · exact List.mem_append_right _ (mem_lowerAfter_of_isBlank hc hrest)

theorem dropBlanks_of_forall {cs : List Char} (h : ∀ c ∈ cs, isBlank c = false) :
    dropBlanks cs = cs := by
  cases cs with
  | nil => rfl
  | cons c rest => simp [dropBlanks, h c List.mem_cons_self]

/-- A text with no blank in it strips to itself. -/
theorem stripList_of_forall {cs : List Char} (h : ∀ c ∈ cs, isBlank c = false) :
    stripList cs = cs := by
  have hrev : ∀ c ∈ cs.reverse, isBlank c = false := fun c hc => h c (List.mem_reverse.1 hc)
  rw [stripList, dropBlanks_of_forall h, dropBlanks_of_forall hrev, List.reverse_reverse]

end Text

namespace LogLevel

theorem ofName?_eq_some {s : String} {l : LogLevel} : ofName? s = some l ↔ l.name = s := by
  constructor
  · intro h
    simpa using List.find?_some h
  · rintro rfl
    exact ofName?_name l

theorem name_blank_free (l : LogLevel) : l.name.toList.all (fun c => !Text.isBlank c) = true := by
  cases l <;> decide

theorem ofName?_empty : ofName? "" = none := by decide

/-- A text whose lower case names a level has no blanks around it: the log, which strips the
name before lower-casing it, reads the same level as the check, which does not. -/
theorem strip_of_ofName?_lower {v : String} {l : LogLevel} (h : ofName? (Text.lower v) = some l) :
    Text.strip v = v := by
  have hname : Text.lowerAfter [] v.toList = l.name.toList := by
    rw [← String.toList_ofList (l := Text.lowerAfter [] v.toList)]
    exact congrArg String.toList (ofName?_eq_some.1 h).symm
  have hfree : ∀ c ∈ v.toList, Text.isBlank c = false := by
    intro c hc
    cases hb : Text.isBlank c with
    | false => rfl
    | true =>
      have hmem : c ∈ Text.lowerAfter [] v.toList := Text.mem_lowerAfter_of_isBlank hb hc
      rw [hname] at hmem
      simpa [hb] using List.all_eq_true.1 (name_blank_free l) c hmem
  rw [Text.strip, Text.stripList_of_forall hfree, String.ofList_toList]

/-- A text whose lower case names a level is not empty. -/
theorem ne_empty_of_ofName?_lower {v : String} {l : LogLevel}
    (h : ofName? (Text.lower v) = some l) : v ≠ "" := by
  rintro rfl
  have hlower : Text.lower "" = "" := by decide
  rw [hlower, ofName?_empty] at h
  cases h

end LogLevel

/-! ## The level an environment asks for -/

namespace Environ

theorem logLevelSet_of_logLevel? {e : Environ} {v : String} (h : e.logLevel? = some v) :
    e.logLevelSet = true := by
  obtain ⟨name, hmem, hv⟩ := List.exists_of_findSome?_eq_some h
  refine List.any_eq_true.2 ⟨name, hmem, ?_⟩
  unfold nonEmpty? at hv
  unfold has
  cases hget : e.get? name with
  | none => simp [hget] at hv
  | some _ => rfl

/-- The log reads a name that the check accepts as the level it names. -/
theorem resolvedLevel_of_logLevel? {e : Environ} {v : String} {l : LogLevel}
    (hv : e.logLevel? = some v) (hl : LogLevel.ofName? (Text.lower v) = some l) :
    e.resolvedLevel = l := by
  simp only [resolvedLevel, hv, LogLevel.strip_of_ofName?_lower hl, hl, Option.getD_some]

theorem resolvedLevel_of_logLevel?_none {e : Environ} (h : e.logLevel? = none) :
    e.resolvedLevel = LogLevel.standard := by
  rw [resolvedLevel, h]

theorem lookup_replace {n v : String} :
    ∀ {vars : List (String × String)}, (vars.lookup n).isSome = true →
      (vars.map (fun p => if p.1 == n then (n, v) else p)).lookup n = some v
  | [], h => nomatch h
  | (a, b) :: rest, h => by
    by_cases ha : a = n
    · subst ha
      simp
    · have hna : (n == a) = false := beq_false_of_ne (Ne.symm ha)
      rw [List.lookup_cons, hna] at h
      rw [List.map_cons, if_neg (by simpa using ha), List.lookup_cons, hna]
      exact lookup_replace h

theorem get?_set_self (e : Environ) (n v : String) : (e.set n v).get? n = some v := by
  unfold set
  split
  case isTrue hhas => exact lookup_replace hhas
  case isFalse hhas =>
    have hnone : e.vars.lookup n = none := Option.not_isSome_iff_eq_none.1 hhas
    simp [get?, List.lookup_append, hnone]

/-- A name set under the first level variable is the level asked for, unless it is empty. -/
theorem logLevel?_set_first (e : Environ) {v : String} (hv : v ≠ "") :
    (e.set "CHECKPIPE_LOG_LEVEL" v).logLevel? = some v := by
  have hne : (e.set "CHECKPIPE_LOG_LEVEL" v).nonEmpty? "CHECKPIPE_LOG_LEVEL" = some v := by
    simp [nonEmpty?, get?_set_self, hv]
  simp [logLevel?, levelVariables, hne]

end Environ

/-! ## The level of the program's logger -/

namespace Log.Logging

@[simp] theorem writeTo_level (l : Logging) (t : Target) (text : String) :
    (l.writeTo t text).level = l.level := by
  unfold writeTo
  split
  · rfl
  · split <;> rfl

/-- Writing a record leaves the level of the program's logger as it was. -/
@[simp] theorem emit_level (l : Logging) (clock : Clock) (logger : String) (severity : Nat)
    (msg : String) : (l.emit clock logger severity msg).level = l.level := by
  unfold emit
  dsimp only
  -- Whatever level the record is held against, it is written, or not, without touching it.
  generalize (if ownLogger logger && l.level != 0 then l.level else processLevel) = held
  split
  · rfl
  · split
    · exact writeTo_level _ _ _
    · split <;> rfl

theorem foldl_emit_level (clock : Clock) (logger : String) (severity : Nat) :
    ∀ (texts : List String) (l : Logging),
      (texts.foldl (fun acc text => acc.emit clock logger severity text) l).level = l.level
  | [], _ => rfl
  | text :: rest, l => by
    rw [List.foldl_cons, foldl_emit_level clock logger severity rest, emit_level]

theorem levelSeverity_name (l : LogLevel) : levelSeverity l.name = l.severity := by
  simp [levelSeverity, LogLevel.ofName?_name]

/-- Setting the program's logger up at a level gives it that level's severity, banner or
not. -/
theorem configure_level (l : Logging) (clock : Clock) (level execution : String) :
    (l.configure clock level execution).1.level = levelSeverity level := by
  unfold configure
  dsimp only
  split
  · rfl
  · simp only [foldl_emit_level]

end Log.Logging

end Preflight
