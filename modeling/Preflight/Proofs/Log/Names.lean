import Preflight.Proofs.Log.Delivery
import Preflight.Proofs.Log.Prune
import Preflight.Proofs.Time.IsoText

/-!
# Log file names read back

The day's log file is named `checkpipe-` and the day stamp and `.log`, where the day stamp
writes the year as the C library's `%Y` writes it, with no zeros before it, and the month
and the day with two digits each. The pruning reads the date back with the `%Y-%m-%d`
pattern, whose year is exactly four digits.

So the two agree from the year 1000 on and nowhere before it: the name of a day of such a
year reads back as that day (`dayOfName_fileName`), and the name of a day of an earlier year
has a separator among its first four characters and reads as no date at all. The log file of
such a day is never pruned, however old it is (`expiredName_fileName`).
`log_names_read_back` puts this together with the file the sink opens on attaching
(`attach_opens_day_file`) and the outcome of a pruning (`prune_removes_expired`).
-/

set_option autoImplicit false

namespace Preflight.Log

open Preflight.Time
open Files (Tree isPlain)

/-! ## Decimal digits -/

/-- An ASCII digit has its usual value among the digits of every script. -/
theorem digitValue?_of_isDigit {c : Char} (h : c.isDigit = true) :
    Text.digitValue? c = some (c.toNat - 48) := by
  have hc : 48 ≤ c.toNat ∧ c.toNat ≤ 57 := by
    simp only [Char.isDigit, Bool.and_eq_true, decide_eq_true_eq] at h
    exact ⟨h.1, h.2⟩
  simp [Text.digitValue?, Text.digitZeros, show 48 ≤ c.toNat from hc.1, show c.toNat < 58 by omega]

/-- ASCII digits all read as digits, with their usual values. -/
theorem mapM_digitValue?_of_isDigit :
    ∀ {cs : List Char}, (∀ c ∈ cs, c.isDigit = true) →
      cs.mapM Text.digitValue? = some (cs.map (·.toNat - 48))
  | [], _ => rfl
  | c :: cs, h => by
    rw [List.mapM_cons, digitValue?_of_isDigit (h c List.mem_cons_self),
      mapM_digitValue?_of_isDigit fun c' hc' => h c' (List.mem_cons_of_mem _ hc')]
    rfl

/-- The digits of a number written in decimal all read as digits. -/
theorem mapM_digitValue?_toDigits (n : Nat) :
    (Nat.toDigits 10 n).mapM Text.digitValue? = some ((Nat.toDigits 10 n).map (·.toNat - 48)) :=
  mapM_digitValue?_of_isDigit fun _ hc => Nat.isDigit_of_mem_toDigits (by decide) (by decide) hc

/-- Folding the values of the decimal digits of a number gives the number back. -/
theorem foldl_toDigits (n : Nat) :
    ((Nat.toDigits 10 n).map (·.toNat - 48)).foldl (fun acc v => 10 * acc + v) 0 = n := by
  rw [List.foldl_map]
  exact Nat.ofDigitChars_ten_toDigits

/-- A year from 1000 to 9999 is written with four digits. -/
theorem length_toDigits_of_four {y : Nat} (h1 : 1000 ≤ y) (h2 : y < 10000) :
    (Nat.toDigits 10 y).length = 4 := by
  have hle := (Nat.length_toDigits_le_iff (b := 10) (n := y) (k := 4) (by decide) (by decide)).2
    (by simpa using h2)
  have hgt : ¬ (Nat.toDigits 10 y).length ≤ 3 := fun h =>
    absurd ((Nat.length_toDigits_le_iff (b := 10) (by decide) (by decide)).1 h) (by simp; omega)
  omega

/-- A year before 1000 is written with fewer than four digits. -/
theorem length_toDigits_lt_four {y : Nat} (h : y < 1000) : (Nat.toDigits 10 y).length < 4 := by
  have hle := (Nat.length_toDigits_le_iff (b := 10) (n := y) (k := 3) (by decide) (by decide)).2
    (by simpa using h)
  omega

/-! ## The parts of a day stamp -/

/-- A checked date has its fields in range. -/
theorem make_bounds {y m dd : Nat} {d : Date} (h : Date.make y m dd = .ok d) :
    1 ≤ d.year ∧ d.year ≤ 9999 ∧ 1 ≤ d.month ∧ d.month ≤ 12 ∧ 1 ≤ d.day ∧ d.day ≤ 31 := by
  unfold Date.make at h
  split at h
  · contradiction
  split at h
  · contradiction
  split at h
  · contradiction
  rename_i hy hm hd
  cases h
  simp only [Bool.or_eq_true, decide_eq_true_eq, not_or, Nat.not_lt] at hy hm hd
  have : daysInMonth y m ≤ 31 := by
    unfold daysInMonth
    split <;> (try split) <;> omega
  exact ⟨hy.1, hy.2, hm.1, hm.2, hd.1, show dd ≤ 31 by omega⟩

/-- A month written with two digits and followed by a dash reads back. -/
theorem readMonth_padded {m : Nat} (h1 : 1 ≤ m) (h2 : m ≤ 12) (rest : List Char) :
    readMonth ((digitsOf 2 m).map Nat.digitChar ++ '-' :: rest) = some (m, rest) := by
  interval_cases m <;> rfl

/-- A day of the month written with two digits reads back. -/
theorem readDayOfMonth_padded {d : Nat} (h1 : 1 ≤ d) (h2 : d ≤ 31) :
    readDayOfMonth ((digitsOf 2 d).map Nat.digitChar) = some d := by
  interval_cases d <;> rfl

/-- The characters of a day stamp: the year's own digits, then the month and the day with two
digits each, after dashes. -/
theorem dayStamp_toList {d : Date} (hm : d.month < 100) (hd : d.day < 100) :
    d.dayStamp.toList = Nat.toDigits 10 d.year ++
      '-' :: ((digitsOf 2 d.month).map Nat.digitChar ++ '-' :: (digitsOf 2 d.day).map Nat.digitChar) := by
  simp [Date.dayStamp, padNat_toList (w := 2) (by decide) (show d.month < 10 ^ 2 by omega),
    padNat_toList (w := 2) (by decide) (show d.day < 10 ^ 2 by omega)]

/-! ## Reading a day stamp back -/

/-- The stamp of a date of a year from 1000 on reads back as the date. -/
theorem readDay_dayStamp {d : Date} (hd : Date.make d.year d.month d.day = .ok d)
    (hy : 1000 ≤ d.year) : readDay d.dayStamp = some d := by
  obtain ⟨-, hy₂, hm₁, hm₂, hd₁, hd₂⟩ := make_bounds hd
  have hlen := length_toDigits_of_four hy (by omega)
  unfold readDay
  dsimp only
  rw [dayStamp_toList (by omega) (by omega), List.take_left' hlen, List.drop_left' hlen,
    mapM_digitValue?_toDigits]
  simp only [Option.bind_eq_bind, Option.bind_some, List.length_map, hlen, bne_self_eq_false,
    Bool.false_eq_true, if_false, foldl_toDigits, readMonth_padded hm₁ hm₂,
    readDayOfMonth_padded hd₁ hd₂, hd]

/-- The stamp of a date of a year before 1000 has a dash among its first four characters, so
it reads as no date. -/
theorem readDay_dayStamp_short {d : Date} (hm : d.month < 100) (hd : d.day < 100)
    (hy : d.year < 1000) : readDay d.dayStamp = none := by
  obtain ⟨k, hk⟩ : ∃ k, 4 - (Nat.toDigits 10 d.year).length = k + 1 :=
    ⟨_, (Nat.succ_pred_eq_of_pos (by have := length_toDigits_lt_four hy; omega)).symm⟩
  -- the first four characters are the year's digits, a dash and what follows it
  have htake : d.dayStamp.toList.take 4 = Nat.toDigits 10 d.year ++ '-' ::
      ((digitsOf 2 d.month).map Nat.digitChar ++ '-' :: (digitsOf 2 d.day).map Nat.digitChar).take k := by
    rw [dayStamp_toList hm hd, List.take_append, List.take_of_length_le (by omega), hk,
      List.take_succ_cons]
  unfold readDay
  dsimp only
  rw [htake, List.mapM_append, mapM_digitValue?_toDigits, List.mapM_cons,
    show Text.digitValue? '-' = none by decide]
  rfl

/-- The date in a name made of the prefix, a text and the suffix is the date the text reads as. -/
theorem dayOfName_wrap (s : String) : dayOfName (filePrefix ++ s ++ fileSuffix) = readDay s := by
  have hp : filePrefix.length = 10 := rfl
  have hs : fileSuffix.length = 4 := rfl
  unfold dayOfName
  rw [hp, String.length_append, String.length_append, hp, hs]
  simp only [String.toList_append, List.append_assoc]
  rw [show filePrefix.toList = filePrefix.toList.take 10 from rfl,
    List.drop_left' (by rfl), show 10 + s.length + 4 - 10 - 4 = s.length by omega,
    List.take_left' String.length_toList, String.ofList_toList]

/-- The name of a day's log file reads back as the day when its year has four digits, and
as no date before the year 1000. -/
theorem dayOfName_fileName {d : Date} (hd : Date.make d.year d.month d.day = .ok d) :
    dayOfName (fileName d) = if 1000 ≤ d.year then some d else none := by
  obtain ⟨-, -, -, hm₂, -, hd₂⟩ := make_bounds hd
  rw [fileName, dayOfName_wrap]
  split
  case isTrue hy => exact readDay_dayStamp hd hy
  case isFalse hy => exact readDay_dayStamp_short (by omega) (by omega) (by omega)

/-- Every day's log file name has the shape the pruning looks for. -/
theorem isLogName_fileName (d : Date) : isLogName (fileName d) = true := by
  have hstart : (fileName d).startsWith filePrefix = true := by
    rw [String.startsWith_string_iff, fileName, String.toList_append, String.toList_append,
      List.append_assoc]
    exact List.prefix_append _ _
  have hend : (fileName d).endsWith fileSuffix = true := by
    rw [← String.endsWith_toSlice, String.Slice.endsWith_string_iff, fileName]
    simp only [String.copy_toSlice, String.toList_append]
    exact List.suffix_append _ _
  have hlen : filePrefix.length + fileSuffix.length ≤ (fileName d).length := by
    simp [fileName, String.length_append]
  simp [isLogName, hstart, hend, hlen]

/-- The pruning finds the log file of a day stale exactly when the day's year has four digits
and the day lies more than the retention before today. -/
theorem expiredName_fileName {d : Date} (hd : Date.make d.year d.month d.day = .ok d)
    (today : Date) :
    expiredName today (fileName d) = true ↔
      1000 ≤ d.year ∧ d.ordinal + retentionDays < today.ordinal := by
  rw [expiredName_iff, dayOfName_fileName hd]
  split
  case isTrue hy => simp [hy]
  case isFalse hy => simp [hy]

/-! ## The file a sink opens -/

/-- Attaching a sink that is not attached yet, on a day, opens that day's log file in the log
directory: a file one level below the directory. -/
theorem attach_opens_day_file {l l' : Logging} {clock : Clock} {dir path : String}
    (ht : l.tree.Proper) (hdir : isPlain dir = true) (hs : l.sink.logFile = none)
    (h : (attach clock dir).run.run l = (.ok path, l')) :
    path = Files.join dir (fileName clock.today) ∧
      ∃ bs, l'.tree.find? (l'.tree.resolve dir ++ [fileName clock.today]) = some (.file bs) := by
  rw [attach_of_unattached hs] at h
  split at h
  · cases h
  rename_i p t ha
  cases h
  obtain ⟨rfl, -, hcwd, hfind⟩ := attachFiles_eq_ok ht hdir ha
  -- the files keep their working directory, so the log directory resolves as before
  have hres : t.resolve dir = l.tree.resolve dir := by
    unfold Tree.resolve
    rw [hcwd]
  refine ⟨rfl, ?_⟩
  show ∃ bs, t.find? (t.resolve dir ++ [fileName clock.today]) = some (.file bs)
  rw [hres, ← l.tree.resolve_join hdir (isName_fileName _)]
  exact ⟨_, hfind⟩

/-! ## Pruning a day's log file -/

/-- The log file of a day is removed by a pruning that is not cancelled, and in which no stale
name is a directory, exactly when its day's year has four digits and the day lies more than
the retention before today; nothing else changes but the removal of the stale files. -/
theorem prune_day_file {d : Date} (hd : Date.make d.year d.month d.day = .ok d) {t : Tree}
    {dir : String} {bs : List UInt8} (today : Date) (ht : t.Proper) (hdir : isPlain dir = true)
    (hfile : t.find? (t.resolve dir ++ [fileName d]) = some (.file bs))
    (hstale : ∀ n ∈ staleNames today (logNames t dir) (logNames t dir).length,
      t.find? (t.resolve dir ++ [n]) ≠ some .dir) :
    ∃ removed, (prune dir today false).run t =
        (.ok removed, t.without (removed.map (t.resolve dir ++ [·]))) ∧
      (fileName d ∈ removed ↔ 1000 ≤ d.year ∧ d.ordinal + retentionDays < today.ordinal) := by
  obtain ⟨hmem, -, -, hok, -⟩ := prune_removes_expired ht hdir today (fun _ => false)
    (logNames t dir).length (fun _ _ => rfl) (fun h => absurd h (Nat.lt_irrefl _))
  -- the day's file is among the names the pruning looks at
  have hlisted : fileName d ∈ logNames t dir := by
    have hisdir := (ht.isDir_iff hdir).2 (ht.dir_of_prefix hfile (by simp))
    exact (hmem _).2 ⟨hisdir, isLogName_fileName d, _, hfile⟩
  refine ⟨_, hok hstale, ?_⟩
  rw [staleNames, List.take_length, List.mem_filter, ← expiredName_fileName hd today]
  exact ⟨fun h => h.2, fun h => ⟨hlisted, h⟩⟩

/-- The log writer and the pruner agree on the names of days from the year 1000 on, and only
there. The name of a checked day's log file reads back as that day when the year has four
digits, and as no date before the year 1000, whose year is written with fewer digits.
Attaching a sink on a day opens that day's file in the log directory. A pruning of the
directory that is not cancelled, and in which no stale name is a directory, removes the file
of a day exactly when the year has four digits and the day lies more than seven days before
today: the file of a day before the year 1000 is never removed. -/
theorem log_names_read_back {d : Date} (hd : Date.make d.year d.month d.day = .ok d) :
    dayOfName (fileName d) = (if 1000 ≤ d.year then some d else none) ∧
    (∀ {l l' : Logging} {clock : Clock} {dir path : String}, clock.today = d →
      l.tree.Proper → isPlain dir = true → l.sink.logFile = none →
      (attach clock dir).run.run l = (.ok path, l') →
      path = Files.join dir (fileName d) ∧
        ∃ bs, l'.tree.find? (l'.tree.resolve dir ++ [fileName d]) = some (.file bs)) ∧
    ∀ {t : Tree} {dir : String} {bs : List UInt8} (today : Date), t.Proper → isPlain dir = true →
      t.find? (t.resolve dir ++ [fileName d]) = some (.file bs) →
      (∀ n ∈ staleNames today (logNames t dir) (logNames t dir).length,
        t.find? (t.resolve dir ++ [n]) ≠ some .dir) →
      ∃ removed, (prune dir today false).run t =
          (.ok removed, t.without (removed.map (t.resolve dir ++ [·]))) ∧
        (fileName d ∈ removed ↔ 1000 ≤ d.year ∧ d.ordinal + retentionDays < today.ordinal) := by
  refine ⟨dayOfName_fileName hd, fun hday ht hdir hs h => ?_,
    fun today ht hdir hfile hstale => prune_day_file hd today ht hdir hfile hstale⟩
  subst hday
  exact attach_opens_day_file ht hdir hs h

theorem log_names_read_back_sample :
    Date.make 2026 1 7 = .ok ⟨2026, 1, 7⟩ ∧ dayOfName (fileName ⟨2026, 1, 7⟩) = some ⟨2026, 1, 7⟩ := by
  have hd : Date.make 2026 1 7 = .ok ⟨2026, 1, 7⟩ := by decide
  exact ⟨hd, (log_names_read_back hd).1⟩

/-- A log directory holding the log file of the last day of the year 999. -/
def ancientLogs : Tree where
  entries := [([], .dir), (["logs"], .dir), (["logs", "checkpipe-999-12-31.log"], .file [])]

/-- The log file of 999-12-31 is named with a three-digit year, and a pruning on 2026-01-15,
long after its retention, keeps it. -/
theorem prune_keeps_three_digit_year :
    fileName ⟨999, 12, 31⟩ = "checkpipe-999-12-31.log" ∧
      (prune "/logs" ⟨2026, 1, 15⟩ false).run ancientLogs = (.ok [], ancientLogs) := by
  decide +kernel

end Preflight.Log
