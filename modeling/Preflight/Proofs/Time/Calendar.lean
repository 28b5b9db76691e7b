import Preflight.Time.Civil

/-!
# Ordinals of dates

The date of an ordinal is found by cutting the count of days into cycles of four centuries,
centuries, four years and years, then walking the months of the year reached. This module
shows that the walk lands on a date of the calendar whose ordinal is the one it started from
(`ordinal_ofOrdinal`), and that the dates of the ordinals up to the last day of year 9999 pass
the calendar's own check (`make_ofOrdinal`).

A moment seen in UTC is built from its count of microseconds in the same way, so it is the
same instant (`Moment.instant_toUTC`), and for an instant from year 1 to year 9999 it is a
moment whose every field is in range (`Moment.inUTC_toUTC`).
-/

set_option autoImplicit false

namespace Preflight.Time

theorem isLeap_iff (y : Nat) : isLeap y = true ↔ y % 4 = 0 ∧ (y % 100 ≠ 0 ∨ y % 400 = 0) := by
  simp [isLeap]

theorem daysInMonth_pos (y m : Nat) : 0 < daysInMonth y m := by
  unfold daysInMonth
  split <;> (try split) <;> omega

theorem daysBeforeMonth_succ (y : Nat) {m : Nat} (hm : 1 ≤ m) :
    daysBeforeMonth y (m + 1) = daysBeforeMonth y m + daysInMonth y m := by
  obtain ⟨k, rfl⟩ : ∃ k, m = k + 1 := ⟨m - 1, by omega⟩
  simp [daysBeforeMonth, List.range_succ]

/-- The months of a year hold 366 days in a leap year and 365 in the others. -/
theorem daysBeforeMonth_thirteen (y : Nat) :
    daysBeforeMonth y 13 = if isLeap y then 366 else 365 := by
  cases h : isLeap y <;> simp [daysBeforeMonth, List.range_succ, daysInMonth, h]

theorem daysBeforeMonth_mono (y : Nat) {m m' : Nat} (hm : 1 ≤ m) (hle : m ≤ m') :
    daysBeforeMonth y m ≤ daysBeforeMonth y m' := by
  induction hle with
  | refl => exact Nat.le_refl _
  | @step k hk ih =>
    rw [daysBeforeMonth_succ y (Nat.le_trans hm hk)]
    omega

theorem walk_year (y : Nat) : ∀ (m left fuel : Nat), (Date.ofOrdinal.walk y m left fuel).year = y
  | _, _, 0 => rfl
  | m, left, fuel + 1 => by
    unfold Date.ofOrdinal.walk
    split
    · rfl
    · exact walk_year y _ _ fuel

/-- Walking the months from month `m`, with `left` days still to pass, reaches a day of a
month of the year, counted on from where the walk started. The walk has a month to spare as
long as the days still to pass end within the year. -/
theorem walk_spec (y : Nat) :
    ∀ (fuel m left : Nat), 1 ≤ m → 13 ≤ m + fuel →
      daysBeforeMonth y m + left < daysBeforeMonth y 13 →
      let d := Date.ofOrdinal.walk y m left fuel
      1 ≤ d.month ∧ d.month ≤ 12 ∧ 1 ≤ d.day ∧ d.day ≤ daysInMonth y d.month ∧
        daysBeforeMonth y d.month + d.day = daysBeforeMonth y m + left + 1
  | 0, m, left, hm, hfuel, hleft => by
    have := daysBeforeMonth_mono y (by omega : 1 ≤ 13) (by omega : 13 ≤ m)
    omega
  | fuel + 1, m, left, hm, hfuel, hleft => by
    have hle : m ≤ 12 := by
      rcases Nat.lt_or_ge m 13 with h | h
      · omega
      · have := daysBeforeMonth_mono y (by omega : 1 ≤ 13) h
        omega
    unfold Date.ofOrdinal.walk
    by_cases hin : left < daysInMonth y m
    · rw [if_pos hin]
      exact ⟨hm, hle, Nat.succ_pos left, hin, rfl⟩
    · -- the month is passed whole, and the walk goes on in the next one
      rw [if_neg hin]
      have hnext := daysBeforeMonth_succ y hm
      obtain ⟨h1, h12, hd1, hd, hsum⟩ :=
        walk_spec y fuel (m + 1) (left - daysInMonth y m) (by omega) (by omega) (by omega)
      exact ⟨h1, h12, hd1, hd, by omega⟩

theorem daysBeforeYear_eq (c400 c100 c4 c1 : Nat) (h100 : c100 ≤ 3) (h4 : c4 ≤ 24) (h1 : c1 ≤ 3) :
    daysBeforeYear (c400 * 400 + c100 * 100 + c4 * 4 + c1 + 1) =
      c400 * 146097 + c100 * 36524 + c4 * 1461 + c1 * 365 := by
  unfold daysBeforeYear
  dsimp only
  omega

/-- The year of the date of an ordinal, from the cycles of years the days before it fill. -/
theorem year_ofOrdinal (n : Nat) :
    (Date.ofOrdinal n).year =
      (n - 1) / 146097 * 400 + min ((n - 1) % 146097 / 36524) 3 * 100 +
        ((n - 1) % 146097 - min ((n - 1) % 146097 / 36524) 3 * 36524) / 1461 * 4 +
        min (((n - 1) % 146097 - min ((n - 1) % 146097 / 36524) 3 * 36524) % 1461 / 365) 3 + 1 :=
  walk_year _ _ _ _

/-- The date of an ordinal is a date of the calendar, and has that ordinal. -/
theorem ofOrdinal_spec {n : Nat} (hn : 1 ≤ n) :
    let d := Date.ofOrdinal n
    1 ≤ d.month ∧ d.month ≤ 12 ∧ 1 ≤ d.day ∧ d.day ≤ daysInMonth d.year d.month ∧
      d.ordinal = n := by
  have hy := year_ofOrdinal n
  unfold Date.ofOrdinal at hy ⊢
  dsimp only at hy ⊢
  generalize hc400 : (n - 1) / 146097 = c400 at hy ⊢
  generalize hr400 : (n - 1) % 146097 = r400 at hy ⊢
  generalize hc100 : min (r400 / 36524) 3 = c100 at hy ⊢
  generalize hr100 : r400 - c100 * 36524 = r100 at hy ⊢
  generalize hc4 : r100 / 1461 = c4 at hy ⊢
  generalize hr4 : r100 % 1461 = r4 at hy ⊢
  generalize hc1 : min (r4 / 365) 3 = c1 at hy ⊢
  generalize hdoy : r4 - c1 * 365 = doy at hy ⊢
  generalize hy' : c400 * 400 + c100 * 100 + c4 * 4 + c1 + 1 = y at hy ⊢
  -- the cycles and the day of the year add up to the ordinal
  have hsplit : n = c400 * 146097 + c100 * 36524 + c4 * 1461 + c1 * 365 + doy + 1 := by
    have hdiv := Nat.div_add_mod (n - 1) 146097
    omega
  have hyear : daysBeforeYear y = c400 * 146097 + c100 * 36524 + c4 * 1461 + c1 * 365 := by
    rw [← hy']
    exact daysBeforeYear_eq c400 c100 c4 c1 (by omega) (by omega) (by omega)
  -- only the last day of a cycle of four years is a 366th day, and that year is a leap year
  have hdays : doy < daysBeforeMonth y 13 := by
    rw [daysBeforeMonth_thirteen]
    split
    · omega
    · rename_i hl
      have : doy ≠ 365 := fun h => hl (by rw [isLeap_iff]; omega)
      omega
  have hfirst : daysBeforeMonth y 1 = 0 := rfl
  obtain ⟨h1, h12, hd1, hd, hsum⟩ :=
    walk_spec y 12 1 doy (Nat.le_refl 1) (by omega) (by omega)
  refine ⟨h1, h12, hd1, by rw [hy]; exact hd, ?_⟩
  show daysBeforeYear _ + daysBeforeMonth _ _ + _ = n
  generalize Date.ofOrdinal.walk y 1 doy 12 = d at hy hsum ⊢
  subst hy
  -- only the sums are needed now, not how the cycles were cut
  clear hc400 hr400 hc100 hr100 hc4 hr4 hc1 hdoy hdays hd
  omega

/-- The ordinal of 9999-12-31, the last day of the calendar. -/
def lastOrdinal : Nat := 3652059

theorem year_ofOrdinal_le {n : Nat} (hn : n ≤ lastOrdinal) : (Date.ofOrdinal n).year ≤ 9999 := by
  rw [year_ofOrdinal]
  unfold lastOrdinal at hn
  omega

theorem one_le_year_ofOrdinal (n : Nat) : 1 ≤ (Date.ofOrdinal n).year := by
  rw [year_ofOrdinal]
  omega

theorem ordinal_ofOrdinal {n : Nat} (hn : 1 ≤ n) : (Date.ofOrdinal n).ordinal = n :=
  (ofOrdinal_spec hn).2.2.2.2

/-- The date of an ordinal of the calendar passes the calendar's check. -/
theorem make_ofOrdinal {n : Nat} (hn : 1 ≤ n) (hlast : n ≤ lastOrdinal) :
    Date.make (Date.ofOrdinal n).year (Date.ofOrdinal n).month (Date.ofOrdinal n).day =
      .ok (Date.ofOrdinal n) := by
  obtain ⟨h1, h12, hd1, hd, -⟩ := ofOrdinal_spec hn
  have hy1 := one_le_year_ofOrdinal n
  have hy9999 := year_ofOrdinal_le hlast
  unfold Date.make
  simp only [Bool.or_eq_true, decide_eq_true_eq]
  rw [if_neg (by omega), if_neg (by omega), if_neg (by omega)]


/-! ## Moments in UTC -/

namespace Moment

/-- A moment in UTC whose every field is in range: what reading an ISO text can give. -/
structure InUTC (t : Moment) : Prop where
  date : Date.make t.date.year t.date.month t.date.day = .ok t.date
  hour : t.hour ≤ 23
  minute : t.minute ≤ 59
  second : t.second ≤ 59
  micro : t.micro ≤ 999999
  offset : t.offset = some 0

/-- The time of day of the moment a count of microseconds falls on is what is left of the
count after its whole days. -/
theorem timeOfDay_ofLocalMicros (us : Int) (offset : Option Int) :
    (ofLocalMicros us offset).timeOfDay = us.toNat % microsPerDay := by
  simp only [ofLocalMicros, timeOfDay, microsPerDay]
  omega

theorem localMicros_ofLocalMicros {us : Int} (h : 0 ≤ us) (offset : Option Int) :
    (ofLocalMicros us offset).localMicros = us := by
  have hdate : (ofLocalMicros us offset).date.ordinal = us.toNat / microsPerDay + 1 :=
    ordinal_ofOrdinal (Nat.succ_pos _)
  have htime := timeOfDay_ofLocalMicros us offset
  unfold localMicros
  rw [hdate, htime, Nat.add_sub_cancel, Nat.div_add_mod' us.toNat microsPerDay]
  omega

/-- Seen in UTC, a moment of the calendar is the same instant. -/
theorem instant_toUTC {t : Moment} (h : 0 ≤ t.instant) : t.toUTC.instant = t.instant := by
  have hlocal := localMicros_ofLocalMicros h (some 0)
  unfold toUTC
  rw [instant, hlocal]
  simp [ofLocalMicros]

/-- Seen in UTC, an instant from the start of year 1 to the end of year 9999 is a moment
whose every field is in range. -/
theorem inUTC_toUTC {t : Moment} (h0 : 0 ≤ t.instant)
    (h1 : t.instant < lastOrdinal * microsPerDay) : t.toUTC.InUTC := by
  have hdays : t.instant.toNat / microsPerDay + 1 ≤ lastOrdinal := by
    unfold lastOrdinal microsPerDay at *
    omega
  refine ⟨make_ofOrdinal (Nat.succ_pos _) hdays, ?_, ?_, ?_, ?_, rfl⟩ <;>
    simp only [toUTC, ofLocalMicros, microsPerDay] <;> omega

end Moment

end Preflight.Time
