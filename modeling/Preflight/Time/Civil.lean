/-!
# Civil dates and moments

Dates of the proleptic Gregorian calendar from year 1 to 9999, times of day to the
microsecond, and moments that may carry a fixed offset from UTC. A date is numbered by its
ordinal, the count of days with 0001-01-01 as day 1; a moment with an offset is placed on
one time line by its microseconds since 0001-01-01T00:00 UTC.
-/

set_option autoImplicit false

namespace Preflight.Time

/-- A calendar date. -/
structure Date where
  /-- The year, 1 to 9999 when valid. -/
  year : Nat
  /-- The month, 1 to 12 when valid. -/
  month : Nat
  /-- The day of the month. -/
  day : Nat
  deriving DecidableEq, Repr

/-- Whether a year has a 29th of February. -/
def isLeap (y : Nat) : Bool := y % 4 == 0 && (y % 100 != 0 || y % 400 == 0)

/-- The number of days of a month. -/
def daysInMonth (y m : Nat) : Nat :=
  match m with
  | 2 => if isLeap y then 29 else 28
  | 4 | 6 | 9 | 11 => 30
  | _ => 31

/-- Why a year, month and day do not name a date. -/
inductive DateFault where
  | yearOutOfRange (year : Nat)
  | monthOutOfRange
  | dayOutOfRange
  deriving DecidableEq, Repr

/-- The wording of a date fault. -/
def DateFault.message : DateFault → String
  | .yearOutOfRange y => s!"year {y} is out of range"
  | .monthOutOfRange => "month must be in 1..12"
  | .dayOutOfRange => "day is out of range for month"

/-- Checks that a year, month and day name a date. -/
def Date.make (y m d : Nat) : Except DateFault Date :=
  if y < 1 || y > 9999 then .error (.yearOutOfRange y)
  else if m < 1 || m > 12 then .error .monthOutOfRange
  else if d < 1 || d > daysInMonth y m then .error .dayOutOfRange
  else .ok ⟨y, m, d⟩

/-- Days in the years before year `y`. -/
def daysBeforeYear (y : Nat) : Nat :=
  let k := y - 1
  k * 365 + k / 4 - k / 100 + k / 400

/-- Days in the months of year `y` before month `m`. -/
def daysBeforeMonth (y m : Nat) : Nat :=
  (List.range (m - 1)).foldl (fun acc i => acc + daysInMonth y (i + 1)) 0

/-- The ordinal of a date: 0001-01-01 is day 1. -/
def Date.ordinal (d : Date) : Nat :=
  daysBeforeYear d.year + daysBeforeMonth d.year d.month + d.day

/-- The date of an ordinal (day 1 is 0001-01-01). -/
def Date.ofOrdinal (n : Nat) : Date :=
  -- four-century cycles have 146097 days
  let n0 := n - 1
  let c400 := n0 / 146097
  let r400 := n0 % 146097
  let c100 := min (r400 / 36524) 3
  let r100 := r400 - c100 * 36524
  let c4 := r100 / 1461
  let r4 := r100 % 1461
  let c1 := min (r4 / 365) 3
  let dayOfYear := r4 - c1 * 365
  let year := c400 * 400 + c100 * 100 + c4 * 4 + c1 + 1
  let rec walk (m : Nat) (left : Nat) (fuel : Nat) : Date :=
    match fuel with
    | 0 => ⟨year, m, left + 1⟩
    | fuel + 1 =>
      if left < daysInMonth year m then ⟨year, m, left + 1⟩
      else walk (m + 1) (left - daysInMonth year m) fuel
  walk 1 dayOfYear 12

/-- The weekday of a date, Monday = 0 to Sunday = 6. -/
def Date.weekday (d : Date) : Nat := (d.ordinal + 6) % 7

/-- Writes a number with at least `width` digits. -/
def padNat (width : Nat) (n : Nat) : String :=
  let s := toString n
  String.ofList (List.replicate (width - s.length) '0') ++ s

/-- The ISO text of a date, `YYYY-MM-DD`. -/
def Date.iso (d : Date) : String :=
  padNat 4 d.year ++ "-" ++ padNat 2 d.month ++ "-" ++ padNat 2 d.day

/-- The text of a date in the `%Y-%m-%d` pattern of the C library: the year is not padded. -/
def Date.dayStamp (d : Date) : String :=
  toString d.year ++ "-" ++ padNat 2 d.month ++ "-" ++ padNat 2 d.day

/-- Microseconds in a day. -/
def microsPerDay : Nat := 86400000000

/-- A date with a time of day and, when it is aware, a fixed offset east of UTC. -/
structure Moment where
  /-- The calendar date. -/
  date : Date
  /-- Hour, 0 to 23. -/
  hour : Nat
  /-- Minute, 0 to 59. -/
  minute : Nat
  /-- Second, 0 to 59. -/
  second : Nat
  /-- Microsecond, 0 to 999999. -/
  micro : Nat
  /-- The offset east of UTC in microseconds, or `none` for a naive moment. -/
  offset : Option Int
  deriving DecidableEq, Repr

/-- Microseconds since the start of the moment's own date. -/
def Moment.timeOfDay (t : Moment) : Nat :=
  ((t.hour * 60 + t.minute) * 60 + t.second) * 1000000 + t.micro

/-- Microseconds since 0001-01-01T00:00 in the moment's own clock. -/
def Moment.localMicros (t : Moment) : Int :=
  ((t.date.ordinal - 1) * microsPerDay + t.timeOfDay : Nat)

/-- Microseconds since 0001-01-01T00:00 UTC; a naive moment counts as UTC. -/
def Moment.instant (t : Moment) : Int :=
  t.localMicros - t.offset.getD 0

/-- The moment at a local count of microseconds, with the given offset. -/
def Moment.ofLocalMicros (us : Int) (offset : Option Int) : Moment :=
  let n := us.toNat
  let days := n / microsPerDay
  let rest := n % microsPerDay
  { date := Date.ofOrdinal (days + 1), hour := rest / 3600000000,
    minute := rest / 60000000 % 60, second := rest / 1000000 % 60,
    micro := rest % 1000000, offset := offset }

/-- The ordinal of 1970-01-01, where Unix time starts. -/
def unixEpochOrdinal : Nat := 719163

/-- The moment, in UTC, a number of microseconds after the start of 1970-01-01 UTC. -/
def Moment.ofUnixMicros (us : Int) : Moment :=
  Moment.ofLocalMicros (((unixEpochOrdinal - 1) * microsPerDay : Nat) + us) (some 0)

/-- The same instant seen in UTC. -/
def Moment.toUTC (t : Moment) : Moment :=
  Moment.ofLocalMicros t.instant (some 0)

/-- A naive moment read as UTC; an aware moment is kept. -/
def Moment.assumeUTC (t : Moment) : Moment :=
  match t.offset with
  | none => { t with offset := some 0 }
  | some _ => t

/-- Midnight at the start of a date, naive. -/
def Date.atMidnight (d : Date) : Moment := ⟨d, 0, 0, 0, 0, none⟩

/-- The text of an offset: `+HH:MM`, then `:SS` and `.ffffff` when they are not zero. -/
def offsetText (us : Int) : String :=
  let sign := if us < 0 then "-" else "+"
  let a := us.natAbs
  let hh := a / 3600000000
  let mm := a / 60000000 % 60
  let ss := a / 1000000 % 60
  let ff := a % 1000000
  let base := sign ++ padNat 2 hh ++ ":" ++ padNat 2 mm
  if ss == 0 && ff == 0 then base
  else if ff == 0 then base ++ ":" ++ padNat 2 ss
  else base ++ ":" ++ padNat 2 ss ++ "." ++ padNat 6 ff

/-- The ISO text of a moment, with `sep` between date and time. -/
def Moment.isoWith (t : Moment) (sep : String) : String :=
  let clock := padNat 2 t.hour ++ ":" ++ padNat 2 t.minute ++ ":" ++ padNat 2 t.second
  let frac := if t.micro == 0 then "" else "." ++ padNat 6 t.micro
  let off := match t.offset with
    | none => ""
    | some us => offsetText us
  t.date.iso ++ sep ++ clock ++ frac ++ off

/-- The ISO text of a moment, with `T` between date and time. -/
def Moment.iso (t : Moment) : String := t.isoWith "T"

theorem ordinal_unix_epoch : (Date.mk 1970 1 1).ordinal = unixEpochOrdinal := by decide

theorem ordinal_first_day : (Date.mk 1 1 1).ordinal = 1 := by decide

end Preflight.Time
