import Preflight.Time.Civil

/-!
# Reading ISO 8601 moments

A moment is read from the bytes of its UTF-8 text. The date comes first, in one of the
forms `YYYY-MM-DD`, `YYYYMMDD`, `YYYY-Www-D`, `YYYYWwwD`, `YYYY-Www` or `YYYYWww`; where it
ends decides where the separator is. Any one character may separate date and time. The time is
`HH[:MM[:SS]]` or `HHMMSS` with an optional fraction after `.` or `,` (digits past the sixth
are ignored), followed by `Z` or a signed offset in the same form. Reading past the end of
the text sees a zero byte, which is never a digit. A text that names no valid date, time or
offset (an offset must lie strictly within one day) reads as nothing.
-/

set_option autoImplicit false

namespace Preflight.Time.Iso

/-- The byte at position `i`, or zero past the end. -/
def byteAt (bs : Array UInt8) (i : Nat) : UInt8 := bs.getD i 0

/-- Whether a byte is an ASCII digit. -/
def isDigitByte (b : UInt8) : Bool := 48 ≤ b && b ≤ 57

/-- Reads `n` ASCII digits at position `i`: their value and the position after them. -/
def readDigits (bs : Array UInt8) (i n : Nat) : Option (Nat × Nat) :=
  go i n 0
where
  /-- Reads `k` more digits at `j` onto the value `acc`. -/
  go (j k acc : Nat) : Option (Nat × Nat) :=
    match k with
    | 0 => some (acc, j)
    | k + 1 =>
      let b := byteAt bs j
      if isDigitByte b then go (j + 1) k (acc * 10 + (b.toNat - 48)) else none

/-- Skips ASCII digits from position `i`. -/
def skipDigits (bs : Array UInt8) (i : Nat) : Nat :=
  go i (bs.size + 1)
where
  /-- Skips digits at `j` with `fuel` steps left. -/
  go (j fuel : Nat) : Nat :=
    match fuel with
    | 0 => j
    | fuel + 1 => if isDigitByte (byteAt bs j) then go (j + 1) fuel else j

/-- Where the date ends and the separator stands, decided by the shape of the date. -/
def separatorAt (bs : Array UInt8) : Nat :=
  let len := bs.size
  let dash : UInt8 := 45
  let week : UInt8 := 87
  if len == 7 then 7
  else if byteAt bs 4 == dash then
    if byteAt bs 5 == week then
      if len > 8 && byteAt bs 8 == dash then
        if len > 10 && isDigitByte (byteAt bs 10) then 8 else 10
      else 8
    else 10
  else if byteAt bs 4 == week then
    let idx := skipDigits bs 7
    if idx < 9 then idx else if idx % 2 == 0 then 7 else 8
  else 8

/-- The ordinal of the Monday of week 1 of an ISO year. -/
def weekOneMonday (year : Nat) : Int :=
  let first := (Date.mk year 1 1).ordinal
  let wd := (first + 6) % 7
  (first : Int) - wd + (if wd > 3 then 7 else 0)

/-- The date of an ISO year, week and weekday. Year 0 has no weeks: all of them would fall
before the first day of the calendar. -/
def ofWeekDate (year week day : Nat) : Option Date :=
  let weekOk := year != 0 &&
    (if 0 < week && week < 53 then true
    else if week == 53 then
      let wd := ((Date.mk year 1 1).ordinal + 6) % 7
      wd == 3 || (wd == 2 && isLeap year)
    else false)
  if !weekOk then none
  else if day == 0 || day ≥ 8 then none
  else
    let ord := weekOneMonday year + ((week - 1) * 7 + day - 1 : Nat)
    if ord < 1 then none else some (Date.ofOrdinal ord.toNat)

/-- Reads the date part that ends at `sep`: year, month and day, not yet checked. -/
def readDate (bs : Array UInt8) (sep : Nat) : Option (Nat × Nat × Nat) := do
  let (year, p) ← readDigits bs 0 4
  let dashed := byteAt bs p == 45
  let p := if dashed then p + 1 else p
  if byteAt bs p == 87 then
    let (week, q) ← readDigits bs (p + 1) 2
    if q < sep then
      let q ← if dashed then (if byteAt bs q == 45 then some (q + 1) else none) else some q
      let (day, _) ← readDigits bs q 1
      let d ← ofWeekDate year week day
      pure (d.year, d.month, d.day)
    else
      let d ← ofWeekDate year week 1
      pure (d.year, d.month, d.day)
  else
    let (month, q) ← readDigits bs p 2
    let q ← if dashed then (if byteAt bs q == 45 then some (q + 1) else none) else some q
    let (day, _) ← readDigits bs q 2
    pure (year, month, day)

/-- A time of day as read: hours, minutes, seconds and microseconds. -/
structure Clock where
  /-- Hours. -/
  hour : Nat := 0
  /-- Minutes. -/
  minute : Nat := 0
  /-- Seconds. -/
  second : Nat := 0
  /-- Microseconds. -/
  micro : Nat := 0

/-- How reading a clock ended. -/
inductive ClockEnd where
  /-- The clock ended the text. -/
  | atEnd
  /-- More text follows the clock. -/
  | more
  /-- The clock is malformed. -/
  | bad

/-- Sets the `i`-th field (hour, minute, second) of a clock. -/
def Clock.setField (c : Clock) (i v : Nat) : Clock :=
  match i with
  | 0 => { c with hour := v }
  | 1 => { c with minute := v }
  | _ => { c with second := v }

/-- Multiplier that turns a fraction of `k` digits (`k < 6`) into microseconds. -/
def fractionScale (k : Nat) : Nat := Nat.pow 10 (6 - k)

/-- Reads the fraction at `p` of a clock whose text ends at `stop`. -/
def readFraction (bs : Array UInt8) (c : Clock) (p stop : Nat) : ClockEnd × Clock :=
  let left := stop - p
  let take := min left 6
  match readDigits bs p take with
  | none => (.bad, c)
  | some (v, q) =>
    let us := if take < 6 then v * fractionScale take else v
    let r := skipDigits bs q
    ((if byteAt bs r != 0 then .more else .atEnd), { c with micro := us })

/-- Reads `HH[:MM[:SS[.ffffff]]]` (or the same without colons) from `p`, for a clock whose text
ends at `stop`. -/
def readClock (bs : Array UInt8) (p stop : Nat) : ClockEnd × Clock :=
  go 0 p true {}
where
  /-- Reads field `i` at position `q`; `colons` tells whether the fields are separated. -/
  go (i q : Nat) (colons : Bool) (c : Clock) : ClockEnd × Clock :=
    if i ≥ 3 then readFraction bs c q stop
    else
      match readDigits bs q 2 with
      | none => (.bad, c)
      | some (v, q') =>
        let c := c.setField i v
        let ch := byteAt bs q'
        let next := q' + 1
        let colons := if i == 0 then ch == 58 else colons
        if next ≥ stop then ((if ch != 0 then .more else .atEnd), c)
        else if colons && ch == 58 then go (i + 1) next colons c
        else if ch == 46 || ch == 44 then readFraction bs c next stop
        else if !colons then go (i + 1) q' colons c
        else (.bad, c)
  termination_by 3 - i

/-- The first position from `start` (the first one checked even when the time is empty) that
holds `Z`, `+` or `-`, or `stop` (or `start + 1`) when there is none. -/
def zoneAt (bs : Array UInt8) (start stop : Nat) : Nat :=
  go start (stop + 1)
where
  /-- Looks at position `j` with `fuel` steps left. -/
  go (j fuel : Nat) : Nat :=
    let b := byteAt bs j
    if b == 90 || b == 43 || b == 45 then j
    else
      match fuel with
      | 0 => j + 1
      | fuel + 1 => if j + 1 < stop then go (j + 1) fuel else j + 1

/-- Reads the time part from `start` to the end: the clock and the offset in microseconds. -/
def readTime (bs : Array UInt8) (start : Nat) : Option (Clock × Option Int) :=
  let stop := bs.size
  let z := zoneAt bs start stop
  match readClock bs start z with
  | (.bad, _) => none
  | (ended, clock) =>
    if z == stop then
      match ended with
      | .more => none
      | _ => some (clock, none)
    else if byteAt bs z == 90 then
      if byteAt bs (z + 1) != 0 then none else some (clock, some 0)
    else
      let sign : Int := if byteAt bs z == 45 then -1 else 1
      match readClock bs (z + 1) stop with
      | (.atEnd, tz) =>
        let secs : Int := sign * (tz.hour * 3600 + tz.minute * 60 + tz.second : Nat)
        if secs == 0 then some (clock, some 0)
        else some (clock, some (secs * 1000000 + sign * (tz.micro : Int)))
      | _ => none

/-- Checks the fields of a moment and builds it. -/
def build (y m d : Nat) (c : Clock) (offset : Option Int) : Option Moment :=
  match Date.make y m d with
  | .error _ => none
  | .ok date =>
    if c.hour > 23 || c.minute > 59 || c.second > 59 || c.micro > 999999 then none
    else
      match offset with
      | some us =>
        if us ≤ -(microsPerDay : Int) || us ≥ (microsPerDay : Int) then none
        else some ⟨date, c.hour, c.minute, c.second, c.micro, offset⟩
      | none => some ⟨date, c.hour, c.minute, c.second, c.micro, none⟩

/-- The number of bytes of the UTF-8 character that starts with byte `b`. -/
def charWidth (b : UInt8) : Nat :=
  if b < 0x80 then 1 else if b < 0xE0 then 2 else if b < 0xF0 then 3 else 4

/-- Reads an ISO 8601 moment; a text that is not one reads as `none`. The separator is one
character, of any width. -/
def parseMoment (s : String) : Option Moment :=
  let bs := s.toUTF8.data
  let sep := separatorAt bs
  match readDate bs sep with
  | none => none
  | some (y, m, d) =>
    if bs.size > sep then
      match readTime bs (sep + charWidth (byteAt bs sep)) with
      | none => none
      | some (c, off) => build y m d c off
    else build y m d {} none

/-- Reads an ISO 8601 moment from a text given by code points, which may hold lone
surrogates. A lone surrogate where the separator may stand (the 8th, 9th or 11th character,
the first of these that holds one) reads as `T`; any other lone surrogate makes the text
unreadable. -/
def parsePoints (ps : List Nat) : Option Moment :=
  let isLone (n : Nat) : Bool := 0xD800 ≤ n && n ≤ 0xDFFF
  let ps := match [7, 8, 10].find? (fun i => (ps[i]?).any isLone) with
    | some i => ps.set i 84
    | none => ps
  if ps.any isLone then none else parseMoment (String.ofList (ps.map Char.ofNat))

end Preflight.Time.Iso
