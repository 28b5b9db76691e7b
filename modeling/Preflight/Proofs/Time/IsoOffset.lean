import Preflight.Proofs.Time.IsoText

/-!
# Reading back the ISO text of an aware moment

A moment with an offset is written as its clock (`Moment.clockBytes`) and then its offset as
`+HH:MM`, with `:SS` and `.ffffff` when they are not zero (`offsetBytes`). Reading the offset
back gives its hours, minutes, seconds and microseconds, but the reader keeps the
microseconds only when the whole seconds are not zero: an offset of less than a second either
way reads as UTC (`offsetRead`). So the text of a moment whose fields are in range reads back
as the same moment with its offset read so (`Moment.Aware`, `parseMoment_iso_aware`), which
is the moment itself exactly when its offset is zero or at least a second.

The reader gives no other offsets: every moment read from a text, a naive one taken as UTC,
has its fields in range and an offset that reads back as itself (`Iso.aware_of_parseMoment`).
-/

set_option autoImplicit false

namespace Preflight.Time

/-- A moment with offset `o` whose text can be read: its fields in range and its offset less
than a day either way. -/
structure Moment.Aware (t : Moment) (o : Int) : Prop where
  date : Date.make t.date.year t.date.month t.date.day = .ok t.date
  hour : t.hour ≤ 23
  minute : t.minute ≤ 59
  second : t.second ≤ 59
  micro : t.micro ≤ 999999
  offset : t.offset = some o
  withinDay : o.natAbs < microsPerDay

/-- The offset the text of an offset reads back as: one of less than a second either way
reads as UTC. -/
def offsetRead (o : Int) : Int := if o.natAbs < 1000000 then 0 else o

/-- The moment the text of a moment reads back as. -/
def Moment.readBack (t : Moment) : Moment := { t with offset := t.offset.map offsetRead }

theorem offsetRead_eq_self_iff {o : Int} : offsetRead o = o ↔ o = 0 ∨ 1000000 ≤ o.natAbs := by
  unfold offsetRead
  split <;> omega

theorem natAbs_offsetRead_le (o : Int) : (offsetRead o).natAbs ≤ o.natAbs := by
  unfold offsetRead
  split <;> simp

/-- The bytes of the text of an offset. -/
def offsetBytes (o : Int) : List UInt8 :=
  (if o < 0 then 45 else 43) :: digitBytes 2 (o.natAbs / 3600000000) ++
    58 :: digitBytes 2 (o.natAbs / 60000000 % 60) ++
    (if o.natAbs / 1000000 % 60 = 0 ∧ o.natAbs % 1000000 = 0 then []
     else 58 :: digitBytes 2 (o.natAbs / 1000000 % 60) ++
       (if o.natAbs % 1000000 = 0 then [] else 46 :: digitBytes 6 (o.natAbs % 1000000)))

theorem encode_offsetText {o : Int} (h : o.natAbs < microsPerDay) :
    (offsetText o).toList.flatMap String.utf8EncodeChar = offsetBytes o := by
  have hh : o.natAbs / 3600000000 < 10 ^ 2 := by simp [microsPerDay] at h; omega
  have hm : o.natAbs / 60000000 % 60 < 10 ^ 2 := by omega
  have hs : o.natAbs / 1000000 % 60 < 10 ^ 2 := by omega
  have hf : o.natAbs % 1000000 < 10 ^ 6 := by omega
  unfold offsetText offsetBytes
  by_cases hneg : o < 0 <;> by_cases hs0 : o.natAbs / 1000000 % 60 = 0 <;>
    by_cases hf0 : o.natAbs % 1000000 = 0 <;>
    simp [hneg, hs0, hf0, String.utf8EncodeChar, encode_padNat (by decide) hh,
      encode_padNat (by decide) hm, encode_padNat (by decide) hs, encode_padNat (by decide) hf,
      encode_padNat (by decide) (show 0 < 10 ^ 2 by decide)]

namespace Moment

/-- The bytes of the text of a moment before its offset: date, `T`, clock and fraction. -/
def clockBytes (t : Moment) : List UInt8 :=
  digitBytes 4 t.date.year ++ [45] ++ digitBytes 2 t.date.month ++ [45] ++ digitBytes 2 t.date.day ++
    [84] ++ digitBytes 2 t.hour ++ [58] ++ digitBytes 2 t.minute ++ [58] ++ digitBytes 2 t.second ++
    (if t.micro = 0 then [] else 46 :: digitBytes 6 t.micro)

variable {t : Moment} {o : Int}

/-- The same fields in UTC. -/
theorem Aware.inUTC (ht : t.Aware o) : Moment.InUTC { t with offset := some 0 } :=
  ⟨ht.date, ht.hour, ht.minute, ht.second, ht.micro, rfl⟩

theorem Aware.date_bounds (ht : t.Aware o) :
    t.date.year < 10 ^ 4 ∧ t.date.month < 10 ^ 2 ∧ t.date.day < 10 ^ 2 :=
  ht.inUTC.date_bounds

theorem toUTF8_iso_aware (ht : t.Aware o) : t.iso.toUTF8.toList = t.clockBytes ++ offsetBytes o := by
  obtain ⟨hy, hm, hd⟩ := ht.date_bounds
  rw [Text.toUTF8_toList]
  simp only [iso, isoWith, ht.offset, Date.iso, String.toList_append, List.flatMap_append,
    encode_offsetText ht.withinDay, encode_padNat (by decide) hy, encode_padNat (by decide) hm,
    encode_padNat (by decide) hd,
    encode_padNat (by decide) (show t.hour < 10 ^ 2 by have := ht.hour; omega),
    encode_padNat (by decide) (show t.minute < 10 ^ 2 by have := ht.minute; omega),
    encode_padNat (by decide) (show t.second < 10 ^ 2 by have := ht.second; omega)]
  by_cases h0 : t.micro = 0
  · simp [clockBytes, h0, String.utf8EncodeChar]
  · simp [clockBytes, h0, String.utf8EncodeChar,
      encode_padNat (by decide) (show t.micro < 10 ^ 6 by have := ht.micro; omega)]

end Moment

namespace Iso

/-- The length of the text of an offset. -/
def offsetLength (o : Int) : Nat :=
  if o.natAbs / 1000000 % 60 = 0 ∧ o.natAbs % 1000000 = 0 then 6
  else if o.natAbs % 1000000 = 0 then 9 else 16

theorem offsetLength_cases (o : Int) :
    offsetLength o = 6 ∨ offsetLength o = 9 ∨ offsetLength o = 16 := by
  unfold offsetLength
  split
  · exact .inl rfl
  · split
    · exact .inr (.inl rfl)
    · exact .inr (.inr rfl)

theorem six_le_offsetLength (o : Int) : 6 ≤ offsetLength o := by
  rcases offsetLength_cases o with h | h | h <;> omega

/-- The clock of a moment's text ends after its seconds, at the earliest. -/
theorem nineteen_le_zoneOf (t : Moment) : 19 ≤ t.zoneOf := by
  unfold Moment.zoneOf
  split <;> omega

/-- The whole seconds of an offset, as its hours, minutes and seconds add up. -/
theorem offset_seconds (a : Nat) :
    a / 3600000000 * 3600 + a / 60000000 % 60 * 60 + a / 1000000 % 60 = a / 1000000 := by
  omega

theorem length_offsetBytes (o : Int) : (offsetBytes o).length = offsetLength o := by
  unfold offsetBytes offsetLength
  split_ifs <;> simp

theorem length_clockBytes (t : Moment) : t.clockBytes.length = t.zoneOf := by
  unfold Moment.clockBytes Moment.zoneOf
  split <;> simp

/-! ## The reader, one step at a time

Each lemma below runs one step of the reader over bytes whose rest, from the position read,
is known (`bs.toList.drop i = ...`), so that the text of a moment is read field by field. -/

section Steps

variable {bs : Array UInt8}

theorem byteAt_of_drop {i : Nat} {b : UInt8} {rest : List UInt8} (h : bs.toList.drop i = b :: rest) :
    byteAt bs i = b := by
  have := congrArg List.head? h
  rw [List.head?_drop] at this
  rw [byteAt_eq_getD, List.getD_eq_getElem?_getD, this]
  rfl

theorem byteAt_of_drop_nil {i : Nat} (h : bs.toList.drop i = []) : byteAt bs i = 0 := by
  have := congrArg List.head? h
  rw [List.head?_drop] at this
  rw [byteAt_eq_getD, List.getD_eq_getElem?_getD, this]
  rfl

theorem drop_succ_of_drop {i : Nat} {b : UInt8} {rest : List UInt8}
    (h : bs.toList.drop i = b :: rest) : bs.toList.drop (i + 1) = rest := by
  rw [← List.drop_drop, h]
  rfl

theorem drop_add_of_drop {i : Nat} {l rest : List UInt8} (h : bs.toList.drop i = l ++ rest) :
    bs.toList.drop (i + l.length) = rest := by
  rw [← List.drop_drop, h, List.drop_left]

theorem isDigitByte_of_drop {j w n : Nat} {rest : List UInt8}
    (h : bs.toList.drop j = digitBytes (w + 1) n ++ rest) : isDigitByte (byteAt bs j) = true := by
  obtain ⟨b, l, hbl⟩ : ∃ b l, digitBytes (w + 1) n = b :: l :=
    List.exists_cons_of_length_eq_add_one (length_digitBytes _ _)
  rw [hbl, List.cons_append] at h
  rw [byteAt_of_drop h]
  exact isDigitByte_of_mem_digitBytes (hbl ▸ List.mem_cons_self ..)

theorem beq_false_of_isDigitByte {b c : UInt8} (hb : isDigitByte b = true)
    (hc : isDigitByte c = false) : (b == c) = false := by
  cases hbc : b == c
  · rfl
  · rw [beq_iff_eq] at hbc
    subst hbc
    rw [hb] at hc
    cases hc

/-- A digit is none of the marks that start an offset. -/
theorem zoneMark_of_isDigitByte {b : UInt8} (h : isDigitByte b = true) :
    (b == 90 || b == 43 || b == 45) = false := by
  simp only [isDigitByte, Bool.and_eq_true, decide_eq_true_eq, UInt8.le_iff_toNat_le] at h
  simp only [Bool.or_eq_false_iff, beq_eq_false_iff_ne, ne_eq, ← UInt8.toNat_inj]
  simp only [UInt8.reduceToNat] at h ⊢
  omega

theorem zoneMark_of_mem_digitBytes {w n : Nat} {b : UInt8} (h : b ∈ digitBytes w n) :
    (b == 90 || b == 43 || b == 45) = false :=
  zoneMark_of_isDigitByte (isDigitByte_of_mem_digitBytes h)

/-- Reading digits one by one builds the number they write. -/
theorem readDigits_go_of_drop (ds : List Nat) (hds : ∀ d ∈ ds, d < 10) (acc : Nat) {j : Nat}
    {rest : List UInt8} (h : bs.toList.drop j = ds.map digitByte ++ rest) :
    readDigits.go bs j ds.length acc = some (ds.foldl (fun a d => a * 10 + d) acc, j + ds.length) := by
  induction ds generalizing j acc with
  | nil => simp [readDigits.go]
  | cons d ds ih =>
    have hd : d < 10 := hds d (List.mem_cons_self ..)
    rw [List.map_cons, List.cons_append] at h
    rw [List.length_cons, readDigits.go]
    simp only [byteAt_of_drop h, isDigitByte_digitByte hd, if_true, toNat_digitByte hd,
      Nat.add_sub_cancel_left]
    rw [ih (fun e he => hds e (List.mem_cons_of_mem d he)) _ (drop_succ_of_drop h), List.foldl_cons]
    congr 2
    omega

/-- The `w` digits of a number below `10 ^ w` read back as the number. -/
theorem readDigits_of_drop {j w n : Nat} {rest : List UInt8} (hn : n < 10 ^ w)
    (h : bs.toList.drop j = digitBytes w n ++ rest) : readDigits bs j w = some (n, j + w) := by
  have hgo := readDigits_go_of_drop (digitsOf w n) (fun _ hd => lt_ten_of_mem_digitsOf hd) 0 h
  rw [length_digitsOf, foldl_digitsOf, Nat.mod_eq_of_lt hn] at hgo
  exact hgo

theorem skipDigits_of_not_digit {j : Nat} (h : isDigitByte (byteAt bs j) = false) :
    skipDigits bs j = j := by
  simp [skipDigits, skipDigits.go, h]

/-- Six digits of fraction ending the clock read as its microseconds. -/
theorem readFraction_six {c : Clock} {p f : Nat} {rest : List UInt8} (hf : f < 10 ^ 6)
    (h : bs.toList.drop p = digitBytes 6 f ++ rest) (hend : isDigitByte (byteAt bs (p + 6)) = false) :
    readFraction bs c p (p + 6) =
      ((if byteAt bs (p + 6) != 0 then .more else .atEnd), { c with micro := f }) := by
  unfold readFraction
  simp only [Nat.add_sub_cancel_left, Nat.min_self, readDigits_of_drop hf h,
    skipDigits_of_not_digit hend, Nat.lt_irrefl, if_false]

section Clock

variable {stop i q v : Nat} {c : Clock} {rest : List UInt8}

/-- A field followed by a colon, with more of the clock after it: reading goes on to the next
field, with colons. -/
theorem readClock_go_colon (hi : i < 3) (hv : v < 100)
    (h : bs.toList.drop q = digitBytes 2 v ++ 58 :: rest) (hstop : q + 3 < stop) :
    readClock.go bs stop i q true c = readClock.go bs stop (i + 1) (q + 3) true (c.setField i v) := by
  have hb : byteAt bs (q + 2) = 58 := byteAt_of_drop (by simpa using drop_add_of_drop h)
  rw [readClock.go, if_neg (by omega), readDigits_of_drop (by simpa using hv) h]
  simp only [hb, show ¬ (q + 2 + 1 ≥ stop) by omega, if_false]
  split <;> simp

/-- A field whose text ends where the clock stops: the clock ends there. -/
theorem readClock_go_last {colons : Bool} (hi : i < 3) (hv : v < 100)
    (h : bs.toList.drop q = digitBytes 2 v ++ rest) (hstop : stop ≤ q + 3) :
    readClock.go bs stop i q colons c =
      ((if byteAt bs (q + 2) != 0 then .more else .atEnd), c.setField i v) := by
  rw [readClock.go, if_neg (by omega), readDigits_of_drop (by simpa using hv) h]
  simp only [show q + 2 + 1 ≥ stop by omega, if_true]

/-- A field followed by the fraction's point: the fraction is read next. -/
theorem readClock_go_fraction {colons : Bool} (hi : i < 3) (hv : v < 100)
    (h : bs.toList.drop q = digitBytes 2 v ++ 46 :: rest) (hstop : q + 3 < stop) :
    readClock.go bs stop i q colons c = readFraction bs (c.setField i v) (q + 3) stop := by
  have hb : byteAt bs (q + 2) = 46 := byteAt_of_drop (by simpa using drop_add_of_drop h)
  rw [readClock.go, if_neg (by omega), readDigits_of_drop (by simpa using hv) h]
  simp only [hb, show ¬ (q + 2 + 1 ≥ stop) by omega, if_false]
  split <;> simp

end Clock

/-- The search for an offset passes over bytes that are none of its marks, and stops at the
first that is. -/
theorem zoneAt_go_of_drop {stop : Nat} {b : UInt8} {rest : List UInt8}
    (hb : (b == 90 || b == 43 || b == 45) = true) :
    ∀ (l : List UInt8) {j fuel : Nat}, bs.toList.drop j = l ++ b :: rest →
      (∀ x ∈ l, (x == 90 || x == 43 || x == 45) = false) → j + l.length < stop →
      l.length ≤ fuel → zoneAt.go bs stop j fuel = j + l.length
  | [], j, fuel, h, _, _, _ => by
    unfold zoneAt.go
    rw [byteAt_of_drop h, if_pos hb, List.length_nil, Nat.add_zero]
  | x :: l, j, fuel, h, hl, hstop, hfuel => by
    obtain ⟨fuel, rfl⟩ : ∃ f, fuel = f + 1 := ⟨fuel - 1, by simp at hfuel; omega⟩
    rw [List.cons_append] at h
    have hx := hl x (List.mem_cons_self ..)
    simp only [List.length_cons] at hstop hfuel
    unfold zoneAt.go
    simp only [byteAt_of_drop h, hx, Bool.false_eq_true, if_false]
    rw [if_pos (by omega),
      zoneAt_go_of_drop hb l (drop_succ_of_drop h) (fun y hy => hl y (List.mem_cons_of_mem x hy))
        (by omega) (by omega), List.length_cons]
    omega

/-- A date written `YYYY-MM-DD` reads as its year, month and day. -/
theorem readDate_of_toList {y m d : Nat} {rest : List UInt8} (hy : y < 10 ^ 4) (hm : m < 10 ^ 2)
    (hd : d < 10 ^ 2)
    (h : bs.toList = digitBytes 4 y ++ 45 :: (digitBytes 2 m ++ 45 :: (digitBytes 2 d ++ rest))) :
    readDate bs 10 = some (y, m, d) := by
  have h0 : bs.toList.drop 0 = _ := List.drop_zero.trans h
  have h4 : bs.toList.drop 4 = _ := drop_add_of_drop h0
  have h5 : bs.toList.drop 5 = _ := drop_succ_of_drop h4
  have h7 : bs.toList.drop 7 = _ := drop_add_of_drop h5
  have h8 : bs.toList.drop 8 = _ := drop_succ_of_drop h7
  -- the month's first digit is no week mark
  have hw : (byteAt bs 5 == 87) = false := beq_false_of_isDigitByte (isDigitByte_of_drop h5) rfl
  simp only [readDate, readDigits_of_drop hy h0, Option.bind_eq_bind, Option.bind_some,
    Nat.zero_add, byteAt_of_drop h4, beq_self_eq_true, if_true, Nat.reduceAdd, hw,
    Bool.false_eq_true, if_false, readDigits_of_drop hm h5, byteAt_of_drop h7,
    readDigits_of_drop hd h8]
  rfl

end Steps

/-- The text of an offset less than a day, ending the text, reads as its hours, minutes,
seconds and microseconds. -/
theorem readClock_offsetBytes {bs : Array UInt8} {z : Nat} {o : Int}
    (hday : o.natAbs < microsPerDay) (hz : bs.toList.drop z = offsetBytes o) :
    readClock bs (z + 1) (z + offsetLength o) =
      (.atEnd, ⟨o.natAbs / 3600000000, o.natAbs / 60000000 % 60, o.natAbs / 1000000 % 60,
        o.natAbs % 1000000⟩) := by
  have hh : o.natAbs / 3600000000 < 100 := by simp [microsPerDay] at hday; omega
  have hm : o.natAbs / 60000000 % 60 < 100 := by omega
  have hs : o.natAbs / 1000000 % 60 < 100 := by omega
  have hf : o.natAbs % 1000000 < 10 ^ 6 := by omega
  have h6 := six_le_offsetLength o
  -- past the offset the text has ended
  have hend : bs.toList.drop (z + offsetLength o) = [] := by
    rw [← List.drop_drop, hz, ← length_offsetBytes, List.drop_length]
  simp only [offsetBytes, List.cons_append, List.append_assoc] at hz
  have h1 : bs.toList.drop (z + 1) = _ := drop_succ_of_drop hz
  have h4 : bs.toList.drop (z + 1 + 3) = _ := drop_succ_of_drop (drop_add_of_drop h1)
  unfold readClock
  rw [readClock_go_colon (by decide) hh h1 (by omega)]
  unfold offsetLength at hend h6 ⊢
  by_cases hs0 : o.natAbs / 1000000 % 60 = 0 ∧ o.natAbs % 1000000 = 0
  · -- hours and minutes only
    rw [if_pos hs0, List.append_nil] at h4
    rw [if_pos hs0] at hend ⊢
    rw [readClock_go_last (by decide) hm h4 (by omega), byteAt_of_drop_nil hend]
    simp [Clock.setField, hs0]
  · rw [if_neg hs0] at h4 hend h6 ⊢
    have h7 : bs.toList.drop (z + 1 + 3 + 3) = _ := drop_succ_of_drop (drop_add_of_drop h4)
    rw [readClock_go_colon (by decide) hm h4 (by split <;> omega)]
    by_cases hf0 : o.natAbs % 1000000 = 0
    · -- the whole seconds end the text
      rw [if_pos hf0, List.append_nil] at h7
      rw [if_pos hf0] at hend ⊢
      rw [readClock_go_last (by decide) hs h7 (by omega), byteAt_of_drop_nil hend]
      simp [Clock.setField, hf0]
    · -- a fraction ends the text
      rw [if_neg hf0] at h7 hend ⊢
      have h10 : bs.toList.drop (z + 1 + 3 + 3 + 3) = _ := drop_succ_of_drop (drop_add_of_drop h7)
      have hend' : byteAt bs (z + 1 + 3 + 3 + 3 + 6) = 0 := byteAt_of_drop_nil hend
      rw [readClock_go_fraction (by decide) hs h7 (by omega), show z + 16 = z + 1 + 3 + 3 + 3 + 6 by omega,
        readFraction_six hf h10 (by rw [hend']; rfl), hend']
      simp [Clock.setField]

section
variable {t : Moment} {o : Int} {bs : Array UInt8} (hbs : bs.toList = t.clockBytes ++ offsetBytes o)
include hbs

theorem size_aware : bs.size = t.zoneOf + offsetLength o := by
  rw [← Array.length_toList, hbs, List.length_append, length_clockBytes, length_offsetBytes]

/-- The text of an aware moment, field by field. -/
theorem toList_aware : bs.toList =
    digitBytes 4 t.date.year ++ 45 :: (digitBytes 2 t.date.month ++ 45 :: (digitBytes 2 t.date.day ++
      84 :: (digitBytes 2 t.hour ++ 58 :: (digitBytes 2 t.minute ++ 58 :: (digitBytes 2 t.second ++
        ((if t.micro = 0 then [] else 46 :: digitBytes 6 t.micro) ++ offsetBytes o)))))) := by
  rw [hbs]
  simp only [Moment.clockBytes, List.append_assoc, List.cons_append, List.nil_append]

/-- The text from the date's end on: the separator `T` and the clock. -/
theorem drop_ten_aware : bs.toList.drop 10 =
    84 :: (digitBytes 2 t.hour ++ 58 :: (digitBytes 2 t.minute ++ 58 :: (digitBytes 2 t.second ++
      ((if t.micro = 0 then [] else 46 :: digitBytes 6 t.micro) ++ offsetBytes o)))) := by
  have h0 : bs.toList.drop 0 = _ := List.drop_zero.trans (toList_aware hbs)
  have h5 : bs.toList.drop 5 = _ := drop_succ_of_drop (drop_add_of_drop h0)
  have h8 : bs.toList.drop 8 = _ := drop_succ_of_drop (drop_add_of_drop h5)
  exact drop_add_of_drop h8

/-- The offset's part of the text. -/
theorem drop_zoneOf_aware : bs.toList.drop t.zoneOf = offsetBytes o := by
  rw [hbs, ← length_clockBytes, List.drop_left]

theorem separatorAt_aware : separatorAt bs = 10 := by
  have h0 : bs.toList.drop 0 = _ := List.drop_zero.trans (toList_aware hbs)
  have h4 : bs.toList.drop 4 = _ := drop_add_of_drop h0
  have h5 : bs.toList.drop 5 = _ := drop_succ_of_drop h4
  have h7 : (bs.size == 7) = false := by
    have h6 := six_le_offsetLength o
    have h19 := nineteen_le_zoneOf t
    rw [size_aware hbs]
    simp
    omega
  have hw : (byteAt bs 5 == 87) = false := beq_false_of_isDigitByte (isDigitByte_of_drop h5) rfl
  simp only [separatorAt, h7, byteAt_of_drop h4, beq_self_eq_true, if_true, hw,
    Bool.false_eq_true, if_false]

theorem readDate_aware (ht : t.Aware o) :
    readDate bs 10 = some (t.date.year, t.date.month, t.date.day) := by
  obtain ⟨hy, hm, hd⟩ := ht.date_bounds
  exact readDate_of_toList hy hm hd (toList_aware hbs)

theorem byteAt_ten_aware : byteAt bs 10 = 84 :=
  byteAt_of_drop (drop_ten_aware hbs)

/-- The offset starts with its sign where the clock ends. -/
theorem byteAt_zoneOf_aware : byteAt bs t.zoneOf = if o < 0 then 45 else 43 := by
  have hz := drop_zoneOf_aware hbs
  rw [offsetBytes, List.append_assoc, List.cons_append] at hz
  exact byteAt_of_drop hz

theorem zoneAt_aware : zoneAt bs 11 bs.size = t.zoneOf := by
  have h6 := six_le_offsetLength o
  have hsize := size_aware hbs
  obtain ⟨rest, hrest⟩ : ∃ rest, offsetBytes o = (if o < 0 then 45 else 43) :: rest :=
    ⟨_, by rw [offsetBytes, List.append_assoc, List.cons_append]⟩
  have hsign : ((if o < 0 then (45 : UInt8) else 43) == 90 ||
      (if o < 0 then (45 : UInt8) else 43) == 43 || (if o < 0 then (45 : UInt8) else 43) == 45) = true := by
    split <;> rfl
  -- the clock's bytes, and then the offset's sign
  have hl : bs.toList.drop 11 = (digitBytes 2 t.hour ++ 58 :: (digitBytes 2 t.minute ++ 58 ::
      (digitBytes 2 t.second ++ (if t.micro = 0 then [] else 46 :: digitBytes 6 t.micro)))) ++
        (if o < 0 then 45 else 43) :: rest := by
    rw [drop_succ_of_drop (drop_ten_aware hbs), ← hrest]
    simp only [List.append_assoc, List.cons_append]
  have hlen : 11 + (digitBytes 2 t.hour ++ 58 :: (digitBytes 2 t.minute ++ 58 ::
      (digitBytes 2 t.second ++ (if t.micro = 0 then [] else 46 :: digitBytes 6 t.micro)))).length =
        t.zoneOf := by
    unfold Moment.zoneOf
    split <;> simp [*]
  have hmarks : ∀ x ∈ digitBytes 2 t.hour ++ 58 :: (digitBytes 2 t.minute ++ 58 ::
      (digitBytes 2 t.second ++ (if t.micro = 0 then [] else 46 :: digitBytes 6 t.micro))),
        (x == 90 || x == 43 || x == 45) = false := by
    intro x hx
    simp only [List.mem_append, List.mem_cons] at hx
    rcases hx with hx | rfl | hx | rfl | hx | hx
    · exact zoneMark_of_mem_digitBytes hx
    · rfl
    · exact zoneMark_of_mem_digitBytes hx
    · rfl
    · exact zoneMark_of_mem_digitBytes hx
    · -- the fraction: its point and its digits
      split at hx
      · cases hx
      · rcases List.mem_cons.1 hx with rfl | hx
        · rfl
        · exact zoneMark_of_mem_digitBytes hx
  unfold zoneAt
  rw [zoneAt_go_of_drop hsign _ hl hmarks (by omega) (by omega), hlen]

theorem readClock_aware (ht : t.Aware o) :
    readClock bs 11 t.zoneOf = (.more, ⟨t.hour, t.minute, t.second, t.micro⟩) := by
  have hh : t.hour < 100 := by have := ht.hour; omega
  have hm : t.minute < 100 := by have := ht.minute; omega
  have hs : t.second < 100 := by have := ht.second; omega
  have h19 := nineteen_le_zoneOf t
  have hsign := byteAt_zoneOf_aware hbs
  have h11 : bs.toList.drop 11 = _ := drop_succ_of_drop (drop_ten_aware hbs)
  have h14 : bs.toList.drop (11 + 3) = _ := drop_succ_of_drop (drop_add_of_drop h11)
  have h17 : bs.toList.drop (11 + 3 + 3) = _ := drop_succ_of_drop (drop_add_of_drop h14)
  unfold readClock
  rw [readClock_go_colon (by decide) hh h11 (by omega),
    readClock_go_colon (by decide) hm h14 (by omega)]
  by_cases h0 : t.micro = 0
  · -- the seconds end the clock, right before the offset's sign
    have hz : t.zoneOf = 19 := by simp [Moment.zoneOf, h0]
    rw [if_pos h0, List.nil_append] at h17
    rw [readClock_go_last (by decide) hs h17 (by omega), show 11 + 3 + 3 + 2 = t.zoneOf by omega,
      hsign]
    split <;> simp [Clock.setField, h0]
  · -- the fraction ends the clock, right before the offset's sign
    have hz : t.zoneOf = 26 := by simp [Moment.zoneOf, h0]
    have hf : t.micro < 10 ^ 6 := by have := ht.micro; omega
    rw [if_neg h0, List.cons_append] at h17
    have h20 : bs.toList.drop (11 + 3 + 3 + 3) = _ := drop_succ_of_drop (drop_add_of_drop h17)
    have hend : byteAt bs (11 + 3 + 3 + 3 + 6) = if o < 0 then 45 else 43 := by
      rw [show 11 + 3 + 3 + 3 + 6 = t.zoneOf by omega, hsign]
    rw [readClock_go_fraction (by decide) hs h17 (by omega), hz, show 26 = 11 + 3 + 3 + 3 + 6 from rfl,
      readFraction_six hf h20 (by rw [hend]; split <;> rfl), hend]
    split <;> simp [Clock.setField]

/-- The offset reads as hours, minutes, seconds and microseconds, the text ending with it. -/
theorem readClock_offset_aware (hday : o.natAbs < microsPerDay) :
    readClock bs (t.zoneOf + 1) bs.size =
      (.atEnd, ⟨o.natAbs / 3600000000, o.natAbs / 60000000 % 60, o.natAbs / 1000000 % 60,
        o.natAbs % 1000000⟩) := by
  rw [size_aware hbs]
  exact readClock_offsetBytes hday (drop_zoneOf_aware hbs)

theorem readTime_aware (ht : t.Aware o) :
    readTime bs 11 = some (⟨t.hour, t.minute, t.second, t.micro⟩, some (offsetRead o)) := by
  have h6 := six_le_offsetLength o
  have hne : (t.zoneOf == bs.size) = false := by
    rw [size_aware hbs]
    simp
    omega
  have hsecs := offset_seconds o.natAbs
  simp only [readTime, zoneAt_aware hbs, readClock_aware hbs ht, hne,
    readClock_offset_aware hbs ht.withinDay, byteAt_zoneOf_aware hbs, hsecs]
  have hsign : (if ((if o < 0 then (45 : UInt8) else 43) == 45) = true then (-1 : Int) else 1) =
      if o < 0 then -1 else 1 := by
    by_cases hneg : o < 0 <;> simp [hneg]
  have hz : ((if o < 0 then (45 : UInt8) else 43) == 90) = false := by
    by_cases hneg : o < 0 <;> simp [hneg]
  rw [hsign]
  simp only [Bool.false_eq_true, if_false, hz]
  -- an offset under a second has no whole seconds and reads as UTC; any other reads with its sign
  unfold offsetRead
  by_cases hsmall : o.natAbs < 1000000
  · have h0 : o.natAbs / 1000000 = 0 := by omega
    simp only [if_pos hsmall, h0, Nat.cast_zero, mul_zero, beq_self_eq_true, if_true]
  · rw [if_neg hsmall]
    have hpos : 0 < o.natAbs / 1000000 := by omega
    by_cases hneg : o < 0
    · simp only [hneg, if_true]
      rw [if_neg (by simp only [beq_iff_eq]; omega)]
      congr 3
      omega
    · simp only [hneg, if_false]
      rw [if_neg (by simp only [beq_iff_eq]; omega)]
      congr 3
      omega

end

/-- The fields of a moment that are in range, with any offset less than a day, pass the checks
of reading. -/
theorem build_of_aware {t : Moment} {o : Int} (ht : t.Aware o) {us : Int}
    (hday : us.natAbs < microsPerDay) :
    build t.date.year t.date.month t.date.day ⟨t.hour, t.minute, t.second, t.micro⟩ (some us) =
      some { t with offset := some us } := by
  have hh := ht.hour
  have hm := ht.minute
  have hs := ht.second
  have hf := ht.micro
  simp only [build, ht.date]
  have hlo : ¬ (us ≤ -(microsPerDay : Int) ∨ us ≥ microsPerDay) := by
    simp only [microsPerDay] at hday ⊢
    omega
  rw [if_neg (by simp; omega), if_neg (by simpa using hlo)]

end Iso

/-- The ISO text of a moment whose fields are in range, with an offset less than a day, reads
back as that moment, an offset of less than a second either way read as UTC. -/
theorem parseMoment_iso_aware {t : Moment} {o : Int} (ht : t.Aware o) :
    Iso.parseMoment t.iso = some t.readBack := by
  have hbs : t.iso.toUTF8.data.toList = t.clockBytes ++ offsetBytes o := by
    rw [← Text.byteArray_toList]
    exact Moment.toUTF8_iso_aware ht
  have hsize : 10 < t.iso.toUTF8.data.size := by
    have h19 := Iso.nineteen_le_zoneOf t
    rw [Iso.size_aware hbs]
    omega
  unfold Iso.parseMoment
  simp only [Iso.separatorAt_aware hbs, Iso.readDate_aware hbs ht, Iso.byteAt_ten_aware hbs,
    if_pos hsize]
  rw [show 10 + Iso.charWidth 84 = 11 from rfl, Iso.readTime_aware hbs ht, Moment.readBack, ht.offset]
  exact Iso.build_of_aware ht (Nat.lt_of_le_of_lt (natAbs_offsetRead_le o) ht.withinDay)

/-- A moment reads back as itself exactly when its offset, if any, is zero or at least a
second either way. -/
theorem readBack_eq_self_iff {t : Moment} :
    t.readBack = t ↔ ∀ o, t.offset = some o → o = 0 ∨ 1000000 ≤ o.natAbs := by
  rcases t with ⟨date, hour, minute, second, micro, _ | o⟩
  · simp [Moment.readBack]
  · simp [Moment.readBack, offsetRead_eq_self_iff]

/-- A moment in UTC with its fields in range is aware, with offset zero. -/
theorem Moment.InUTC.aware {t : Moment} (ht : t.InUTC) : t.Aware 0 :=
  ⟨ht.date, ht.hour, ht.minute, ht.second, ht.micro, ht.offset, by decide⟩

/-- The ISO text of a moment in UTC whose fields are in range reads back as that moment. -/
theorem parseMoment_iso {t : Moment} (ht : t.InUTC) : Iso.parseMoment t.iso = some t := by
  rw [parseMoment_iso_aware ht.aware, readBack_eq_self_iff.2]
  intro o ho
  rw [ht.offset] at ho
  cases ho
  exact .inl rfl

namespace Iso

/-- An offset as reading gives one: none, or one that reads back as itself. -/
def WholeOffset (off : Option Int) : Prop := ∀ o, off = some o → offsetRead o = o

theorem readTime_wholeOffset {bs : Array UInt8} {i : Nat} {c : Clock} {off : Option Int}
    (h : readTime bs i = some (c, off)) : WholeOffset off := by
  rintro o rfl
  unfold readTime at h
  dsimp only at h
  split at h
  · cases h
  · split at h
    · split at h <;> cases h
    · split at h
      · split at h
        · cases h
        · cases h
          rfl
      · split at h
        · -- the offset's sign, then whether its whole seconds are zero
          generalize (byteAt bs (zoneAt bs i bs.size) == 45) = b at h
          cases b
          all_goals
            simp only [Bool.false_eq_true, if_true, if_false] at h
            split at h
            · cases h
              rfl
            · rename_i hsecs
              cases h
              simp only [beq_iff_eq] at hsecs
              rw [offsetRead_eq_self_iff]
              omega
        · cases h

/-- Checking a date builds it from its own fields. -/
theorem make_self {y m d : Nat} {date : Date} (h : Date.make y m d = .ok date) :
    Date.make date.year date.month date.day = .ok date := by
  have hd : date = ⟨y, m, d⟩ := by
    unfold Date.make at h
    split at h
    · cases h
    · split at h
      · cases h
      · split at h
        · cases h
        · cases h
          rfl
  subst hd
  exact h

/-- A moment that passes the checks of reading, with an offset as reading gives one, is aware
once a naive moment is taken as UTC. -/
theorem aware_of_build {y m d : Nat} {c : Clock} {off : Option Int} {t : Moment}
    (h : build y m d c off = some t) (hoff : WholeOffset off) :
    ∃ o, t.assumeUTC.Aware o ∧ offsetRead o = o := by
  unfold build at h
  split at h
  · cases h
  · rename_i date hdate
    split at h
    · cases h
    · rename_i hrange
      simp only [Bool.or_eq_true, decide_eq_true_eq, not_or, not_lt] at hrange
      obtain ⟨⟨⟨hh, hm⟩, hs⟩, hf⟩ := hrange
      split at h
      · rename_i us
        split at h
        · cases h
        · rename_i hday
          cases h
          refine ⟨us, ⟨make_self hdate, hh, hm, hs, hf, rfl, ?_⟩, hoff us rfl⟩
          simp only [Bool.or_eq_true, decide_eq_true_eq, not_or] at hday
          simp only [microsPerDay] at hday ⊢
          omega
      · cases h
        exact ⟨0, ⟨make_self hdate, hh, hm, hs, hf, rfl, by decide⟩, rfl⟩

/-- Every moment read from a text is aware once a naive moment is taken as UTC. -/
theorem aware_of_parseMoment {s : String} {t : Moment} (h : parseMoment s = some t) :
    ∃ o, t.assumeUTC.Aware o ∧ offsetRead o = o := by
  unfold parseMoment at h
  dsimp only at h
  split at h
  · cases h
  · split at h
    · split at h
      · cases h
      · rename_i hread
        exact aware_of_build h (readTime_wholeOffset hread)
    · exact aware_of_build h (fun _ h => nomatch h)

theorem aware_of_parsePoints {ps : List Nat} {t : Moment} (h : parsePoints ps = some t) :
    ∃ o, t.assumeUTC.Aware o ∧ offsetRead o = o := by
  unfold parsePoints at h
  dsimp only at h
  -- whether or not a lone surrogate stands for the separator, the rest is read as a text
  split at h <;> split at h
  · cases h
  · exact aware_of_parseMoment h
  · cases h
  · exact aware_of_parseMoment h

end Iso

end Preflight.Time
