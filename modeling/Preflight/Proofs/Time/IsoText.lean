import Mathlib
import Preflight.Proofs.Time.Calendar
import Preflight.Proofs.Text.Utf8
import Preflight.Time.Iso

/-!
# The bytes of the ISO text of a moment

A moment's ISO text is `YYYY-MM-DDTHH:MM:SS`, then `.ffffff` when it has microseconds, then its
offset, each number padded with zeros. Its bytes are digits and a few separators at fixed
places: a padded number is written with its last decimal digits (`digitsOf`,
`encode_padNat`), and the text of a moment in UTC whose fields are in range is
`Moment.isoBytes` (`toUTF8_iso`). The reader is run over such bytes in
`Preflight.Proofs.Time.IsoOffset`.
-/

set_option autoImplicit false

namespace Preflight.Time

/-! ## Padded numbers -/

/-- The last `w` decimal digits of `n`, most significant first. -/
def digitsOf : Nat → Nat → List Nat
  | 0, _ => []
  | w + 1, n => digitsOf w (n / 10) ++ [n % 10]

theorem digitsOf_zero : ∀ w, digitsOf w 0 = List.replicate w 0
  | 0 => rfl
  | w + 1 => by
    rw [digitsOf, digitsOf_zero w, List.replicate_succ']

theorem lt_ten_of_mem_digitsOf : ∀ {w n d : Nat}, d ∈ digitsOf w n → d < 10
  | 0, _, _, h => by simp [digitsOf] at h
  | w + 1, n, d, h => by
    rw [digitsOf, List.mem_append, List.mem_singleton] at h
    rcases h with h | rfl
    · exact lt_ten_of_mem_digitsOf h
    · exact Nat.mod_lt _ (by decide)

/-- A number below `10 ^ w`, written with the zeros that pad it to `w` digits, is written
with its last `w` digits. -/
theorem replicate_append_toDigits : ∀ (w n : Nat), 0 < w → n < 10 ^ w →
    List.replicate (w - (Nat.toDigits 10 n).length) '0' ++ Nat.toDigits 10 n =
      (digitsOf w n).map Nat.digitChar
  | 0, _, hw, _ => absurd hw (Nat.lt_irrefl 0)
  | w + 1, n, _, hn => by
    by_cases hsmall : n < 10
    · -- one digit, after `w` zeros
      rw [Nat.toDigits_of_lt_base hsmall, digitsOf, Nat.div_eq_of_lt hsmall, Nat.mod_eq_of_lt hsmall,
        digitsOf_zero, List.map_append, List.map_replicate]
      rfl
    · -- the last digit, after the padded digits of the rest
      have hw : 0 < w := by
        rcases Nat.eq_zero_or_pos w with h | h
        · subst h
          omega
        · exact h
      have hdiv : n / 10 < 10 ^ w := by
        rw [Nat.pow_succ] at hn
        omega
      rw [Nat.toDigits_of_base_le (by decide) (by omega), digitsOf, List.map_append,
        ← replicate_append_toDigits w (n / 10) hw hdiv, List.length_append, List.length_singleton,
        List.append_assoc]
      congr 2
      omega

theorem padNat_toList {w n : Nat} (hw : 0 < w) (hn : n < 10 ^ w) :
    (padNat w n).toList = (digitsOf w n).map Nat.digitChar := by
  rw [← replicate_append_toDigits w n hw hn, padNat]
  simp [Nat.toList_repr, ← String.length_toList]

theorem offsetText_zero : (offsetText 0).toList = ['+', '0', '0', ':', '0', '0'] := by
  simp [offsetText, padNat_toList, digitsOf]

/-! ## Bytes -/

/-- The byte of a decimal digit. -/
def digitByte (d : Nat) : UInt8 := UInt8.ofNat (48 + d)

/-- The bytes of the last `w` decimal digits of `n`. -/
def digitBytes (w n : Nat) : List UInt8 := (digitsOf w n).map digitByte

theorem utf8EncodeChar_of_lt {c : Char} (h : c.toNat < 0x80) :
    String.utf8EncodeChar c = [UInt8.ofNat c.toNat] := by
  unfold String.utf8EncodeChar
  rw [if_pos (by simp only [Char.toNat] at h; omega)]
  rfl

theorem utf8EncodeChar_digitChar {d : Nat} (h : d < 10) :
    String.utf8EncodeChar (Nat.digitChar d) = [digitByte d] := by
  have hc := Nat.toNat_digitChar_of_lt_ten h
  rw [utf8EncodeChar_of_lt (by omega), hc]
  rfl

/-- The bytes of a padded number are the bytes of its digits. -/
theorem encode_padNat {w n : Nat} (hw : 0 < w) (hn : n < 10 ^ w) :
    (padNat w n).toList.flatMap String.utf8EncodeChar = digitBytes w n := by
  rw [padNat_toList hw hn, digitBytes, List.flatMap_map]
  have key : ∀ l : List Nat, (∀ d ∈ l, d < 10) →
      l.flatMap (fun d => String.utf8EncodeChar d.digitChar) = l.map digitByte := by
    intro l hl
    induction l with
    | nil => rfl
    | cons d l ih =>
      rw [List.flatMap_cons, utf8EncodeChar_digitChar (hl d (List.mem_cons_self ..)),
        ih (fun e he => hl e (List.mem_cons_of_mem d he))]
      rfl
  exact key _ fun d hd => lt_ten_of_mem_digitsOf hd

theorem toNat_digitByte {d : Nat} (h : d < 10) : (digitByte d).toNat = 48 + d := by
  simp [digitByte]
  omega

theorem length_digitsOf : ∀ w n, (digitsOf w n).length = w
  | 0, _ => rfl
  | w + 1, n => by rw [digitsOf, List.length_append, length_digitsOf w, List.length_singleton]

@[simp] theorem length_digitBytes (w n : Nat) : (digitBytes w n).length = w := by
  rw [digitBytes, List.length_map, length_digitsOf]

/-- Read most significant first, the last `w` digits of `n` give `n` modulo `10 ^ w`. -/
theorem foldl_digitsOf : ∀ w n, (digitsOf w n).foldl (fun a d => a * 10 + d) 0 = n % 10 ^ w
  | 0, n => by simp [digitsOf, Nat.mod_one]
  | w + 1, n => by
    rw [digitsOf, List.foldl_append, foldl_digitsOf w (n / 10), List.foldl_cons, List.foldl_nil,
      Nat.pow_succ, Nat.mul_comm (10 ^ w) 10, Nat.mod_mul]
    omega

/-! Every digit the bytes of a padded number hold is a remainder by ten; these lemmas read
such a byte without a side condition. -/

@[simp] theorem toNat_digitByte_mod (x : Nat) : (digitByte (x % 10)).toNat = 48 + x % 10 :=
  toNat_digitByte (Nat.mod_lt _ (by decide))

@[simp] theorem isDigitByte_digitByte_mod (x : Nat) : Iso.isDigitByte (digitByte (x % 10)) = true := by
  simp [Iso.isDigitByte, UInt8.le_iff_toNat_le]
  omega

@[simp] theorem digitByte_mod_eq (x : Nat) (b : UInt8) (hb : b.toNat < 48 ∨ 58 ≤ b.toNat) :
    (digitByte (x % 10) = b) = False := by
  rw [eq_iff_iff, iff_false, ← UInt8.toNat_inj, toNat_digitByte_mod]
  omega

@[simp] theorem isDigitByte_zero_digit : Iso.isDigitByte 48 = true := rfl

theorem isDigitByte_digitByte {d : Nat} (h : d < 10) : Iso.isDigitByte (digitByte d) = true := by
  have := isDigitByte_digitByte_mod d
  rwa [Nat.mod_eq_of_lt h] at this

theorem isDigitByte_of_mem_digitBytes {w n : Nat} {b : UInt8} (h : b ∈ digitBytes w n) :
    Iso.isDigitByte b = true := by
  obtain ⟨d, hd, rfl⟩ := List.mem_map.1 h
  exact isDigitByte_digitByte (lt_ten_of_mem_digitsOf hd)

/-! ## The text of a moment in UTC -/

namespace Moment

/-- The bytes of the ISO text of a moment in UTC. -/
def isoBytes (t : Moment) : List UInt8 :=
  digitBytes 4 t.date.year ++ [45] ++ digitBytes 2 t.date.month ++ [45] ++ digitBytes 2 t.date.day ++
    [84] ++ digitBytes 2 t.hour ++ [58] ++ digitBytes 2 t.minute ++ [58] ++ digitBytes 2 t.second ++
    (if t.micro = 0 then [] else 46 :: digitBytes 6 t.micro) ++ [43, 48, 48, 58, 48, 48]

theorem InUTC.date_bounds {t : Moment} (ht : t.InUTC) :
    t.date.year < 10 ^ 4 ∧ t.date.month < 10 ^ 2 ∧ t.date.day < 10 ^ 2 := by
  have h := ht.date
  unfold Date.make at h
  split at h
  · contradiction
  split at h
  · contradiction
  split at h
  · contradiction
  rename_i hy hm hd
  simp only [Bool.or_eq_true, decide_eq_true_eq, not_or, Nat.not_lt] at hy hm hd
  have : daysInMonth t.date.year t.date.month ≤ 31 := by
    unfold daysInMonth
    split <;> (try split) <;> omega
  omega

theorem toUTF8_iso {t : Moment} (ht : t.InUTC) : t.iso.toUTF8.toList = t.isoBytes := by
  obtain ⟨hy, hm, hd⟩ := ht.date_bounds
  rw [Text.toUTF8_toList]
  simp only [iso, isoWith, ht.offset, Date.iso, String.toList_append, List.flatMap_append,
    offsetText_zero, encode_padNat (by decide) hy, encode_padNat (by decide) hm,
    encode_padNat (by decide) hd,
    encode_padNat (by decide) (show t.hour < 10 ^ 2 by have := ht.hour; omega),
    encode_padNat (by decide) (show t.minute < 10 ^ 2 by have := ht.minute; omega),
    encode_padNat (by decide) (show t.second < 10 ^ 2 by have := ht.second; omega)]
  by_cases h0 : t.micro = 0
  · simp [isoBytes, h0, String.utf8EncodeChar]
  · simp [isoBytes, h0, String.utf8EncodeChar,
      encode_padNat (by decide) (show t.micro < 10 ^ 6 by have := ht.micro; omega)]

/-- Where the offset of the text of a moment starts: after the seconds, and after the
fraction when there is one. -/
def zoneOf (t : Moment) : Nat := if t.micro = 0 then 19 else 26

end Moment

/-! ## Reading the text -/

namespace Iso

theorem byteAt_eq_getD (bs : Array UInt8) (i : Nat) : byteAt bs i = bs.toList.getD i 0 := by
  by_cases h : i < bs.size <;> simp [byteAt, Array.getD, List.getD, h]

end Iso

end Preflight.Time
