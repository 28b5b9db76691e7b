import Preflight.Text.Encoding

/-!
# Reading back the bytes of a text

The bytes of a text are the UTF-8 encodings of its characters, one after the other. Each
encoding reads back, by one step of the decoder, as the character it encodes
(`utf8Step_encode`), so strict decoding gives back the text (`decodeUtf8_toUTF8`), and
reading a file's text gives it back as long as it holds no carriage return
(`readText_toUTF8`).
-/

set_option autoImplicit false

namespace Preflight.Text

theorem byteArray_toList_loop (bs : ByteArray) (i : Nat) (r : List UInt8) :
    ByteArray.toList.loop bs i r = r.reverse ++ bs.data.toList.drop i := by
  fun_induction ByteArray.toList.loop bs i r with
  | case1 i r h ih =>
    have hi : i < bs.data.toList.length := by simpa using h
    rw [ih, List.drop_eq_getElem_cons hi]
    simp [ByteArray.get!, h]
  | case2 i r h =>
    rw [List.drop_eq_nil_of_le (by simpa using Nat.le_of_not_lt h)]
    simp

theorem byteArray_toList (bs : ByteArray) : bs.toList = bs.data.toList := by
  simp [ByteArray.toList, byteArray_toList_loop]

@[simp] theorem byteArray_toList_append (a b : ByteArray) : (a ++ b).toList = a.toList ++ b.toList := by
  simp [byteArray_toList]

/-- The bytes of a text are the encodings of its characters. -/
theorem toUTF8_toList (s : String) : s.toUTF8.toList = s.toList.flatMap String.utf8EncodeChar := by
  rw [byteArray_toList, String.toUTF8_eq_toByteArray, ← String.utf8Encode_toList, List.utf8Encode,
    List.data_toByteArray]

/-! ## One character -/

theorem land_0x1F (x : Nat) : x &&& 0x1F = x % 32 := Nat.and_two_pow_sub_one_eq_mod x 5
theorem land_0x3F (x : Nat) : x &&& 0x3F = x % 64 := Nat.and_two_pow_sub_one_eq_mod x 6
theorem land_0x0F (x : Nat) : x &&& 0x0F = x % 16 := Nat.and_two_pow_sub_one_eq_mod x 4
theorem land_0x07 (x : Nat) : x &&& 0x07 = x % 8 := Nat.and_two_pow_sub_one_eq_mod x 3

theorem isCont_iff (b : UInt8) : isCont b = true ↔ 0x80 ≤ b.toNat ∧ b.toNat < 0xC0 := by
  have key : ∀ x, x < 256 → (x &&& 0xC0 = 0x80 ↔ 0x80 ≤ x ∧ x < 0xC0) := by decide +kernel
  rw [← key b.toNat b.toNat_lt, isCont, beq_iff_eq, ← UInt8.toNat_inj, UInt8.toNat_and]
  rfl

/-! The steps of the decoder over well-formed sequences of one to four bytes. -/

theorem utf8Step_one {b0 : UInt8} (h0 : b0.toNat < 0x80) (rest : List UInt8) :
    utf8Step (b0 :: rest) = .char (Char.ofNat b0.toNat) 1 := by
  simp only [utf8Step, if_pos h0]

theorem utf8Step_two {b0 b1 : UInt8} (h0 : 0xC2 ≤ b0.toNat ∧ b0.toNat < 0xE0) (h1 : isCont b1 = true)
    (rest : List UInt8) :
    utf8Step (b0 :: b1 :: rest) = .char (Char.ofNat (b0.toNat % 32 * 64 + b1.toNat % 64)) 2 := by
  simp only [utf8Step, h1, land_0x1F, land_0x3F, Bool.not_true]
  rw [if_neg (by omega), if_neg (by omega), if_pos (by omega)]
  rfl

theorem utf8Step_three {b0 b1 b2 : UInt8} (h0 : 0xE0 ≤ b0.toNat ∧ b0.toNat < 0xF0)
    (h1 : isCont b1 = true) (h2 : isCont b2 = true)
    (hlow : b0.toNat = 0xE0 → 0xA0 ≤ b1.toNat) (hsur : b0.toNat = 0xED → b1.toNat < 0xA0)
    (rest : List UInt8) :
    utf8Step (b0 :: b1 :: b2 :: rest) =
      .char (Char.ofNat (b0.toNat % 16 * 4096 + b1.toNat % 64 * 64 + b2.toNat % 64)) 3 := by
  simp only [utf8Step, h1, h2, land_0x0F, land_0x3F, Bool.not_true, Bool.false_or]
  rw [if_neg (by omega), if_neg (by omega), if_neg (by omega), if_pos (by omega)]
  rw [if_neg (by simp; omega), if_neg (by simp; omega), if_neg (by simp)]

theorem utf8Step_four {b0 b1 b2 b3 : UInt8} (h0 : 0xF0 ≤ b0.toNat ∧ b0.toNat < 0xF5)
    (h1 : isCont b1 = true) (h2 : isCont b2 = true) (h3 : isCont b3 = true)
    (hlow : b0.toNat = 0xF0 → 0x90 ≤ b1.toNat) (hhigh : b0.toNat = 0xF4 → b1.toNat < 0x90)
    (rest : List UInt8) :
    utf8Step (b0 :: b1 :: b2 :: b3 :: rest) =
      .char (Char.ofNat (b0.toNat % 8 * 262144 + b1.toNat % 64 * 4096 + b2.toNat % 64 * 64 +
        b3.toNat % 64)) 4 := by
  simp only [utf8Step, h1, h2, h3, land_0x07, land_0x3F, Bool.not_true, Bool.false_or]
  rw [if_neg (by omega), if_neg (by omega), if_neg (by omega), if_neg (by omega), if_pos (by omega)]
  rw [if_neg (by split <;> simp <;> omega), if_neg (by simp), if_neg (by simp)]

theorem toNat_ofNat_byte {x : Nat} (hx : x < 256) : (UInt8.ofNat x).toNat = x := by
  simp
  omega

theorem isCont_ofNat {x : Nat} (hx : x < 64) : isCont (UInt8.ofNat (x + 0x80)) = true := by
  rw [isCont_iff, toNat_ofNat_byte (by omega)]
  omega

/-- The encoding of a character reads back as that character, whatever bytes follow. -/
theorem utf8Step_encode (c : Char) (rest : List UInt8) :
    utf8Step (String.utf8EncodeChar c ++ rest) = .char c (String.utf8EncodeChar c).length := by
  have hv : c.toNat < 0xD800 ∨ (0xDFFF < c.toNat ∧ c.toNat < 0x110000) := c.valid
  have hc := Char.ofNat_toNat c
  unfold String.utf8EncodeChar
  simp only [Char.toNat] at hv hc
  generalize c.val.toNat = v at hv hc ⊢
  subst hc
  by_cases h1 : v ≤ 0x7f
  · rw [if_pos h1, List.cons_append, List.nil_append,
      utf8Step_one (by rw [toNat_ofNat_byte (by omega)]; omega) rest, toNat_ofNat_byte (by omega)]
    rfl
  rw [if_neg h1]
  by_cases h2 : v ≤ 0x7ff
  · rw [if_pos h2]
    simp only [List.cons_append, List.nil_append]
    rw [utf8Step_two (by rw [toNat_ofNat_byte (by omega)]; omega) (isCont_ofNat (by omega)),
      toNat_ofNat_byte (by omega), toNat_ofNat_byte (by omega)]
    have hval : (v / 64 % 32 + 192) % 32 * 64 + (v % 64 + 128) % 64 = v := by omega
    rw [hval]
    rfl
  rw [if_neg h2]
  by_cases h3 : v ≤ 0xffff
  · rw [if_pos h3]
    simp only [List.cons_append, List.nil_append]
    rw [utf8Step_three (by rw [toNat_ofNat_byte (by omega)]; omega) (isCont_ofNat (by omega))
      (isCont_ofNat (by omega)) (by rw [toNat_ofNat_byte (by omega), toNat_ofNat_byte (by omega)]; omega)
      (by rw [toNat_ofNat_byte (by omega), toNat_ofNat_byte (by omega)]; omega),
      toNat_ofNat_byte (by omega), toNat_ofNat_byte (by omega), toNat_ofNat_byte (by omega)]
    have hval : (v / 4096 % 16 + 224) % 16 * 4096 + (v / 64 % 64 + 128) % 64 * 64 +
        (v % 64 + 128) % 64 = v := by omega
    rw [hval]
    rfl
  rw [if_neg h3]
  simp only [List.cons_append, List.nil_append]
  rw [utf8Step_four (by rw [toNat_ofNat_byte (by omega)]; omega) (isCont_ofNat (by omega))
    (isCont_ofNat (by omega)) (isCont_ofNat (by omega))
    (by rw [toNat_ofNat_byte (by omega), toNat_ofNat_byte (by omega)]; omega)
    (by rw [toNat_ofNat_byte (by omega), toNat_ofNat_byte (by omega)]; omega),
    toNat_ofNat_byte (by omega), toNat_ofNat_byte (by omega), toNat_ofNat_byte (by omega),
    toNat_ofNat_byte (by omega)]
  have hval : (v / 262144 % 8 + 240) % 8 * 262144 + (v / 4096 % 64 + 128) % 64 * 4096 +
      (v / 64 % 64 + 128) % 64 * 64 + (v % 64 + 128) % 64 = v := by omega
  rw [hval]
  rfl
/-! ## A whole text -/

namespace LoneText

theorem push_char (b : Builder) (c : Char) :
    b.push c.toNat = { b with rev := c :: b.rev, size := b.size + 1 } := by
  have hv : c.toNat < 0xD800 ∨ (0xDFFF < c.toNat ∧ c.toNat < 0x110000) := c.valid
  unfold Builder.push
  rw [if_neg (by simp; omega), Char.ofNat_toNat]

end LoneText

/-- Decoding the encodings of characters, with fuel to spare, adds the characters to the text
being built. -/
theorem decode_go_encode (all : List UInt8) (base : Nat) :
    ∀ (cs : List Char) (pos : Nat) (acc : LoneText.Builder) (fuel : Nat),
      (cs.flatMap String.utf8EncodeChar).length < fuel →
      decodeUtf8From.go "utf-8" false all base (cs.flatMap String.utf8EncodeChar) pos acc fuel =
        .ok ⟨String.ofList (acc.rev.reverse ++ cs), acc.lone.reverse⟩
  | [], pos, acc, fuel, _ => by
    cases fuel <;> simp [decodeUtf8From.go, LoneText.Builder.done]
  | c :: cs, pos, acc, fuel, hfuel => by
    have hne : String.utf8EncodeChar c ≠ [] := by
      rw [← List.length_pos_iff, String.length_utf8EncodeChar]
      exact Char.utf8Size_pos c
    obtain ⟨fuel, rfl⟩ : ∃ f, fuel = f + 1 := ⟨fuel - 1, by simp at hfuel; omega⟩
    rw [List.flatMap_cons, decodeUtf8From.go.eq_def]
    split
    · rename_i h
      exact absurd (List.append_eq_nil_iff.1 h).1 hne
    · contradiction
    · rename_i f _ _ hf _
      obtain ⟨rfl, -⟩ := hf
      rw [utf8Step_encode]
      dsimp only
      have hsize := Char.utf8Size_pos c
      rw [List.drop_left, decode_go_encode all base cs _ _ fuel (by simp at hfuel ⊢; omega), LoneText.push_char]
      simp

/-- Strict decoding gives back the text whose bytes it reads. -/
theorem decodeUtf8_toUTF8 (s : String) : decodeUtf8 s.toUTF8.toList = .ok s := by
  have h := decode_go_encode s.toUTF8.toList 0 s.toList 0 {} (s.toUTF8.toList.length + 1)
    (by rw [toUTF8_toList]; omega)
  rw [← toUTF8_toList] at h
  simp only [decodeUtf8, decodeUtf8From, h]
  simp

theorem unifyNewlines_of_not_mem {cs : List Char} (h : '\r' ∉ cs) : unifyNewlines cs = cs := by
  fun_induction unifyNewlines cs with
  | case1 => rfl
  | case2 rest => simp at h
  | case3 rest _ => simp at h
  | case4 c rest _ _ ih =>
    rw [ih (fun hr => h (List.mem_cons_of_mem c hr))]

/-- Reading a file's text gives back a text without carriage returns from its bytes. -/
theorem readText_toUTF8 {s : String} (h : '\r' ∉ s.toList) : readText s.toUTF8.toList = .ok s := by
  rw [readText, decodeUtf8_toUTF8]
  simp [Except.map, unifyNewlines_of_not_mem h]

end Preflight.Text
