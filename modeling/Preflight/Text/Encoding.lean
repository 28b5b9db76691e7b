import Preflight.Value.Display
import Preflight.Text.Lone

/-!
# Decoding bytes to text

UTF-8, UTF-16 and UTF-32 decoders that report the first undecodable stretch of bytes: the
codec, the positions of the stretch and the reason. UTF-8 accepts the shortest encodings of
scalar values only; a sequence cut off by the end of the input is `unexpected end of data`
and spans to the end. A decoder that lets surrogates pass keeps a surrogate code unit as a
lone surrogate of the text it gives.
-/

set_option autoImplicit false

namespace Preflight.Text

/-- Why bytes could not be decoded. -/
inductive DecodeReason where
  | invalidStart
  | invalidContinuation
  | unexpectedEnd
  | truncated
  | outOfRange
  | surrogateUnit
  deriving DecidableEq, Repr

/-- The wording of a decoding reason. -/
def DecodeReason.text : DecodeReason → String
  | .invalidStart => "invalid start byte"
  | .invalidContinuation => "invalid continuation byte"
  | .unexpectedEnd => "unexpected end of data"
  | .truncated => "truncated data"
  | .outOfRange => "code point not in range(0x110000)"
  | .surrogateUnit => "illegal encoding"

/-- The first stretch of bytes a decoder could not read. -/
structure DecodeFault where
  /-- The codec, such as `utf-8` or `utf-16-le`. -/
  codec : String
  /-- The first byte of the stretch. -/
  start : Nat
  /-- One past the last byte of the stretch. -/
  stop : Nat
  /-- The bytes that were decoded, so the first byte of the stretch can be named. -/
  input : List UInt8
  /-- Why the stretch could not be decoded. -/
  reason : DecodeReason

/-- The wording of a decoding fault. -/
def DecodeFault.message (f : DecodeFault) : String :=
  let what :=
    if f.stop == f.start + 1 then
      s!"byte 0x{hexPad 2 (f.input.getD f.start 0).toNat} in position {f.start}"
    else s!"bytes in position {f.start}-{f.stop - 1}"
  s!"'{f.codec}' codec can't decode {what}: {f.reason.text}"

/-- Whether a byte continues a UTF-8 sequence. -/
def isCont (b : UInt8) : Bool := b &&& 0xC0 == 0x80

/-- How one UTF-8 sequence at the head of the input reads. -/
inductive Utf8Step where
  /-- A character and the number of bytes it took. -/
  | char (c : Char) (len : Nat)
  /-- An encoded surrogate of three bytes, and its code point. -/
  | surrogate (code : Nat)
  /-- A fault spanning `len` bytes, or to the end when `len = 0`. -/
  | fault (reason : DecodeReason) (len : Nat)

/-- Reads one UTF-8 sequence from the head of `bs`. -/
def utf8Step : List UInt8 → Utf8Step
  | [] => .fault .unexpectedEnd 0
  | b0 :: rest =>
    let v0 := b0.toNat
    if v0 < 0x80 then .char (Char.ofNat v0) 1
    else if v0 < 0xC2 then .fault .invalidStart 1
    else if v0 < 0xE0 then
      match rest with
      | [] => .fault .unexpectedEnd 0
      | b1 :: _ =>
        if !isCont b1 then .fault .invalidContinuation 1
        else .char (Char.ofNat ((v0 &&& 0x1F) * 64 + (b1.toNat &&& 0x3F))) 2
    else if v0 < 0xF0 then
      let badSecond (b1 : UInt8) : Bool :=
        !isCont b1 || (v0 == 0xE0 && b1.toNat < 0xA0)
      match rest with
      | [] => .fault .unexpectedEnd 0
      | [b1] =>
        if badSecond b1 || (v0 == 0xED && b1.toNat ≥ 0xA0) then .fault .invalidContinuation 1
        else .fault .unexpectedEnd 0
      | b1 :: b2 :: _ =>
        if badSecond b1 then .fault .invalidContinuation 1
        else if v0 == 0xED && b1.toNat ≥ 0xA0 then
          if isCont b2 then
            .surrogate ((v0 &&& 0x0F) * 4096 + (b1.toNat &&& 0x3F) * 64 + (b2.toNat &&& 0x3F))
          else .fault .invalidContinuation 1
        else if !isCont b2 then .fault .invalidContinuation 2
        else
          .char (Char.ofNat ((v0 &&& 0x0F) * 4096 + (b1.toNat &&& 0x3F) * 64 +
            (b2.toNat &&& 0x3F))) 3
    else if v0 < 0xF5 then
      let badSecond (b1 : UInt8) : Bool :=
        !isCont b1 || (if b1.toNat < 0x90 then v0 == 0xF0 else v0 == 0xF4)
      match rest with
      | [] => .fault .unexpectedEnd 0
      | [b1] => if badSecond b1 then .fault .invalidContinuation 1 else .fault .unexpectedEnd 0
      | [b1, b2] =>
        if badSecond b1 then .fault .invalidContinuation 1
        else if !isCont b2 then .fault .invalidContinuation 2
        else .fault .unexpectedEnd 0
      | b1 :: b2 :: b3 :: _ =>
        if badSecond b1 then .fault .invalidContinuation 1
        else if !isCont b2 then .fault .invalidContinuation 2
        else if !isCont b3 then .fault .invalidContinuation 3
        else
          .char (Char.ofNat ((v0 &&& 0x07) * 262144 + (b1.toNat &&& 0x3F) * 4096 +
            (b2.toNat &&& 0x3F) * 64 + (b3.toNat &&& 0x3F))) 4
    else .fault .invalidStart 1

/-- Decodes UTF-8; with `passSurrogates` an encoded surrogate reads as a lone surrogate
instead of failing. Positions in faults count from `base`. -/
def decodeUtf8From (codec : String) (passSurrogates : Bool) (all : List UInt8) (base : Nat) :
    Except DecodeFault LoneText :=
  go all base {} (all.length + 1)
where
  /-- Decodes `bs`, which starts at position `pos`, onto the text `acc`. -/
  go (bs : List UInt8) (pos : Nat) (acc : LoneText.Builder) (fuel : Nat) :
      Except DecodeFault LoneText :=
    match fuel, bs with
    | _, [] => .ok acc.done
    | 0, _ => .ok acc.done
    | fuel + 1, _ =>
      match utf8Step bs with
      | .char c n => go (bs.drop n) (pos + n) (acc.push c.toNat) fuel
      | .surrogate code =>
        if passSurrogates then go (bs.drop 3) (pos + 3) (acc.push code) fuel
        else .error ⟨codec, pos, pos + 1, all, .invalidContinuation⟩
      | .fault r n =>
        let stop := if n == 0 then base + all.length else pos + n
        .error ⟨codec, pos, stop, all, r⟩

/-- Decodes strict UTF-8. -/
def decodeUtf8 (bs : List UInt8) : Except DecodeFault String :=
  match decodeUtf8From "utf-8" false bs 0 with
  | .ok s => .ok s.text
  | .error f => .error { f with input := bs }

/-- Decodes code units of `width` bytes (2 or 4) in the given byte order, letting lone
surrogates pass; `codec` names the decoder in faults and positions count from `base` within
`all`. -/
def decodeUnits (codec : String) (width : Nat) (bigEndian : Bool) (all : List UInt8)
    (base : Nat) : Except DecodeFault LoneText :=
  go (all.drop base) base {} (all.length + 1)
where
  /-- The code unit of the first `width` bytes. -/
  unit (bs : List UInt8) : Nat :=
    let ws := bs.take width
    let ws := if bigEndian then ws else ws.reverse
    ws.foldl (fun n b => n * 256 + b.toNat) 0
  /-- Decodes `bs`, at position `pos`, onto the text `acc`. -/
  go (bs : List UInt8) (pos : Nat) (acc : LoneText.Builder) (fuel : Nat) :
      Except DecodeFault LoneText :=
    match fuel with
    | 0 => .ok acc.done
    | fuel + 1 =>
      if bs.isEmpty then .ok acc.done
      else if bs.length < width then .error ⟨codec, pos, pos + bs.length, all, .truncated⟩
      else
        let u := unit bs
        if width == 4 then
          if u > 0x10FFFF then .error ⟨codec, pos, pos + 4, all, .outOfRange⟩
          else go (bs.drop 4) (pos + 4) (acc.push u) fuel
        else if 0xD800 ≤ u && u < 0xDC00 then
          let rest := bs.drop 2
          if rest.length < 2 then
            if rest.isEmpty then .ok (acc.push u).done
            else .error ⟨codec, pos + 2, pos + 2 + rest.length, all, .truncated⟩
          else
            let u2 := unit rest
            if 0xDC00 ≤ u2 && u2 < 0xE000 then
              let c := 0x10000 + (u - 0xD800) * 1024 + (u2 - 0xDC00)
              go (rest.drop 2) (pos + 4) (acc.push c) fuel
            else go rest (pos + 2) (acc.push u) fuel
        else go (bs.drop 2) (pos + 2) (acc.push u) fuel

/-- The encoding an interchange document in bytes is read in, chosen by its byte-order mark
or by where its first bytes are zero. -/
inductive DocEncoding where
  | utf32Marked
  | utf16Marked
  | utf8Marked
  | utf16BE
  | utf16LE
  | utf32BE
  | utf32LE
  | utf8
  deriving DecidableEq, Repr

/-- Chooses the encoding of interchange bytes. -/
def detectEncoding (bs : List UInt8) : DocEncoding :=
  let b (i : Nat) : Nat := (bs.getD i 0).toNat
  if bs.take 4 == [0, 0, 0xFE, 0xFF] || bs.take 4 == [0xFF, 0xFE, 0, 0] then .utf32Marked
  else if bs.take 2 == [0xFE, 0xFF] || bs.take 2 == [0xFF, 0xFE] then .utf16Marked
  else if bs.take 3 == [0xEF, 0xBB, 0xBF] then .utf8Marked
  else if bs.length ≥ 4 then
    if b 0 == 0 then (if b 1 != 0 then .utf16BE else .utf32BE)
    else if b 1 == 0 then (if b 2 != 0 || b 3 != 0 then .utf16LE else .utf32LE)
    else .utf8
  else if bs.length == 2 then
    if b 0 == 0 then .utf16BE else if b 1 == 0 then .utf16LE else .utf8
  else .utf8

/-- Decodes interchange bytes in their detected encoding, letting surrogates pass. -/
def decodeDocument (bs : List UInt8) : Except DecodeFault LoneText :=
  match detectEncoding bs with
  | .utf32Marked =>
    if bs.take 4 == [0, 0, 0xFE, 0xFF] then decodeUnits "utf-32-be" 4 true bs 4
    else decodeUnits "utf-32-le" 4 false bs 4
  | .utf16Marked =>
    if bs.take 2 == [0xFE, 0xFF] then decodeUnits "utf-16-be" 2 true bs 2
    else decodeUnits "utf-16-le" 2 false bs 2
  | .utf8Marked =>
    match decodeUtf8From "utf-8" true (bs.drop 3) 0 with
    | .ok s => .ok s
    | .error f => .error { f with input := bs.drop 3 }
  | .utf16BE => decodeUnits "utf-16-be" 2 true bs 0
  | .utf16LE => decodeUnits "utf-16-le" 2 false bs 0
  | .utf32BE => decodeUnits "utf-32-be" 4 true bs 0
  | .utf32LE => decodeUnits "utf-32-le" 4 false bs 0
  | .utf8 =>
    match decodeUtf8From "utf-8" true bs 0 with
    | .ok s => .ok s
    | .error f => .error { f with input := bs }

/-- Replaces each carriage return, alone or before a line feed, by one line feed. -/
def unifyNewlines : List Char → List Char
  | [] => []
  | '\r' :: '\n' :: rest => '\n' :: unifyNewlines rest
  | '\r' :: rest => '\n' :: unifyNewlines rest
  | c :: rest => c :: unifyNewlines rest

/-- Reads a file's bytes as UTF-8 text with line endings unified to line feeds. -/
def readText (bs : List UInt8) : Except DecodeFault String :=
  (decodeUtf8 bs).map (fun s => String.ofList (unifyNewlines s.toList))

end Preflight.Text
