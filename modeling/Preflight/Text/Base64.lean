/-!
# Base64

The base64 alphabet (`A`–`Z`, `a`–`z`, `0`–`9`, `+`, `/`) with `=` as padding. Writing
pads the last group to four characters. Reading is lenient: characters outside the
alphabet are skipped, a padding sequence that closes a group ends the input, and what
remains must not be a partial group.
-/

set_option autoImplicit false

namespace Preflight.Text.Base64

/-- The alphabet, in order of value. -/
def alphabet : Array Char :=
  "ABCDEFGHIJKLMNOPQRSTUVWXYZabcdefghijklmnopqrstuvwxyz0123456789+/".toList.toArray

/-- The character of a six-bit value. -/
def digitChar (v : Nat) : Char :=
  alphabet.getD (v % 64) 'A'

/-- The value of a byte of the alphabet. -/
def value? (b : UInt8) : Option Nat :=
  let c := b.toNat
  if 65 ≤ c && c ≤ 90 then some (c - 65)
  else if 97 ≤ c && c ≤ 122 then some (c - 97 + 26)
  else if 48 ≤ c && c ≤ 57 then some (c - 48 + 52)
  else if c == 43 then some 62
  else if c == 47 then some 63
  else none

/-- Writes bytes as base64 text. -/
def encode (bs : List UInt8) : String :=
  String.ofList (go bs)
where
  /-- Writes groups of three bytes. -/
  go : List UInt8 → List Char
    | [] => []
    | [a] =>
      let n := a.toNat * 65536
      [digitChar (n / 262144), digitChar (n / 4096), '=', '=']
    | [a, b] =>
      let n := a.toNat * 65536 + b.toNat * 256
      [digitChar (n / 262144), digitChar (n / 4096), digitChar (n / 64), '=']
    | a :: b :: c :: rest =>
      let n := a.toNat * 65536 + b.toNat * 256 + c.toNat
      digitChar (n / 262144) :: digitChar (n / 4096) :: digitChar (n / 64) :: digitChar n ::
        go rest

/-- Why base64 text cannot be read. -/
inductive Fault where
  /-- One character is left over after whole groups; `count` is the number of data
  characters the text counts as. -/
  | strayCharacter (count : Nat)
  /-- A partial group is not closed by padding. -/
  | missingPadding

/-- The wording of a fault. -/
def Fault.message : Fault → String
  | .strayCharacter n =>
    s!"Invalid base64-encoded string: number of data characters ({n}) cannot be 1 more than a multiple of 4"
  | .missingPadding => "Incorrect padding"

/-- The state of reading: the place in the current group, the bits left over, the
padding characters seen since the last data character, and the bytes read (last first). -/
structure ReadState where
  /-- How many characters of the current group have been read. -/
  place : Nat := 0
  /-- The bits of the group not yet written. -/
  carry : Nat := 0
  /-- Padding characters seen since the last data character. -/
  pads : Nat := 0
  /-- The bytes read, last first. -/
  out : List UInt8 := []

/-- Reads one data character of value `v`. -/
def ReadState.push (st : ReadState) (v : Nat) : ReadState :=
  match st.place with
  | 0 => { st with place := 1, carry := v, pads := 0 }
  | 1 => { place := 2, carry := v % 16, pads := 0,
           out := UInt8.ofNat ((st.carry * 4 + v / 16) % 256) :: st.out }
  | 2 => { place := 3, carry := v % 4, pads := 0,
           out := UInt8.ofNat ((st.carry * 16 + v / 4) % 256) :: st.out }
  | _ => { place := 0, carry := 0, pads := 0,
           out := UInt8.ofNat ((st.carry * 64 + v) % 256) :: st.out }

/-- Reads the rest of the text; the second part of the result tells whether padding ended
the input. -/
def readFrom (st : ReadState) : List UInt8 → ReadState × Bool
  | [] => (st, false)
  | b :: rest =>
    if b == 61 then
      -- padding counts only inside a group of which two characters are read
      if st.place ≥ 2 then
        if st.place + (st.pads + 1) ≥ 4 then ({ st with pads := st.pads + 1 }, true)
        else readFrom { st with pads := st.pads + 1 } rest
      else readFrom st rest
    else
      match value? b with
      | some v => readFrom (st.push v) rest
      | none => readFrom st rest

/-- Reads base64 text given as bytes, leniently. -/
def decode (bs : List UInt8) : Except Fault (List UInt8) :=
  let (st, closed) := readFrom {} bs
  if closed || st.place == 0 then .ok st.out.reverse
  else if st.place == 1 then .error (.strayCharacter (st.out.length / 3 * 4 + 1))
  else .error .missingPadding

/-- Reads base64 text, leniently. -/
def decodeText (s : String) : Except Fault (List UInt8) :=
  decode s.toUTF8.toList

end Preflight.Text.Base64
