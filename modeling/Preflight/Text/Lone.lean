/-!
# Texts with lone surrogates

Decoding bytes that let surrogates pass, and escapes in quoted texts, can give texts that
hold lone surrogates: code points from U+D800 to U+DFFF that do not pair up. A `String`
cannot hold them, so such a text is kept as a `String` with the replacement character in
their places, together with each place and the surrogate that stands there. Where the
list of places is empty, the text is exactly its characters.
-/

set_option autoImplicit false

namespace Preflight.Text

/-- The replacement character, standing in a `String` for a lone surrogate. -/
def replacement : Char := Char.ofNat 0xFFFD

/-- A text that may hold lone surrogates. -/
structure LoneText where
  /-- The characters, with the replacement character where a lone surrogate stands. -/
  text : String
  /-- The places of lone surrogates, counted in characters, with their code points. -/
  lone : List (Nat × Nat) := []
  deriving Inhabited

namespace LoneText

/-- The code point at place `i` of a text whose lone surrogates are at `lone`, where the
text has the character `c`. -/
def pointAmong (lone : List (Nat × Nat)) (i : Nat) (c : Char) : Nat :=
  if c == replacement then (List.lookup i lone).getD c.toNat else c.toNat

/-- The code points of the text. -/
def points (s : LoneText) : List Nat :=
  s.text.toList.zipIdx.map (fun (c, i) => pointAmong s.lone i c)

/-- A text being built one code point at a time: its characters so far (last first),
their number, and the lone surrogates among them (last first). -/
structure Builder where
  /-- The characters so far, last first. -/
  rev : List Char := []
  /-- The number of characters so far. -/
  size : Nat := 0
  /-- The lone surrogates so far, last first. -/
  lone : List (Nat × Nat) := []

/-- Adds a code point; a surrogate is added as the replacement character. -/
def Builder.push (b : Builder) (n : Nat) : Builder :=
  if 0xD800 ≤ n && n ≤ 0xDFFF then
    { rev := replacement :: b.rev, size := b.size + 1, lone := (b.size, n) :: b.lone }
  else { b with rev := Char.ofNat n :: b.rev, size := b.size + 1 }

/-- The text built. -/
def Builder.done (b : Builder) : LoneText :=
  ⟨String.ofList b.rev.reverse, b.lone.reverse⟩

/-- The text of some code points. -/
def ofPoints (ps : List Nat) : LoneText :=
  (ps.foldl Builder.push {}).done

end LoneText

end Preflight.Text
