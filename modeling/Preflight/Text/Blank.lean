import Preflight.Text.Ranges

/-!
# Blank characters

The blank characters are those of Unicode category `Zs` together with the characters whose
bidirectional class is `WS`, `B` or `S` (tab, line feed, the information separators, next
line, line and paragraph separator, ...). Stripping a text removes them at both ends.
Around a number the information separators are not blanks.
-/

set_option autoImplicit false

namespace Preflight.Text

/-- The blank characters, as sorted closed ranges of code points. -/
def blankRanges : List (Nat × Nat) := [
  (0x9, 0xD), (0x1C, 0x20), (0x85, 0x85), (0xA0, 0xA0),
  (0x1680, 0x1680), (0x2000, 0x200A), (0x2028, 0x2029), (0x202F, 0x202F),
  (0x205F, 0x205F), (0x3000, 0x3000)]

/-- Whether `c` is a blank character. -/
def isBlank (c : Char) : Bool :=
  inRangeList blankRanges c.toNat

/-- Removes blank characters at the start of a character list. -/
def dropBlanks : List Char → List Char
  | [] => []
  | c :: cs => if isBlank c then dropBlanks cs else c :: cs

/-- Removes blank characters at both ends of a character list. -/
def stripList (cs : List Char) : List Char :=
  (dropBlanks (dropBlanks cs).reverse).reverse

/-- Removes blank characters at both ends of a text. -/
def strip (s : String) : String :=
  String.ofList (stripList s.toList)

/-- Whether `c` is a blank around a number: a blank other than the information separators
(`\x1c` to `\x1f`), which numbers do not take for blanks. -/
def isNumberBlank (c : Char) : Bool :=
  isBlank c && !(0x1C ≤ c.toNat && c.toNat ≤ 0x1F)

/-- Removes the blanks around a number at both ends of a character list. -/
def stripNumberList (cs : List Char) : List Char :=
  ((cs.dropWhile isNumberBlank).reverse.dropWhile isNumberBlank).reverse

theorem isBlank_space : isBlank ' ' = true := by decide

theorem isBlank_ideographic : isBlank '\u3000' = true := by decide

end Preflight.Text
