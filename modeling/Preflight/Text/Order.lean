/-!
# Code-point order of texts

Texts are compared character by character by code point; a text comes before every longer
text that starts with it. Names, keys and paths are sorted in this order, and lists of
texts are compared the same way, text by text.
-/

set_option autoImplicit false

namespace Preflight.Text

/-- Whether one list of characters comes strictly before another. -/
def charsLt : List Char → List Char → Bool
  | [], [] => false
  | [], _ :: _ => true
  | _ :: _, [] => false
  | a :: as, b :: bs => a.toNat < b.toNat || (a.toNat == b.toNat && charsLt as bs)

/-- Whether one list of characters comes before another or equals it. -/
def charsLe (a b : List Char) : Bool := !charsLt b a

/-- Whether one text comes before another or equals it. -/
def textLe (a b : String) : Bool := charsLe a.toList b.toList

/-- Whether one list of texts comes strictly before another. -/
def textsLt : List String → List String → Bool
  | [], [] => false
  | [], _ :: _ => true
  | _ :: _, [] => false
  | a :: as, b :: bs => charsLt a.toList b.toList || (a == b && textsLt as bs)

/-- Whether one list of texts comes before another or equals it. -/
def textsLe (a b : List String) : Bool := !textsLt b a

/-- Whether one list of code points comes strictly before another. -/
def pointsLt : List Nat → List Nat → Bool
  | [], [] => false
  | [], _ :: _ => true
  | _ :: _, [] => false
  | a :: as, b :: bs => a < b || (a == b && pointsLt as bs)

/-- Whether one list of code points comes before another or equals it. -/
def pointsLe (a b : List Nat) : Bool := !pointsLt b a

/-- Inserts a text into a list sorted in code-point order, before the first text that it
comes before or equals. -/
def insertText (a : String) : List String → List String
  | [] => [a]
  | b :: l => if textLe a b then a :: b :: l else b :: insertText a l

/-- Sorts texts in code-point order, inserting them one by one. -/
def sortTexts (l : List String) : List String :=
  l.foldr insertText []

theorem charsLt_irrefl (cs : List Char) : charsLt cs cs = false := by
  induction cs with
  | nil => rfl
  | cons c cs ih => simp [charsLt, ih]

theorem charsLe_refl (cs : List Char) : charsLe cs cs = true := by
  simp [charsLe, charsLt_irrefl]

end Preflight.Text
