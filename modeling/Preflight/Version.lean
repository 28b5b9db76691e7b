import Preflight.Failure
import Preflight.Text.Blank

/-!
# Release versions

Versions of released packages, written as the packaging standard for version numbers
describes: an optional epoch (`1!`), a release of dot-separated numbers, then an optional
pre-release (`a`, `b` or `rc` with a number), post-release (`.post` with a number) and
development release (`.dev` with a number), and last an optional local label after `+`.

Reading is lenient in the ways the standard allows: blanks around the text and a leading
`v` are ignored, letters may be of either case, `alpha`, `beta`, `c`, `pre`, `preview`,
`rev` and `r` are other spellings, separators between the parts may be `.`, `-` or `_` or
missing, a missing number is 0, and `-N` is a post-release. Letters are ASCII letters
only. A number of more than 4300 digits is refused, as integers of that many digits are
not read. Writing a version gives its normal form, so `1.0-RC1` reads as the version
written `1.0rc1`.

Versions are ordered by epoch, then release (trailing zeros do not count), then pre-release,
post-release, development release and local label. A development release of a release
comes before its pre-releases; a version without a local label comes before any with one.
-/

set_option autoImplicit false

namespace Preflight

/-- A part of a local label: a number or a word. -/
inductive LocalPart where
  | num (n : Nat)
  | word (s : String)
  deriving DecidableEq, Repr, Inhabited

/-- A version. -/
structure Version where
  /-- The epoch, 0 when not written. -/
  epoch : Nat := 0
  /-- The release numbers, at least one. -/
  release : List Nat
  /-- The pre-release: its letters in normal form (`a`, `b` or `rc`) and number. -/
  pre : Option (String × Nat) := none
  /-- The post-release number. -/
  post : Option Nat := none
  /-- The development release number. -/
  dev : Option Nat := none
  /-- The local label's parts. -/
  localLabel : Option (List LocalPart) := none
  deriving DecidableEq, Repr, Inhabited

namespace Version

/-- A character as letters compare when case is ignored: upper case ASCII letters become
lower case; no other character changes. -/
def foldCase (c : Char) : Char :=
  if 'A' ≤ c && c ≤ 'Z' then Char.ofNat (c.toNat + 32) else c

/-- Reads a word, ignoring case: the characters read and the rest. -/
def readWord (w : String) (cs : List Char) : Option (List Char × List Char) :=
  let n := w.length
  if (cs.take n).map foldCase == w.toList && cs.length ≥ n then some (cs.take n, cs.drop n)
  else none

/-- Reads the first of several words that is there. -/
def readOneOf (ws : List String) (cs : List Char) : Option (List Char × List Char) :=
  ws.findSome? (fun w => readWord w cs)

/-- Whether a character is an ASCII digit. -/
def isDigit (c : Char) : Bool := '0' ≤ c && c ≤ '9'

/-- The value of ASCII digits. -/
def digitsValue (ds : List Char) : Nat :=
  ds.foldl (fun n d => 10 * n + (d.toNat - '0'.toNat)) 0

/-- Reads a number: one or more ASCII digits, kept as written, and the rest. -/
def readNumber (cs : List Char) : Option (List Char × List Char) :=
  let ds := cs.takeWhile isDigit
  if ds.isEmpty then none else some (ds, cs.dropWhile isDigit)

/-- Whether a character separates parts. -/
def isSeparator (c : Char) : Bool := c == '.' || c == '-' || c == '_'

/-- Skips one separator, if there is one. -/
def skipSeparator : List Char → List Char
  | c :: rest => if isSeparator c then rest else c :: rest
  | [] => []

/-- Dropping leading characters never lengthens a list. -/
theorem length_dropWhile_le (p : Char → Bool) : ∀ l : List Char, (l.dropWhile p).length ≤ l.length
  | [] => by simp
  | a :: l => by
    simp only [List.dropWhile_cons]
    split
    · have := length_dropWhile_le p l
      simp only [List.length_cons]
      omega
    · simp

/-- Reads further release numbers, each after a dot. -/
def readMoreNumbers : List Char → List (List Char) × List Char
  | '.' :: rest =>
    let ds := rest.takeWhile isDigit
    if ds.isEmpty then ([], '.' :: rest)
    else
      let (ns, rest') := readMoreNumbers (rest.dropWhile isDigit)
      (ds :: ns, rest')
  | cs => ([], cs)
termination_by cs => cs.length
decreasing_by
  have h1 := length_dropWhile_le isDigit rest
  simp only [List.length_cons]
  omega

/-- Reads a labelled part: an optional separator, one of the labels, an optional separator
and an optional number. -/
def readLabelled (labels : List String) (cs : List Char) :
    Option (List Char × Option (List Char) × List Char) :=
  match readOneOf labels (skipSeparator cs) with
  | none => none
  | some (l, rest) =>
    let rest := skipSeparator rest
    match readNumber rest with
    | some (n, rest') => some (l, some n, rest')
    | none => some (l, none, rest)

/-- The normal form of pre-release letters, given in lower case. -/
def preLetters (l : String) : String :=
  if l == "alpha" then "a" else if l == "beta" then "b"
  else if l == "c" || l == "pre" || l == "preview" then "rc" else l

/-- Reads a pre-release; a missing number is written `0`. -/
def readPre (cs : List Char) : Option (String × List Char) × List Char :=
  match readLabelled ["alpha", "a", "beta", "b", "preview", "pre", "c", "rc"] cs with
  | some (l, n, rest) => (some (preLetters (String.ofList (l.map foldCase)), n.getD ['0']), rest)
  | none => (none, cs)

/-- Reads a post-release: `-N`, or a labelled part. -/
def readPost (cs : List Char) : Option (List Char) × List Char :=
  match cs with
  | '-' :: rest =>
    match readNumber rest with
    | some (n, rest') => (some n, rest')
    | none => labelled
  | _ => labelled
where
  /-- The labelled spelling. -/
  labelled : Option (List Char) × List Char :=
    match readLabelled ["post", "rev", "r"] cs with
    | some (_, n, rest) => (some (n.getD ['0']), rest)
    | none => (none, cs)

/-- Reads a development release. -/
def readDev (cs : List Char) : Option (List Char) × List Char :=
  match readLabelled ["dev"] cs with
  | some (_, n, rest) => (some (n.getD ['0']), rest)
  | none => (none, cs)

/-- Whether a character may stand in a local label word: an ASCII letter or digit. -/
def isLabelChar (c : Char) : Bool :=
  let f := foldCase c
  isDigit f || ('a' ≤ f && f ≤ 'z')

/-- The parts of a local label, if the text is one: words of letters and digits separated
by single separators. -/
def localParts (cs : List Char) : Option (List (List Char)) :=
  let parts := splitParts cs
  if parts.all (fun p => !p.isEmpty && p.all isLabelChar) then some parts else none
where
  /-- Splits at every separator. -/
  splitParts : List Char → List (List Char)
    | [] => [[]]
    | c :: rest =>
      let ps := splitParts rest
      if isSeparator c then [] :: ps
      else match ps with
        | p :: more => (c :: p) :: more
        | [] => [[c]]

/-- A version as written: its numbers still as their digits, its words as written. -/
structure Spelling where
  /-- The epoch's digits. -/
  epoch : List Char
  /-- The release numbers' digits. -/
  release : List (List Char)
  /-- The pre-release letters in normal form, and the number's digits. -/
  pre : Option (String × List Char)
  /-- The post-release number's digits. -/
  post : Option (List Char)
  /-- The development release number's digits. -/
  dev : Option (List Char)
  /-- The local label's parts. -/
  localLabel : Option (List (List Char))

/-- Reads how a version is written; a text that is not a version reads as `none`. -/
def spell? (s : String) : Option Spelling := do
  let cs := (Text.strip s).toList
  let cs := match readWord "v" cs with
    | some (_, rest) => rest
    | none => cs
  let (epoch, cs) := match readNumber cs with
    | some (n, '!' :: rest) => (n, rest)
    | _ => (['0'], cs)
  let (first, cs) ← readNumber cs
  let (more, cs) := readMoreNumbers cs
  let (pre, cs) := readPre cs
  let (post, cs) := readPost cs
  let (dev, cs) := readDev cs
  let localLabel ← match cs with
    | [] => some none
    | '+' :: rest => (localParts rest).map some
    | _ => none
  return { epoch, release := first :: more, pre, post, dev, localLabel }

/-- The most digits a number of a version may have. -/
def digitLimit : Nat := 4300

/-- The value of a number's digits; more digits than the limit are refused. -/
def numberOf (ds : List Char) : Except Failure Nat :=
  if ds.length > digitLimit then .error (Failure.tooManyDigits ds.length)
  else .ok (digitsValue ds)

/-- A part of a local label as it is kept: a number when it is all digits, else the word
in lower case. -/
def LocalPart.ofChars (p : List Char) : Except Failure LocalPart :=
  if p.all isDigit then .num <$> numberOf p else .ok (.word (String.ofList (p.map foldCase)))

/-- The version a spelling writes, its numbers valued in order: epoch, release,
pre-release, post-release, development release and local label. -/
def Spelling.value (w : Spelling) : Except Failure Version := do
  let epoch ← numberOf w.epoch
  let release ← w.release.mapM numberOf
  let pre ← match w.pre with
    | some (l, ds) => (fun n => some (l, n)) <$> numberOf ds
    | none => pure none
  let post ← w.post.mapM numberOf
  let dev ← w.dev.mapM numberOf
  let localLabel ← w.localLabel.mapM (·.mapM LocalPart.ofChars)
  return { epoch, release, pre, post, dev, localLabel }

/-- Reads a version: `none` for a text that is not one, a failure for one with a number of
more digits than are read. -/
def read (s : String) : Except Failure (Option Version) :=
  match spell? s with
  | none => .ok none
  | some w => some <$> w.value

/-- The normal form of a version. -/
def toText (v : Version) : String :=
  let epoch := if v.epoch == 0 then "" else s!"{v.epoch}!"
  let release := ".".intercalate (v.release.map toString)
  let pre := match v.pre with
    | some (l, n) => l ++ toString n
    | none => ""
  let post := match v.post with
    | some n => s!".post{n}"
    | none => ""
  let dev := match v.dev with
    | some n => s!".dev{n}"
    | none => ""
  let label := match v.localLabel with
    | some ps => "+" ++ ".".intercalate (ps.map fun
        | .num n => toString n
        | .word w => w)
    | none => ""
  epoch ++ release ++ pre ++ post ++ dev ++ label

/-- Whether a version is a pre-release or a development release. -/
def isPrerelease (v : Version) : Bool := v.pre.isSome || v.dev.isSome

/-- A value, or a bound below or above every value. -/
inductive Bounded (α : Type) where
  | below
  | at (a : α)
  | above
  deriving DecidableEq, Repr

/-- Compares bounded values. -/
def Bounded.compareWith {α : Type} (cmp : α → α → Ordering) : Bounded α → Bounded α → Ordering
  | .below, .below => .eq
  | .below, _ => .lt
  | _, .below => .gt
  | .above, .above => .eq
  | .above, _ => .gt
  | _, .above => .lt
  | .at a, .at b => cmp a b

/-- Compares lists element by element; a proper prefix comes first. -/
def compareLists {α : Type} (cmp : α → α → Ordering) : List α → List α → Ordering
  | [], [] => .eq
  | [], _ :: _ => .lt
  | _ :: _, [] => .gt
  | a :: as, b :: bs =>
    match cmp a b with
    | .eq => compareLists cmp as bs
    | o => o

/-- Compares local label parts: words come before numbers. -/
def LocalPart.compare : LocalPart → LocalPart → Ordering
  | .num a, .num b => Ord.compare a b
  | .word _, .num _ => .lt
  | .num _, .word _ => .gt
  | .word a, .word b => Ord.compare a b

/-- The release numbers without trailing zeros. -/
def trimmedRelease (v : Version) : List Nat :=
  (v.release.reverse.dropWhile (· == 0)).reverse

/-- Where the pre-release puts a version: a development release of a plain release comes
first, a version without pre-release after all pre-releases. -/
def preKey (v : Version) : Bounded (String × Nat) :=
  match v.pre with
  | some p => .at p
  | none => if v.post.isNone && v.dev.isSome then .below else .above

/-- Compares two versions. -/
def compare (a b : Version) : Ordering :=
  let pairCmp (x y : String × Nat) : Ordering :=
    match Ord.compare x.1 y.1 with
    | .eq => Ord.compare x.2 y.2
    | o => o
  let steps : List Ordering :=
    [Ord.compare a.epoch b.epoch,
     compareLists Ord.compare a.trimmedRelease b.trimmedRelease,
     Bounded.compareWith pairCmp a.preKey b.preKey,
     Bounded.compareWith Ord.compare (a.post.elim .below .at) (b.post.elim .below .at),
     Bounded.compareWith Ord.compare (a.dev.elim .above .at) (b.dev.elim .above .at),
     Bounded.compareWith (compareLists LocalPart.compare)
       (a.localLabel.elim .below .at) (b.localLabel.elim .below .at)]
  (steps.find? (· != .eq)).getD .eq

/-- Whether `a` comes strictly before `b`. -/
def lt (a b : Version) : Bool := compare a b == .lt

/-- Whether `a` comes before `b` or equals it in order. -/
def le (a b : Version) : Bool := compare a b != .gt

/-- Whether two versions are equal in order. -/
def same (a b : Version) : Bool := compare a b == .eq

/-- The greatest of some versions, the first of equal ones. -/
def greatest? : List Version → Option Version
  | [] => none
  | v :: vs => some (vs.foldl (fun best w => if compare w best == .gt then w else best) v)

end Version

end Preflight
