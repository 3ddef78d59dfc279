import RoutePattern.Text.Case
import RoutePattern.Text.Blank
import RoutePattern.Text.Digit
import RoutePattern.Text.Letter

/-!
# Tests on a single character

The leaves of an expression test one character: against one code point, against a set written in
brackets, or against nothing at all. `CharTest.accepts` decides a test. When case is ignored,
characters are compared by their lower-case forms and by the forms that share an upper-case form
with them.
-/

namespace RoutePattern

/-- How characters of different case compare: as different, or as equal within ASCII or within all
scripts. -/
inductive Fold where
  | keep
  | ascii
  | unicode
deriving DecidableEq, Repr, Inhabited

namespace Fold

/-- The lower-case form of a code point. -/
def lower : Fold → Nat → Nat
  | keep, n => n
  | ascii, n => asciiLower n
  | unicode, n => lowerCode n

/-- Whether a code point has a case. -/
def cased : Fold → Nat → Bool
  | keep, _ => false
  | ascii, n => asciiLower n != n || asciiUpper n != n
  | unicode, n => isCased n

/-- Whether some code point from `low` to `high` has a case. -/
def anyCased : Fold → Nat → Nat → Bool
  | keep, _, _ => false
  | ascii, low, high => max low 65 ≤ min high 90 || max low 97 ≤ min high 122
  | unicode, low, high => RoutePattern.anyCased low high

/-- The other lower-case forms that equal a given one. -/
def others : Fold → Nat → List Nat
  | unicode, n => sharing n
  | _, _ => []

/-- The code points with a given lower-case form. -/
def sources : Fold → Nat → List Nat
  | keep, n => [n]
  | ascii, n => [n, asciiUpper n].filter fun source => asciiLower source == n
  | unicode, n => lowerSources n

end Fold

/-- The named classes of characters. -/
inductive CharClass where
  | digit
  | blank
  | word
deriving DecidableEq, Repr

/-- Whether a code point is in a class, within ASCII or within all scripts. -/
def CharClass.holds (asciiOnly : Bool) : CharClass → Nat → Bool
  | digit, n => if asciiOnly then 48 ≤ n && n ≤ 57 else isDecimalDigit n
  | blank, n => if asciiOnly then (9 ≤ n && n ≤ 13) || n == 32 else isBlankCode n
  | word, n => (!asciiOnly || n < 128) && isWord n

/-- What a set may list: a code point, a range of them, or a class or its complement. -/
inductive Member where
  | code (n : Nat)
  | range (low high : Nat)
  | cls (name : CharClass) (asciiOnly negated : Bool)
deriving DecidableEq, Repr

namespace Member

/-- The first code point of the supplementary planes. Case is ignored there only for ranges. -/
def firstSupplementary : Nat := 65536

/-- Whether a code point is in a member. -/
def holds : Member → Nat → Bool
  | code n, x => x == n
  | range low high, x => low ≤ x && x ≤ high
  | cls name asciiOnly negated, x => negated != name.holds asciiOnly x

/-- Whether a member makes its set ignore case. -/
def folds (fold : Fold) : Member → Bool
  | code n => fold != .keep && (firstSupplementary ≤ n || fold.cased n)
  | range low high => fold != .keep && (firstSupplementary ≤ high || fold.anyCased low high)
  | cls _ _ _ => false

/-- Whether the lower-case form `x` equals one that a member holds. -/
def holdsFolded (fold : Fold) : Member → Nat → Bool
  | code n, x =>
      if firstSupplementary ≤ n then x == n
      else x == fold.lower n || (fold.others (fold.lower n)).contains x
  | range low high, x =>
      let within (n : Nat) : Bool := low ≤ n && n ≤ high
      (x :: fold.others x).any (fun form =>
        (fold.sources form).any fun source => source < firstSupplementary && within source) ||
      (firstSupplementary ≤ high && (within x || within (upperCode x)))
  | cls name asciiOnly negated, x => negated != name.holds asciiOnly x

/-- Whether a member holds the same characters whatever their case. -/
def isPlain (fold : Fold) : Member → Bool
  | code n => !fold.cased n
  | range low high => fold == .keep || (high < firstSupplementary && !fold.anyCased low high)
  | cls _ _ _ => true

/-- A member with its class taken within ASCII or within all scripts. -/
def takeClass (asciiOnly : Bool) : Member → Member
  | cls name _ negated => cls name asciiOnly negated
  | member => member

end Member

/-- A test on a single character. -/
inductive CharTest where
  /-- Every character, or every one but a line feed. -/
  | any (lineFeed : Bool)
  /-- One code point, or every other one. -/
  | literal (code : Nat) (negated : Bool) (fold : Fold)
  /-- The members of a set, or every other character. -/
  | set (members : List Member) (negated : Bool) (fold : Fold)
deriving DecidableEq, Repr

namespace CharTest

/-- Whether a code point equals a literal one. -/
def sameCode (fold : Fold) (code x : Nat) : Bool :=
  if fold.cased code then
    let form := fold.lower code
    fold.lower x == form || (fold.others form).contains (fold.lower x)
  else x == code

/-- Whether the members of a set are compared without regard to case. -/
def foldsMembers (fold : Fold) (members : List Member) : Bool :=
  members.any (·.folds fold)

/-- Whether a code point is among the members of a set. -/
def amongMembers (fold : Fold) (members : List Member) (x : Nat) : Bool :=
  if foldsMembers fold members then members.any (·.holdsFolded fold (fold.lower x))
  else members.any (·.holds x)

/-- Whether a test accepts a character. -/
def accepts (test : CharTest) (c : Char) : Bool :=
  match test with
  | any lineFeed => lineFeed || c != '\n'
  | literal code negated fold => negated != sameCode fold code c.toNat
  | set members negated fold => negated != amongMembers fold members c.toNat

/-- Whether a test compares characters as they are, with one code point or with a set. -/
def isExact : CharTest → Bool
  | any _ => false
  | literal code negated fold => !negated && !fold.cased code
  | set members _ fold => !foldsMembers fold members

/-- The code point that is all an exact test accepts. -/
def exactCode? (test : CharTest) : Option Nat :=
  match test with
  | literal code _ _ => if test.isExact then some code else none
  | _ => none

/-- Whether a test compares the lower-case form of a character with several others. -/
def isFolded : CharTest → Bool
  | any _ => false
  | literal code _ fold => fold.cased code && !(fold.others (fold.lower code)).isEmpty
  | set members _ fold => foldsMembers fold members

end CharTest

end RoutePattern
