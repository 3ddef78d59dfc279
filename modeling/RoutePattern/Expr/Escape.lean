import RoutePattern.Expr.Basic
import RoutePattern.Expr.Fault
import RoutePattern.Expr.Flags
import RoutePattern.Expr.Piece
import RoutePattern.Text.CharName
import RoutePattern.Text.Hex

/-!
# Escapes in an expression

A backslash and a character stand for a class of characters, a condition on the place, a control
character, the character itself, a character given by its number, or a reference to a group. Numbers
go on over the pieces that follow, so an escape may be pending: `Escape` is such an escape, and
`Escape.begin` tells what a backslash and a character begin.
-/

namespace RoutePattern

/-- Whether a character is an octal digit. -/
def isOctalDigit (c : Char) : Bool :=
  '0' ≤ c && c ≤ '7'

/-- An escape whose number is not complete. `text` is what stands after the backslash. -/
inductive Escape where
  /-- A number of `left` more hexadecimal digits. -/
  | hex (text : List Char) (left : Nat)
  /-- A number of up to `left` more octal digits. -/
  | octal (text : List Char) (left : Nat)
  /-- A group number of one or two digits, or an octal number of three. -/
  | reference (text : List Char)
  /-- A character name, after its opening brace if `opened` holds. -/
  | charName (text : List Char) (opened : Bool)
deriving DecidableEq, Repr

/-- What an escape stands for. -/
inductive EscapeMeaning where
  | code (n : Nat)
  | cls (name : CharClass) (negated : Bool)
  | anchor (place : Bool → Anchor)
  | pending (escape : Escape)
  | bad

namespace Escape

/-- The control characters with an escape of their own, and the backslash. -/
def control? (c : Char) : Option Nat :=
  match c with
  | 'a' => some 7
  | 'f' => some 12
  | 'n' => some 10
  | 'r' => some 13
  | 't' => some 9
  | 'v' => some 11
  | '\\' => some 92
  | _ => none

/-- The classes with an escape of their own. -/
def class? (c : Char) : Option (CharClass × Bool) :=
  match c with
  | 'd' => some (.digit, false)
  | 'D' => some (.digit, true)
  | 's' => some (.blank, false)
  | 'S' => some (.blank, true)
  | 'w' => some (.word, false)
  | 'W' => some (.word, true)
  | _ => none

/-- The conditions on a place with an escape of their own. -/
def anchor? (c : Char) : Option (Bool → Anchor) :=
  match c with
  | 'A' => some fun _ => .textStart
  | 'Z' => some fun _ => .textEnd
  | 'b' => some .boundary
  | 'B' => some .noBoundary
  | _ => none

/-- What an escape of any other character begins. -/
def other (c : Char) : EscapeMeaning :=
  match c with
  | 'x' => .pending (.hex [c] 2)
  | 'u' => .pending (.hex [c] 4)
  | 'U' => .pending (.hex [c] 8)
  | 'N' => .pending (.charName [] false)
  | _ => if c.isAlpha then .bad else .code c.toNat

/-- What a backslash and a character begin outside of a set. -/
def begin (c : Char) : EscapeMeaning :=
  match anchor? c, class? c, control? c with
  | some place, _, _ => .anchor place
  | none, some (name, negated), _ => .cls name negated
  | none, none, some n => .code n
  | none, none, none =>
      if c = '0' then .pending (.octal [c] 2)
      else if c.isDigit then .pending (.reference [c])
      else other c

/-- What a backslash and a character begin inside a set. -/
def beginInSet (c : Char) : EscapeMeaning :=
  match class? c, control? c with
  | some (name, negated), _ => .cls name negated
  | none, some n => .code n
  | none, none =>
      if c = 'b' then .code 8
      else if isOctalDigit c then .pending (.octal [c] 2)
      else if c.isDigit then .bad
      else other c

/-- The text of an escape with its backslash. -/
def shown (text : List Char) : String :=
  String.ofList ('\\' :: text)

/-- The code point that complete hexadecimal digits stand for. -/
def hexCode (text : List Char) : Except ExprFault Nat :=
  let n := digitsValue 16 text.tail
  if n < 0x110000 then .ok n else .error (.badEscape (shown text))

/-- The code point that complete octal digits stand for. -/
def octalCode (text : List Char) : Except ExprFault Nat :=
  let n := digitsValue 8 text
  if n ≤ 0o377 then .ok n else .error (.octalTooLarge (shown text))

/-- What a pending escape becomes with one more piece: `none` if the piece is no part of it. -/
def extend (escape : Escape) (piece : Piece) : Option (Except ExprFault EscapeMeaning) :=
  match escape, piece with
  | hex text left, .plain c =>
      if isHexDigit c then
        if left ≤ 1 then some ((hexCode (text ++ [c])).map .code)
        else some (.ok (.pending (hex (text ++ [c]) (left - 1))))
      else none
  | octal text left, .plain c =>
      if isOctalDigit c then
        if left ≤ 1 then some ((octalCode (text ++ [c])).map .code)
        else some (.ok (.pending (octal (text ++ [c]) (left - 1))))
      else none
  | reference text, .plain c =>
      if text.length = 1 ∧ c.isDigit then some (.ok (.pending (reference (text ++ [c]))))
      else if text.length = 2 ∧ text.all isOctalDigit ∧ isOctalDigit c then
        some ((octalCode (text ++ [c])).map .code)
      else none
  | charName text true, .plain '\x7d' =>
      if text.isEmpty then some (.error (.missingName "character name"))
      else
        some <| match codeOfName? text with
          | some n => .ok (.code n)
          | none => .error (.unknownCharacter (String.ofList text))
  | charName text true, piece => some (.ok (.pending (charName (text ++ piece.text) true)))
  | charName _ false, .plain '\x7b' => some (.ok (.pending (charName [] true)))
  | _, _ => none

/-- The number of an escape that ends here: a code point, or the number of a group. -/
def complete : Escape → Except ExprFault (Nat ⊕ Nat)
  | hex text _ => .error (.incompleteEscape (shown text))
  | octal text _ => (octalCode text).map .inl
  | reference text => .ok (.inr (digitsValue 10 text))
  | charName text true =>
      if text.isEmpty then .error (.missingName "character name")
      else .error (.unterminatedName '\x7d')
  | charName _ false => .error .noCharacterBrace

end Escape

end RoutePattern
