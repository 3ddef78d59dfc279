import RoutePattern.Expr.CharTest

/-!
# Expressions

`Expr` is an expression over texts: tests on characters, put together by sequence, choice and
repetition, with capture groups, references back to them, conditions on the place and assertions
about the text around it. `Expr.width` bounds the length of what an expression matches.
-/

namespace RoutePattern

/-- Conditions on a place in a text. -/
inductive Anchor where
  | textStart
  | lineStart
  | textEnd
  /-- The end, or a line feed that is the last character. -/
  | finalEnd
  | lineEnd
  /-- A place with a word character on exactly one side. -/
  | boundary (asciiOnly : Bool)
  | noBoundary (asciiOnly : Bool)
deriving DecidableEq, Repr

/-- In what order a repetition tries its counts: most first, least first, or the most alone. -/
inductive Greed where
  | greedy
  | lazy
  | possessive
deriving DecidableEq, Repr

/-- The greatest count of a repetition and the greatest length of a match. It also stands for a
count or a length without a limit. -/
def countLimit : Nat := 4294967295

/-- The lengths that an expression can match. -/
structure Width where
  least : Nat
  most : Nat
deriving DecidableEq, Repr, Inhabited

namespace Width

/-- A width within the limit. The least length stays below it. -/
def within (least most : Nat) : Width :=
  ⟨min least (countLimit - 1), min most countLimit⟩

/-- The width of what matches a fixed number of characters. -/
def fixed (n : Nat) : Width :=
  within n n

/-- The width of two expressions in a row. -/
def followedBy (a b : Width) : Width :=
  within (a.least + b.least) (a.most + b.most)

/-- The width of a choice. -/
def orElse (a b : Width) : Width :=
  ⟨min a.least b.least, max a.most b.most⟩

/-- The width of a repetition. -/
def times (a : Width) (least : Nat) (most : Option Nat) : Width :=
  within (a.least * least) (a.most * most.getD countLimit)

end Width

/-- An expression. Groups are numbered from one. A reference carries the width of its group, and a
look-behind the width of its body. A choice among several expressions ends in `never`, which matches
nowhere. -/
inductive Expr where
  | empty
  | never
  | char (test : CharTest)
  | anchor (place : Anchor)
  | seq (first second : Expr)
  | either (first second : Expr)
  | group (number : Nat) (body : Expr)
  | loop (greed : Greed) (least : Nat) (most : Option Nat) (body : Expr)
  | atomic (body : Expr)
  | ahead (positive : Bool) (body : Expr)
  | behind (positive : Bool) (width : Width) (body : Expr)
  | backref (number : Nat) (width : Width) (fold : Fold)
  | ifGroup (number : Nat) (yes no : Expr)
deriving DecidableEq, Repr, Inhabited

namespace Expr

/-- The expressions of a list in a row. -/
def ofList : List Expr → Expr
  | [] => empty
  | [e] => e
  | e :: rest => seq e (ofList rest)

/-- The lengths that an expression can match. -/
def width : Expr → Width
  | empty | never => .fixed 0
  | char _ => .fixed 1
  | anchor _ => .fixed 0
  | seq first second => first.width.followedBy second.width
  | either first never => first.width
  | either first second => first.width.orElse second.width
  | group _ body => body.width
  | loop _ least most body => body.width.times least most
  | atomic body => body.width
  | ahead _ _ => .fixed 0
  | behind _ _ _ => .fixed 0
  | backref _ width _ => width
  | ifGroup _ yes no => yes.width.orElse no.width

/-- The number of capture groups. -/
def groupCount : Expr → Nat
  | empty | never | char _ | anchor _ | backref _ _ _ => 0
  | seq first second => first.groupCount + second.groupCount
  | either first second => first.groupCount + second.groupCount
  | group _ body => body.groupCount + 1
  | loop _ _ _ body => body.groupCount
  | atomic body => body.groupCount
  | ahead _ body => body.groupCount
  | behind _ _ body => body.groupCount
  | ifGroup _ yes no => yes.groupCount + no.groupCount

end Expr

end RoutePattern
