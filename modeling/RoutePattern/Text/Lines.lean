/-!
# Lines of a text

`splitLines` splits a text at every kind of line break. A break at the very end begins no further
line, and a carriage return with a line feed is one break.
-/

namespace RoutePattern

/-- Whether a character breaks a line. -/
def isLineBreak (c : Char) : Bool :=
  let n := c.toNat
  (10 ≤ n && n ≤ 13) || (28 ≤ n && n ≤ 30) || n == 0x85 || n == 0x2028 || n == 0x2029

/-- The lines of a text, where `current` is the line in progress, latest character first. -/
def linesFrom (current : List Char) : List Char → List (List Char)
  | [] => if current.isEmpty then [] else [current.reverse]
  | '\r' :: '\n' :: rest => current.reverse :: linesFrom [] rest
  | c :: rest =>
      if isLineBreak c then current.reverse :: linesFrom [] rest
      else linesFrom (c :: current) rest

/-- The lines of a text, without their breaks. -/
def splitLines (text : List Char) : List (List Char) :=
  linesFrom [] text

end RoutePattern
