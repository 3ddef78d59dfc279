import RoutePattern.Expr.Escape

/-!
# Reading a set

A set is written between brackets: characters, ranges of them, and classes. `SetReader` is the state
of reading one, between two pieces; `SetReader.accept` takes the next piece.
-/

namespace RoutePattern

/-- A set being read. `members` are those found so far, latest first. `low` is a member that a dash
may still turn into the start of a range, with the piece it was written as, and `dash` tells that
the dash has come. `escape` is a pending escape, with the piece it was begun by. -/
structure SetReader where
  fresh : Bool := true
  negated : Bool := false
  members : List Member := []
  low : Option (Member × List Char) := none
  dash : Bool := false
  escape : Option (Escape × List Char) := none
deriving Repr

namespace SetReader

/-- The state after a member that was written as `text`. -/
def take (reader : SetReader) (member : Member) (text : List Char) :
    Except ExprFault SetReader :=
  match reader.low with
  | some (start, startText) =>
      let fault := ExprFault.badRange (String.ofList startText) (String.ofList text)
      match start, member with
      | .code low, .code high =>
          if high < low then .error fault
          else .ok { reader with
            members := .range low high :: reader.members
            low := none
            dash := false
            escape := none }
      | _, _ => .error fault
  | none => .ok { reader with low := some (member, text), dash := false, escape := none }

/-- The state after a member that can no longer start a range has been put with the others. -/
def settleLow (reader : SetReader) : SetReader :=
  match reader.low with
  | some (member, _) => { reader with members := member :: reader.members, low := none }
  | none => reader

/-- The state after an escape means something, with the piece the escape was begun by. -/
def takeEscape (asciiOnly : Bool) (reader : SetReader) (text : List Char) :
    EscapeMeaning → Except ExprFault SetReader
  | .code n => reader.take (.code n) text
  | .cls name negated => reader.take (.cls name asciiOnly negated) text
  | .pending escape => .ok { reader with escape := some (escape, text) }
  | .anchor _ | .bad => .error (.badEscape (String.ofList text))

/-- The state once a pending escape has ended in front of the next piece. -/
def settleEscape (reader : SetReader) : Except ExprFault SetReader :=
  match reader.escape with
  | none => .ok reader
  | some (escape, text) => do
      match ← escape.complete with
      | .inl n => reader.take (.code n) text
      | .inr n => reader.take (.code n) text

/-- The test that a set stands for. A lone character is the same as outside of brackets. -/
def test (fold : Fold) (negated : Bool) (members : List Member) : CharTest :=
  match members.eraseDups with
  | [.code n] => .literal n negated fold
  | unique => .set unique negated fold

/-- The state after the next piece, or the test of the set that the piece ends. -/
def accept (flags : Flags) (reader : SetReader) (piece : Piece) :
    Except ExprFault (SetReader ⊕ CharTest) := do
  let reading := { reader with fresh := false }
  let finish (members : List Member) : SetReader ⊕ CharTest :=
    .inr (test flags.fold reader.negated members.reverse)
  match reader.escape with
  | some (escape, text) =>
      match escape.extend piece with
      | some meaning => return .inl (← reading.takeEscape flags.asciiOnly text (← meaning))
      | none => return .inl reader
  | none =>
      match piece with
      | .plain c =>
          if reader.fresh && c == '^' then return .inl { reading with negated := true }
          else if reader.dash then
            if c == ']' then return finish (.code 45 :: reader.settleLow.members)
            else return .inl (← reading.take (.code c.toNat) [c])
          else if reader.low.isSome && c == '-' then return .inl { reading with dash := true }
          else
            let settled := reading.settleLow
            if c == ']' && !settled.members.isEmpty then return finish settled.members
            else return .inl (← settled.take (.code c.toNat) [c])
      | .escaped c =>
          let settled := if reader.dash then reading else reading.settleLow
          return .inl (← settled.takeEscape flags.asciiOnly ['\\', c] (Escape.beginInSet c))
      | .lone => return .inl reader

end SetReader

end RoutePattern
