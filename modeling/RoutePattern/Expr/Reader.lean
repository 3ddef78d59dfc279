import RoutePattern.Expr.Alternation
import RoutePattern.Expr.SetReader
import RoutePattern.Number.Integer
import RoutePattern.Text.Identifier

/-!
# Reading an expression

`ExprReader` is the state of reading an expression, between two pieces of its text: the groups that
are open, the numbers and names of groups given so far, and what the last pieces have begun.
Reading a piece has two steps. `ExprReader.settle` looks at the piece and ends what does not go on
with it; `ExprReader.accept` then takes it. `ExprReader.run` does so for every piece in turn, so
reading two texts in a row is the same as reading one after the other. Groups may be nested without
bound: the limit that the stack of a running engine sets to their depth is left out, here and where
an expression is matched.
-/

namespace RoutePattern

/-- A term of a branch: an expression, or the content of a group without number and flags, which
joins the branch when the branch ends. -/
inductive Term where
  | item (e : Expr)
  | bare (items : List Expr)
deriving DecidableEq, Repr

/-- The expressions of a term. -/
def Term.items : Term → List Expr
  | item e => [e]
  | bare items => items

/-- What a group is for. -/
inductive GroupKind where
  | capture (number : Nat)
  | bare
  /-- A group with flags of its own. -/
  | scoped
  | atomic
  | ahead (positive : Bool)
  /-- A look-behind, with the bound on group numbers that held around it. -/
  | behind (positive : Bool) (outerBound : Option Nat)
  | condition (number : Nat)
deriving DecidableEq, Repr

/-- A group that is being read: its finished branches and the terms of the current one, both latest
first, and the flags in force. -/
structure Frame where
  kind : GroupKind
  branches : List (List Expr) := []
  terms : List Term := []
  flags : Flags
deriving DecidableEq, Repr

namespace Frame

/-- The current branch as a list of expressions. -/
def branch (frame : Frame) : List Expr :=
  frame.terms.reverse.flatMap Term.items

/-- Every branch, in the order they are written. -/
def allBranches (frame : Frame) : List (List Expr) :=
  (frame.branch :: frame.branches).reverse

/-- The content of the group. -/
def items (frame : Frame) : List Expr :=
  Alternation.ofBranches frame.flags.fold frame.allBranches

/-- The content of the group as one expression. -/
def body (frame : Frame) : Expr :=
  .ofList frame.items

/-- The term that a finished group stands for. A group with flags of its own ends in an empty
expression, which keeps it apart from what is around it. -/
def term (frame : Frame) : Term :=
  match frame.kind with
  | .capture number => .item (.group number frame.body)
  | .bare => .bare frame.items
  | .scoped => .item (.seq frame.body .empty)
  | .atomic => .item (.atomic frame.body)
  | .ahead positive => .item (.ahead positive frame.body)
  | .behind positive _ => .item (.behind positive frame.body.width frame.body)
  | .condition number =>
      match frame.allBranches with
      | [yes] => .item (.ifGroup number (.ofList yes) .empty)
      | yes :: no :: _ => .item (.ifGroup number (.ofList yes) (.ofList no))
      | [] => .item .empty

end Frame

/-- What follows an opening parenthesis, as far as it has been read. -/
inductive Opening where
  | paren
  | question
  | extension
  | groupName (text : List Char)
  | groupReference (text : List Char)
  | behind
  | condition (text : List Char)
  | comment
  | flagsOn (on : List Char)
  | flagsOff (on off : List Char)
deriving DecidableEq, Repr

/-- What the last pieces have begun. -/
inductive Pending where
  | nothing
  /-- A repetition, whose order a mark may still change. -/
  | repetition
  /-- The bounds of a repetition, after their opening brace. -/
  | bounds (least : List Char) (comma : Bool) (most : List Char)
  | escape (escape : Escape)
  | set (reader : SetReader)
  | opening (opening : Opening)
  /-- A remark between the parts of a verbose expression, up to the end of its line. -/
  | remark
deriving Repr

/-- The state of reading an expression. `frame` is the innermost open group and `outer` are those
around it. `closed` holds the finished groups with their widths, and `behindBound` the least group
number that is inside the outermost open look-behind. -/
structure ExprReader where
  pending : Pending := .nothing
  frame : Frame
  outer : List Frame := []
  names : List (String × Nat) := []
  opened : Nat := 0
  closed : List (Nat × Width) := []
  behindBound : Option Nat := none
  conditions : List Nat := []
  flags : Flags
  wide : Bool := false
deriving Repr

namespace ExprReader

/-- The state at the start of an expression. -/
def start (flags : Flags) : ExprReader :=
  { frame := { kind := .bare, flags }, flags }

/-- The state after one more term. -/
def push (reader : ExprReader) (term : Term) : ExprReader :=
  { reader with pending := .nothing, frame.terms := term :: reader.frame.terms }

/-- The state after one more test on a character. -/
def pushTest (reader : ExprReader) (test : CharTest) : ExprReader :=
  reader.push (.item (.char test))

/-- The state after one more literal code point. -/
def pushCode (reader : ExprReader) (n : Nat) : ExprReader :=
  reader.pushTest (.literal n false reader.frame.flags.fold)

/-- The state after literal characters. -/
def pushChars (reader : ExprReader) (chars : List Char) : ExprReader :=
  chars.foldl (fun reader c => reader.pushCode c.toNat) reader

/-- The state inside a new group. -/
def openGroup (reader : ExprReader) (kind : GroupKind) (flags : Flags) : ExprReader :=
  { reader with
    pending := .nothing
    frame := { kind, flags }
    outer := reader.frame :: reader.outer }

/-- The state inside a new capture group. -/
def openCapture (reader : ExprReader) (name : Option String) : Except ExprFault ExprReader :=
  let number := reader.opened + 1
  let opened := { reader.openGroup (.capture number) reader.frame.flags with opened := number }
  match name with
  | none => .ok opened
  | some name =>
      match reader.names.lookup name with
      | some previous => .error (.redefinedName name number previous)
      | none => .ok { opened with names := reader.names ++ [(name, number)] }

/-- The state inside a new look-behind. -/
def openBehind (reader : ExprReader) (positive : Bool) : ExprReader :=
  { reader.openGroup (.behind positive reader.behindBound) reader.frame.flags with
    behindBound := some (reader.behindBound.getD (reader.opened + 1)) }

/-- The state after the innermost group has been closed. -/
def close (reader : ExprReader) (parent : Frame) (rest : List Frame) : ExprReader :=
  let frame := reader.frame
  let after := { reader with frame := parent, outer := rest }.push frame.term
  match frame.kind with
  | .capture number => { after with closed := (number, frame.body.width) :: reader.closed }
  | .behind _ outerBound => { after with behindBound := outerBound }
  | _ => after

/-- Inside a look-behind, a group may be referred to only if it was finished before it. -/
def checkBehind (reader : ExprReader) (number : Nat) : Except ExprFault Unit :=
  match reader.behindBound with
  | none => .ok ()
  | some bound =>
      if (reader.closed.lookup number).isNone then .error .openReference
      else if bound ≤ number then .error .referenceWithinBehind
      else .ok ()

/-- The state after a reference to a group that has been opened. -/
def refer (reader : ExprReader) (number : Nat) : Except ExprFault ExprReader := do
  match reader.closed.lookup number with
  | none => .error .openReference
  | some width =>
      reader.checkBehind number
      return reader.push (.item (.backref number width reader.frame.flags.fold))

/-- The state after a reference by number. -/
def referNumber (reader : ExprReader) (number : Nat) : Except ExprFault ExprReader :=
  if number ≤ reader.opened then reader.refer number else .error (.invalidReference number)

/-- The state after a reference by name. -/
def referName (reader : ExprReader) (name : List Char) : Except ExprFault ExprReader :=
  let text := String.ofList name
  if name.isEmpty then .error (.missingName "group name")
  else if !isIdentifier name then .error (.badGroupName text)
  else
    match reader.names.lookup text with
    | none => .error (.unknownGroupName text)
    | some number => reader.refer number

/-- The state after the name of a new group. -/
def nameGroup (reader : ExprReader) (name : List Char) : Except ExprFault ExprReader :=
  if name.isEmpty then .error (.missingName "group name")
  else if !isIdentifier name then .error (.badGroupName (String.ofList name))
  else reader.openCapture (some (String.ofList name))

/-- The number at which a reference to a group is too large. -/
def groupLimit : Nat := 1073741823

/-- The state inside a group whose branches depend on another group, given by name or number. -/
def openCondition (reader : ExprReader) (name : List Char) : Except ExprFault ExprReader := do
  let text := String.ofList name
  let inside (number : Nat) : Except ExprFault ExprReader := do
    reader.checkBehind number
    return reader.openGroup (.condition number) reader.frame.flags
  if name.isEmpty then .error (.missingName "group name")
  else if isIdentifier name then
    match reader.names.lookup text with
    | none => .error (.unknownGroupName text)
    | some number => inside number
  else
    match readInteger name with
    | .ok (.ofNat 0) => .error .badGroupNumber
    | .ok (.ofNat number) =>
        if groupLimit ≤ number then .error (.invalidReference number)
        else do return { ← inside number with conditions := reader.conditions ++ [number] }
    | _ => .error (.badGroupName text)

/-- The state after a repetition of the last term. -/
def repeatLast (reader : ExprReader) (least : Nat) (most : Option Nat) :
    Except ExprFault ExprReader :=
  let again (earlier : List Term) (body : Expr) : ExprReader :=
    { reader with
      pending := .repetition
      frame.terms := .item (.loop .greedy least most body) :: earlier }
  match reader.frame.terms with
  | [] => .error .nothingToRepeat
  | .item (.anchor _) :: _ => .error .nothingToRepeat
  | .item (.loop _ _ _ _) :: _ => .error .multipleRepeat
  | .item e :: earlier => .ok (again earlier e)
  | .bare items :: earlier => .ok (again earlier (.ofList items))

/-- The count that digits in the bounds of a repetition stand for. -/
def readCount (digits : List Char) : Except ExprFault Nat :=
  if digitLimit < digits.length then .error (.countTooLong digits.length)
  else
    let count := digitsValue 10 digits
    if countLimit ≤ count then .error .repetitionTooLarge else .ok count

/-- The state after a repetition with written bounds. Without digits the least count is zero, or the
most has no limit. -/
def repeatBounds (reader : ExprReader) (least : List Char) (comma : Bool) (most : List Char) :
    Except ExprFault ExprReader := do
  let most := if comma then most else least
  let low ← readCount least
  let high ← readCount most
  if most.isEmpty then reader.repeatLast low none
  else if high < low then .error .leastAboveMost
  else reader.repeatLast low (some high)

/-- The state after the last repetition has been given another order. -/
def setGreed (reader : ExprReader) (greed : Greed) : ExprReader :=
  match reader.frame.terms with
  | .item (.loop _ least most body) :: earlier =>
      { reader with
        pending := .nothing
        frame.terms := .item (.loop greed least most body) :: earlier }
  | _ => { reader with pending := .nothing }

/-- The state once bounds turn out to be literal text. -/
def pushBounds (reader : ExprReader) (least : List Char) (comma : Bool) (most : List Char) :
    ExprReader :=
  { reader with pending := .nothing }.pushChars
    ('\x7b' :: least ++ (if comma then [','] else []) ++ most)

/-- Whether the bounds of a repetition go on with a piece. -/
def boundsGoOn (least : List Char) (comma : Bool) : Option Piece → Bool
  | some (.plain c) =>
      c.isDigit || (c == ',' && !comma) || (c == '\x7d' && (comma || !least.isEmpty))
  | _ => false

/-- Whether a pending escape goes on with a piece. -/
def escapeGoesOn (escape : Escape) (next : Option Piece) : Bool :=
  match next with
  | some piece => (escape.extend piece).isSome
  | none => false

/-- The state in front of a piece, or in front of the end: what does not go on with it is over. -/
def settle (reader : ExprReader) (next : Option Piece) : Except ExprFault ExprReader :=
  match reader.pending with
  | .repetition =>
      if next = some (.plain '?') ∨ next = some (.plain '+') then .ok reader
      else .ok { reader with pending := .nothing }
  | .bounds least comma most =>
      if boundsGoOn least comma next then .ok reader
      else .ok (reader.pushBounds least comma most)
  | .escape escape =>
      if escapeGoesOn escape next then .ok reader
      else do
        match ← escape.complete with
        | .inl n => return reader.pushCode n
        | .inr number => reader.referNumber number
  | .set sub =>
      if (sub.escape.map fun (escape, _) => escapeGoesOn escape next).getD true then .ok reader
      else do return { reader with pending := .set (← sub.settleEscape) }
  | .opening .paren =>
      if next = some (.plain '?') then .ok reader else reader.openCapture none
  | _ => .ok reader

/-- The state after an escape that means something. -/
def takeEscape (reader : ExprReader) (c : Char) : EscapeMeaning → Except ExprFault ExprReader
  | .code n => .ok (reader.pushCode n)
  | .cls name negated =>
      let flags := reader.frame.flags
      .ok (reader.pushTest (.set [.cls name flags.asciiOnly negated] false flags.fold))
  | .anchor place => .ok (reader.push (.item (.anchor (place reader.frame.flags.asciiOnly))))
  | .pending escape => .ok { reader with pending := .escape escape }
  | .bad => .error (.badEscape (Escape.shown [c]))

/-- The fault of a character where a flag is expected. -/
def flagFault (piece : Piece) (otherwise : ExprFault) : ExprFault :=
  match piece with
  | .plain c => if isLetter c.toNat then .unknownFlag else otherwise
  | _ => otherwise

/-- The state after a letter that turns a flag on. -/
def turnOn (reader : ExprReader) (on : List Char) (letter : Char) : Except ExprFault ExprReader :=
  if letter = 'L' then .error .localeFlag
  else if (letter = 'a' ∧ on.contains 'u') ∨ (letter = 'u' ∧ on.contains 'a') then
    .error .conflictingFlags
  else .ok { reader with pending := .opening (.flagsOn (letter :: on)) }

/-- The state after flags for the whole expression, which may stand only at its very start. -/
def setFlags (reader : ExprReader) (on : List Char) : Except ExprFault ExprReader :=
  if reader.outer.isEmpty && reader.frame.branches.isEmpty && reader.frame.terms.isEmpty then
    let change (flags : Flags) : Flags := flags.change (on.filter (· != 'u')) []
    .ok { reader with
      pending := .nothing
      flags := change reader.flags
      wide := reader.wide || on.contains 'u'
      frame.flags := change reader.frame.flags }
  else .error .flagsNotAtStart

/-- The state inside a group with flags of its own. -/
def openScoped (reader : ExprReader) (on off : List Char) : Except ExprFault ExprReader :=
  if off.contains 't' then .error .globalFlagOff
  else if on.any off.contains then .error .flagOnAndOff
  else .ok (reader.openGroup .scoped (reader.frame.flags.change on off))

/-- The state after a piece that follows the question mark of an opening. -/
def acceptQuestion (reader : ExprReader) (piece : Piece) : Except ExprFault ExprReader :=
  let flags := reader.frame.flags
  let go (opening : Opening) : Except ExprFault ExprReader :=
    .ok { reader with pending := .opening opening }
  match piece with
  | .plain 'P' => go .extension
  | .plain ':' => .ok (reader.openGroup .bare flags)
  | .plain '#' => go .comment
  | .plain '=' => .ok (reader.openGroup (.ahead true) flags)
  | .plain '!' => .ok (reader.openGroup (.ahead false) flags)
  | .plain '<' => go .behind
  | .plain '(' => go (.condition [])
  | .plain '>' => .ok (reader.openGroup .atomic flags)
  | .plain '-' => go (.flagsOff [] [])
  | .plain c =>
      if flagLetters.contains c then reader.turnOn [] c
      else .error (.unknownExtension (String.ofList piece.text))
  | _ => .error (.unknownExtension (String.ofList piece.text))

/-- The state after a piece of what follows an opening parenthesis. -/
def acceptOpening (reader : ExprReader) (opening : Opening) (piece : Piece) :
    Except ExprFault ExprReader :=
  let go (opening : Opening) : Except ExprFault ExprReader :=
    .ok { reader with pending := .opening opening }
  match opening, piece with
  | .paren, _ => go .question
  | .question, piece => reader.acceptQuestion piece
  | .extension, .plain '<' => go (.groupName [])
  | .extension, .plain '=' => go (.groupReference [])
  | .extension, piece => .error (.unknownExtension (String.ofList ('P' :: piece.text)))
  | .groupName text, .plain '>' => reader.nameGroup text
  | .groupName text, piece => go (.groupName (text ++ piece.text))
  | .groupReference text, .plain ')' => reader.referName text
  | .groupReference text, piece => go (.groupReference (text ++ piece.text))
  | .behind, .plain '=' => .ok (reader.openBehind true)
  | .behind, .plain '!' => .ok (reader.openBehind false)
  | .behind, piece => .error (.unknownExtension (String.ofList ('<' :: piece.text)))
  | .condition text, .plain ')' => reader.openCondition text
  | .condition text, piece => go (.condition (text ++ piece.text))
  | .comment, .plain ')' => .ok { reader with pending := .nothing }
  | .comment, _ => .ok reader
  | .flagsOn on, .plain ')' => reader.setFlags on
  | .flagsOn on, .plain ':' =>
      if on.contains 't' then .error .globalFlagOn else reader.openScoped on []
  | .flagsOn on, .plain '-' =>
      if on.contains 't' then .error .globalFlagOn else go (.flagsOff on [])
  | .flagsOn on, .plain c =>
      if flagLetters.contains c then reader.turnOn on c
      else .error (flagFault piece .missingFlagEnd)
  | .flagsOn _, piece => .error (flagFault piece .missingFlagEnd)
  | .flagsOff on off, .plain c =>
      if c = ':' ∧ !off.isEmpty then reader.openScoped on off
      else if !flagLetters.contains c then
        .error (flagFault piece (if off.isEmpty then .missingFlag else .missingFlagColon))
      else if classFlagLetters.contains c then .error .classFlagOff
      else go (.flagsOff on (c :: off))
  | .flagsOff _ off, piece =>
      .error (flagFault piece (if off.isEmpty then .missingFlag else .missingFlagColon))

/-- The state after a bar, which begins another branch. -/
def nextBranch (reader : ExprReader) : Except ExprFault ExprReader :=
  let frame := reader.frame
  match frame.kind, frame.branches with
  | .condition _, _ :: _ => .error .tooManyBranches
  | _, _ => .ok { reader with
      frame.branches := frame.branch :: frame.branches, frame.terms := [] }

/-- The state after a character that nothing pending takes. -/
def acceptPlain (reader : ExprReader) (c : Char) : Except ExprFault ExprReader :=
  let flags := reader.frame.flags
  if flags.verbose && (CharClass.blank.holds true c.toNat) then .ok reader
  else if flags.verbose && c == '#' then .ok { reader with pending := .remark }
  else
    match c with
    | '.' => .ok (reader.pushTest (.any flags.dotAll))
    | '^' =>
        .ok (reader.push (.item (.anchor (if flags.multiLine then .lineStart else .textStart))))
    | '$' => .ok (reader.push (.item (.anchor (if flags.multiLine then .lineEnd else .finalEnd))))
    | '[' => .ok { reader with pending := .set {} }
    | '(' => .ok { reader with pending := .opening .paren }
    | '?' => reader.repeatLast 0 (some 1)
    | '*' => reader.repeatLast 0 none
    | '+' => reader.repeatLast 1 none
    | '\x7b' => .ok { reader with pending := .bounds [] false [] }
    | '|' => reader.nextBranch
    | ')' =>
        match reader.outer with
        | parent :: rest => .ok (reader.close parent rest)
        | [] =>
            .error (if reader.flags.asciiOnly && reader.wide then .incompatibleFlags else .unbalanced)
    | c => .ok (reader.pushCode c.toNat)

/-- The state after a piece, in front of which the state has been settled. -/
def accept (reader : ExprReader) (piece : Piece) : Except ExprFault ExprReader :=
  match reader.pending, piece with
  | .nothing, .plain c => reader.acceptPlain c
  | .nothing, .escaped c => reader.takeEscape c (Escape.begin c)
  | .repetition, .plain '?' => .ok (reader.setGreed .lazy)
  | .repetition, _ => .ok (reader.setGreed .possessive)
  | .bounds least comma most, .plain c =>
      if c = '\x7d' then reader.repeatBounds least comma most
      else if c = ',' then .ok { reader with pending := .bounds least true most }
      else if comma then .ok { reader with pending := .bounds least comma (most ++ [c]) }
      else .ok { reader with pending := .bounds (least ++ [c]) comma most }
  | .escape escape, piece =>
      match escape.extend piece with
      | some meaning => do reader.takeEscape '\\' (← meaning)
      | none => .ok reader
  | .set sub, piece => do
      match ← sub.accept reader.frame.flags piece with
      | .inl sub => return { reader with pending := .set sub }
      | .inr test => return reader.pushTest test
  | .opening opening, piece => reader.acceptOpening opening piece
  | .remark, piece =>
      if piece = .plain '\n' then .ok { reader with pending := .nothing } else .ok reader
  | _, _ => .ok reader

/-- Whether a fault is found on the sight of a piece, before the piece is taken. -/
def isOnSight : ExprFault → Bool
  | .unbalanced | .tooManyBranches | .incompatibleFlags => true
  | _ => false

/-- Read pieces one after the other. A backslash at the very end is a fault as soon as the piece in
front of it has been taken, whatever that piece would have led to. -/
def run (reader : ExprReader) : List Piece → Except ExprFault ExprReader
  | [] => .ok reader
  | .lone :: _ => .error .trailingEscape
  | piece :: rest => do
      let settled ← reader.settle (some piece)
      match settled.accept piece with
      | .error fault =>
          .error (if rest = [.lone] ∧ !isOnSight fault then .trailingEscape else fault)
      | .ok later => later.run rest

/-- The fault of an expression that ends while something is pending, if it is one. -/
def endFault : Pending → Option ExprFault
  | .set _ => some .unterminatedSet
  | .opening opening =>
      match opening with
      | .paren => none
      | .question | .extension | .behind => some .unexpectedEnd
      | .groupName text =>
          some (if text.isEmpty then .missingName "group name" else .unterminatedName '>')
      | .groupReference text | .condition text =>
          some (if text.isEmpty then .missingName "group name" else .unterminatedName ')')
      | .comment => some .unterminatedComment
      | .flagsOn _ => some .missingFlagEnd
      | .flagsOff _ off => some (if off.isEmpty then .missingFlag else .missingFlagColon)
  | _ => none

/-- The state after the end of the text. Every group has to be closed, and every group that a
condition names by its number has to exist. -/
def finish (reader : ExprReader) : Except ExprFault ExprReader := do
  let settled ← reader.settle none
  match endFault settled.pending, settled.outer with
  | some fault, _ => .error fault
  | none, _ :: _ => .error .unterminatedGroup
  | none, [] =>
      if settled.flags.asciiOnly && settled.wide then .error .incompatibleFlags
      else
        match settled.conditions.find? (settled.opened < ·) with
        | some number => .error (.invalidReference number)
        | none => .ok settled

end ExprReader

/-- The first fault in what an expression asks for: a look-behind whose body can match texts of
different lengths, or a repetition in a template. -/
def Expr.demandFault? (template : Bool) : Expr → Option ExprFault
  | .empty | .never | .char _ | .anchor _ | .backref _ _ _ => none
  | .seq first second | .either first second =>
      (first.demandFault? template).or (second.demandFault? template)
  | .group _ body => body.demandFault? template
  | .loop greed _ _ body =>
      if template then some (.repetitionInTemplate greed) else body.demandFault? template
  | .atomic body => body.demandFault? template
  | .ahead _ body => body.demandFault? template
  | .behind _ width body =>
      if width.most ≠ width.least then some .behindNotFixed else body.demandFault? template
  | .ifGroup _ yes no => (yes.demandFault? template).or (no.demandFault? template)

/-- The number of characters that is too far for a look-behind. -/
def behindLimit : Nat := 2147483648

/-- Whether an expression looks back too far. -/
def Expr.looksTooFar : Expr → Bool
  | .empty | .never | .char _ | .anchor _ | .backref _ _ _ => false
  | .seq first second | .either first second => first.looksTooFar || second.looksTooFar
  | .group _ body | .loop _ _ _ body | .atomic body | .ahead _ body => body.looksTooFar
  | .behind _ width body => behindLimit ≤ width.least || body.looksTooFar
  | .ifGroup _ yes no => yes.looksTooFar || no.looksTooFar

/-- An expression that has been read: its text, the flags in force for all of it, what it says, and
the number of its groups. -/
structure Expression where
  source : String
  flags : Flags
  expr : Expr
  groups : Nat
deriving DecidableEq, Repr

/-- Read an expression from its text. -/
def Expression.read (source : String) (flags : Flags) : Except ExprFault Expression := do
  let reading ← (ExprReader.start flags).run (Piece.ofText source.toList)
  let done ← reading.finish
  let expr := done.frame.body
  match expr.demandFault? done.flags.template with
  | some fault => .error fault
  | none =>
      if expr.looksTooFar then .error .behindTooFar
      else return ⟨source, done.flags, expr, done.opened⟩

end RoutePattern
