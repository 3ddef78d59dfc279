import RoutePattern.Expr.Matching
import RoutePattern.Expr.Reader

/-!
# Searching for an expression

`Expr.run` says how each expression matches from a place on. `Expression.search` finds the first
match in a text and `Expression.fullMatch` decides whether a whole text matches.
-/

namespace RoutePattern

namespace Expr

/-- The exact test that an expression begins with, or the one that follows it if there is nothing
to it. -/
def lead (after : Option CharTest) : Expr → Option CharTest
  | empty => after
  | char test => if test.isExact then some test else none
  | seq first second => first.lead (second.lead after)
  | _ => none

/-- The test that is all there is to an expression. -/
def soleTest? : Expr → Option CharTest
  | char test => some test
  | seq e empty => e.soleTest?
  | _ => none

/-- Match an expression. `looped` tells whether it is inside a repetition, and `next` is the exact
test that follows it. -/
def run (looped : Bool) (next : Option CharTest) : Expr → Matching
  | empty, place, memory, k => k place memory
  | never, _, memory, _ => .failed memory
  | char test, place, memory, k =>
      match place.step test with
      | some later => k later memory
      | none => .failed memory
  | anchor condition, place, memory, k =>
      if condition.holds place then k place memory else .failed memory
  | seq first second, place, memory, k =>
      run looped (second.lead next) first place memory fun later memory =>
        run looped next second later memory k
  | either first second, place, memory, k =>
      Matching.orElse looped (first.lead none) (run looped none first) (run looped none second) place
        memory k
  | group number body, place, memory, k =>
      run looped none body place (memory.beginGroup number place) fun later memory =>
        k later (memory.endGroup number later)
  | loop greed least most body, place, memory, k =>
      match body.soleTest? with
      | some test => Matching.testTimes looped test next greed least most place memory k
      | none =>
          Matching.times looped (run (looped || greed != .possessive) none body) greed least most
            place memory k
  | atomic body, place, memory, k =>
      match Matching.once (run looped none body) place memory with
      | .found later => k later.cursor later
      | .failed later => .failed (later.moveTo place)
  | ahead positive body, place, memory, k =>
      let attempt := Matching.once (run looped none body) place memory
      if positive then Matching.asserting place k attempt
      else Matching.denying looped place memory k attempt
  | behind positive width body, place, memory, k =>
      match place.back width.least with
      | some start =>
          let attempt := Matching.once (run looped none body) start memory
          if positive then Matching.asserting place k attempt
          else Matching.denying looped place memory k attempt
      | none => if positive then .failed memory else k place memory
  | backref number _ fold, place, memory, k =>
      match (memory.reference? number).bind (place.skip fold) with
      | some later => k later memory
      | none => .failed memory
  | ifGroup number yes no, place, memory, k =>
      if (memory.reference? number).isSome then
        run looped (if no = empty then next else none) yes place memory k
      else run looped next no place memory k

/-- Whether every branch of a choice begins with one exact code point. -/
def choosesCode : Expr → Bool
  | never => true
  | either first second => ((first.lead none).bind CharTest.exactCode?).isSome && second.choosesCode
  | _ => false

/-- Whether an expression begins with one exact code point. -/
def opensWithCode : Expr → Bool
  | char test => test.exactCode?.isSome
  | seq empty second => second.opensWithCode
  | seq (group _ empty) second => second.opensWithCode
  | seq first _ => first.opensWithCode
  | group _ body => body.opensWithCode
  | _ => false

/-- The set that an expression begins with, as a test that compares characters as they are. The
classes of the set are taken within ASCII or within all scripts. -/
def openingSet? (asciiOnly : Bool) : Expr → Option CharTest
  | char (.set members negated fold) =>
      if members.all (·.isPlain fold) then
        some (.set (members.map (·.takeClass asciiOnly)) negated .keep)
      else none
  | seq empty second => second.openingSet? asciiOnly
  | seq first _ => first.openingSet? asciiOnly
  | group _ body => body.openingSet? asciiOnly
  | _ => none

/-- Whether an expression begins with a choice among exact code points. -/
def opensWithChoice : Expr → Bool
  | either first second => (either first second).choosesCode
  | seq empty second => second.opensWithChoice
  | seq first _ => first.opensWithChoice
  | group _ body => body.opensWithChoice
  | _ => false

/-- The test that a search puts to the next character before it tries a place, if the expression
begins with a set. The classes of the set are taken as they are outside of all groups. -/
def searchTest? (asciiOnly : Bool) (e : Expr) : Option CharTest :=
  if e.width.least = 0 then none else e.openingSet? asciiOnly

/-- The least number of characters that a search leaves behind a place where it begins an attempt,
except for the first attempt. One is enough where the next character alone tells whether to try. -/
def roomNeeded (e : Expr) : Nat :=
  if e.opensWithCode || (e.openingSet? false).isSome || e.opensWithChoice then 1
  else max 1 e.width.least

end Expr

/-- A match in a text: the offset where it begins, its text, and the memory of the search. -/
structure Found where
  index : Nat
  text : List Char
  memory : Memory
deriving DecidableEq, Repr

/-- The first match that begins at a place or at one of the `count` places after it, out of those
whose next character passes a test. There is no attempt one character further if fewer than `room`
characters are left. -/
def Expr.findFrom (e : Expr) (test : Option CharTest) (room : Nat) : Nat → Place → Option Found
  | count, place =>
      let attempt : Attempt :=
        if test.all fun test => (place.step test).isSome then
          e.run false none place { cursor := place } Matching.accept
        else .failed { cursor := place }
      match attempt with
      | .found memory => some ⟨place.offset, memory.cursor.textSince place, memory⟩
      | .failed _ =>
          match count, place.next? with
          | count + 1, some (_, later) =>
              if room ≤ place.left then e.findFrom test room count later else none
          | _, _ => none

/-- Why a search has no answer. -/
inductive SearchFault where
  /-- Some group of the match ends before it begins. -/
  | crossedGroup
deriving DecidableEq, Repr

/-- The description of why a search has no answer. -/
def SearchFault.message : SearchFault → String
  | crossedGroup =>
      "The span of capturing group is wrong, please report a bug for the re module."

namespace Expression

/-- Whether some group ends before it begins. -/
def hasCrossedGroup (expression : Expression) (memory : Memory) : Bool :=
  (List.range expression.groups).any fun index =>
    (memory.span? (index + 1)).any fun (start, stop) => stop.offset < start.offset

/-- The first match of an expression in a text. -/
def search (expression : Expression) (text : String) : Except SearchFault (Option Found) :=
  let e := expression.expr
  if e.width.least ≤ text.length then
    let start := Place.start text.toList
    let test := e.searchTest? expression.flags.asciiOnly
    match e.findFrom test e.roomNeeded start.left start with
    | none => .ok none
    | some found =>
        if expression.hasCrossedGroup found.memory then .error .crossedGroup else .ok (some found)
  else .ok none

/-- Whether an expression matches the whole of a text. -/
def fullMatch (expression : Expression) (text : String) : Except SearchFault Bool :=
  let start := Place.start text.toList
  let atEnd : Continuation := fun place memory =>
    if place.after.isEmpty then .found memory else .failed memory
  if expression.expr.width.least ≤ text.length then
    match expression.expr.run false none start { cursor := start } atEnd with
    | .found memory =>
        if expression.hasCrossedGroup memory then .error .crossedGroup else .ok true
    | .failed _ => .ok false
  else .ok false

/-- What each group captured, in the order of their numbers. -/
def groupTexts (expression : Expression) (found : Found) : List (Option String) :=
  (List.range expression.groups).map fun index =>
    (found.memory.groupText? (index + 1)).map String.ofList

end Expression

end RoutePattern
