import RoutePattern.Expr.Memory

/-!
# Ways to match

A `Matching` tries to match from a place on and hands every place where the match can end, in order
of preference, to a continuation. It ends with the first place that the continuation accepts. The
memory goes through all attempts in turn, so a later attempt may see what an earlier one has noted.

A repetition of a single test runs over the characters that the test accepts. Any other repetition
tries its body again and again; an iteration that has not moved is the last one.
-/

namespace RoutePattern

/-- What to do with a place where a match can end. -/
abbrev Continuation := Place → Memory → Attempt

/-- A way to match from a place on. -/
abbrev Matching := Place → Memory → Continuation → Attempt

namespace Matching

/-- Accept the place where a match ends. -/
def accept : Continuation :=
  fun place memory => .found (memory.moveTo place)

/-- The first match alone. -/
def once (body : Matching) (place : Place) (memory : Memory) : Attempt :=
  body place (memory.moveTo place) accept

/-- Try places in turn, except for those in front of which the character is not `next`. `undo`
follows a failed attempt. -/
def firstOf (next : Option CharTest) (undo : Memory → Memory) (k : Continuation) :
    List Place → Memory → Attempt
  | [], memory => .failed memory
  | place :: rest, memory =>
      if next.any fun test => test.exactCode?.isSome && (place.step test).isNone then
        firstOf next undo k rest memory
      else
        (k place (memory.moveTo place)).orElse fun later => firstOf next undo k rest (undo later)

/-- Try a place, and after it those that a test reaches one by one, up to `room` of them. `undo`
follows a failed attempt. -/
def advancing (test : CharTest) (undo : Memory → Memory) (k : Continuation) :
    Nat → Place → Memory → Attempt
  | room, place, memory =>
      (k place (memory.moveTo place)).orElse fun later =>
        let undone := (undo later).moveTo place
        match place.step test with
        | none => .failed undone
        | some next =>
            let reached := if test.isFolded then undone.moveTo next else undone
            match room with
            | 0 => .failed reached
            | room + 1 => advancing test undo k room next reached

/-- Match a test a number of times within bounds. `next` is the test that follows. -/
def testTimes (looped : Bool) (test : CharTest) (next : Option CharTest) (greed : Greed)
    (least : Nat) (most : Option Nat) : Matching :=
  fun place memory k =>
    if least ≤ place.left then
      let reach := match greed with
        | .lazy => if least = 0 then [place] else place.steps test (some least)
        | _ => place.steps test most
      let farthest := reach.headD place
      let memory := memory.moveTo (if test.isFolded then farthest else place)
      let undo (later : Memory) : Memory := later.undoSince memory looped
      if reach.length ≤ least then .failed memory
      else
        match greed with
        | .greedy => firstOf next undo k (reach.take (reach.length - least)) memory
        | .lazy =>
            advancing test undo k ((most.map (· - least)).getD farthest.left) farthest memory
        | .possessive => k farthest memory
    else .failed memory

/-- Match `count` times and then once more in another way. -/
def required (body last : Matching) : Nat → Matching
  | 0, place, memory, k => last place memory k
  | count + 1, place, memory, k =>
      (body place (memory.moveTo place) fun later memory =>
        required body last count later memory k).orElse
      fun memory => .failed (memory.moveTo place)

/-- Whether an iteration that began at a place has not moved. -/
def hasStayed (start : Option Place) (place : Place) : Bool :=
  start.any (·.offset == place.offset)

/-- Match up to `room` times more, most first. `start` is where the last iteration began. -/
def greedily (body : Matching) : Nat → Option Place → Matching
  | room, start, place, memory, k =>
      let finish (memory : Memory) : Attempt :=
        (k place (memory.moveTo place)).orElse fun later => .failed (later.moveTo place)
      match room with
      | 0 => finish memory
      | room + 1 =>
          if hasStayed start place then finish memory
          else
            (body place (memory.moveTo place) fun later memory =>
              greedily body room (some place) later memory k).orElse
            fun later => finish (later.undoSince memory true)

/-- Match up to `room` times more, least first. `start` is where the last iteration began. -/
def lazily (looped : Bool) (body : Matching) : Nat → Option Place → Matching
  | room, start, place, memory, k =>
      (k place (memory.moveTo place)).orElse fun later =>
        let undone := (later.undoSince memory looped).moveTo place
        match room with
        | 0 => .failed undone
        | room + 1 =>
            if hasStayed start place then .failed undone
            else
              (body place undone fun next memory =>
                lazily looped body room (some place) next memory k).orElse
              fun later => .failed (later.moveTo place)

/-- Match exactly `count` first matches in a row, from the cursor on. -/
def onceTimes (body : Matching) : Nat → Memory → Attempt
  | 0, memory => .found memory
  | count + 1, memory =>
      match once body memory.cursor memory with
      | .found later => onceTimes body count later
      | .failed later => .failed later

/-- The memory after as many first matches in a row as there are, up to `room`, from the cursor on.
The cursor stays where the attempt that fails has left it. -/
def onceMost (body : Matching) : Nat → Option Place → Memory → Memory
  | 0, _, memory => memory
  | room + 1, start, memory =>
      if hasStayed start memory.cursor then memory
      else
        match once body memory.cursor memory with
        | .found later => onceMost body room (some memory.cursor) later
        | .failed later => later.undoSince memory true

/-- A bound on the iterations of a repetition without a limit: more than there are pairs of places
in the text. -/
def iterationBound (place : Place) : Nat :=
  let places := place.offset + place.left + 2
  places * places

/-- Match a number of times within bounds. -/
def times (looped : Bool) (body : Matching) (greed : Greed) (least : Nat) (most : Option Nat) :
    Matching :=
  fun place memory k =>
    let room := (most.map (· - least)).getD (iterationBound place)
    match greed with
    | .greedy => required body (greedily body room none) least place memory k
    | .lazy => required body (lazily looped body room none) least place memory k
    | .possessive =>
        match onceTimes body least (memory.moveTo place) with
        | .failed later => .failed (later.moveTo place)
        | .found later =>
            let last := onceMost body room none later
            k last.cursor last

/-- Match one way or else another. `test` is what the first way begins with, if that is an exact
test; where it fails, the first way is not tried. -/
def orElse (looped : Bool) (test : Option CharTest) (first second : Matching) : Matching :=
  fun place memory k =>
    let attempt :=
      if test.any fun test => (place.step test).isNone then .failed memory
      else first place (memory.moveTo place) k
    (attempt.orElse fun later => second place (later.undoSince memory looped) k).orElse
      fun later => .failed (later.undoSince memory looped)

/-- Match without moving if an attempt has succeeded. -/
def asserting (place : Place) (k : Continuation) : Attempt → Attempt
  | .found later => k place later
  | .failed later => .failed later

/-- Match without moving if an attempt has failed. -/
def denying (looped : Bool) (place : Place) (memory : Memory) (k : Continuation) :
    Attempt → Attempt
  | .found later => .failed later
  | .failed later => k place (later.undoSince memory looped)

end Matching

end RoutePattern
