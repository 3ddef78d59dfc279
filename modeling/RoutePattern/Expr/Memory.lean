import RoutePattern.Expr.Place

/-!
# The memory of a search

A search remembers where the groups began and ended and where its last attempt set out from. It
keeps the memory of an attempt that has failed: what the attempt noted is undone only as far as
`Memory.undoSince` says, and the cursor is where the failed attempt has left it.
-/

namespace RoutePattern

/-- What a search remembers. The marks are the beginning and the end of each group in turn; there
are only as many of them as have been reached. -/
structure Memory where
  cursor : Place
  marks : List (Option Place) := []
deriving DecidableEq, Repr

namespace Memory

/-- The memory with its cursor at a place. -/
def moveTo (memory : Memory) (place : Place) : Memory :=
  { memory with cursor := place }

/-- Note a place as the mark of a number. Marks that are passed over are blank. -/
def mark (memory : Memory) (number : Nat) (place : Place) : Memory :=
  let marks := memory.marks
  { memory with
    marks :=
      if number < marks.length then marks.set number (some place)
      else marks ++ List.replicate (number - marks.length) none ++ [some place] }

/-- Note where a group begins. -/
def beginGroup (memory : Memory) (number : Nat) (place : Place) : Memory :=
  memory.mark (2 * (number - 1)) place

/-- Note where a group ends. -/
def endGroup (memory : Memory) (number : Nat) (place : Place) : Memory :=
  memory.mark (2 * (number - 1) + 1) place

/-- Undo what an attempt has noted, given the memory before it. Within a repetition the marks are as
before; outside of one the marks that the attempt has added are forgotten, but others may have
moved. -/
def undoSince (later memory : Memory) (looped : Bool) : Memory :=
  { later with
    marks := if looped then memory.marks else later.marks.take memory.marks.length }

/-- The beginning and the end of a group that has both. -/
def span? (memory : Memory) (number : Nat) : Option (Place × Place) := do
  let stop ← (← memory.marks[2 * (number - 1) + 1]?)
  let start ← (← memory.marks[2 * (number - 1)]?)
  return (start, stop)

/-- The text of a group. -/
def groupText? (memory : Memory) (number : Nat) : Option (List Char) :=
  (memory.span? number).map fun (start, stop) => stop.textSince start

/-- The text of a group that a reference can mean: one that does not end before its beginning. -/
def reference? (memory : Memory) (number : Nat) : Option (List Char) :=
  match memory.span? number with
  | some (start, stop) =>
      if stop.offset < start.offset then none else some (stop.textSince start)
  | none => none

end Memory

/-- How an attempt to match has ended, with the memory that it leaves. -/
inductive Attempt where
  | found (memory : Memory)
  | failed (memory : Memory)
deriving DecidableEq, Repr

/-- Make another attempt with the memory of a failed one. -/
def Attempt.orElse (attempt : Attempt) (next : Memory → Attempt) : Attempt :=
  match attempt with
  | found memory => found memory
  | failed memory => next memory

end RoutePattern
