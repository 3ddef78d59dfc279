import RoutePattern.Expr.Basic

/-!
# Places in a text

A place is a gap between two characters of a text, given by what stands on its two sides. Places are
where expressions match from and to. A place knows how many characters there are on each side, so
that places can be compared without counting.
-/

namespace RoutePattern

/-- A place in a text: the characters before it, nearest first, and the characters after it, with
the number of each. -/
structure Place where
  before : List Char
  after : List Char
  offset : Nat := before.length
  left : Nat := after.length
  offset_eq : offset = before.length := by rfl
  left_eq : left = after.length := by rfl
deriving DecidableEq, Repr

namespace Place

/-- The place in front of a text. -/
def start (text : List Char) : Place :=
  { before := [], after := text }

/-- Two places with the same sides are the same. -/
theorem ext_sides {first second : Place} (hbefore : first.before = second.before)
    (hafter : first.after = second.after) : first = second := by
  obtain ⟨before, after, offset, left, hoffset, hleft⟩ := first
  obtain ⟨_, _, _, _, hoffset', hleft'⟩ := second
  dsimp only at hbefore hafter hoffset hleft hoffset' hleft'
  subst hbefore hafter hoffset hleft hoffset' hleft'
  rfl

/-- The next character, and the place after it. -/
def next? (place : Place) : Option (Char × Place) :=
  match h : place.after with
  | [] => none
  | c :: after =>
      some (c,
        { before := c :: place.before
          after
          offset := place.offset + 1
          left := place.left - 1
          offset_eq := by simp [place.offset_eq]
          left_eq := by simp [place.left_eq, h] })

/-- The place in front of the last character. -/
def previous? (place : Place) : Option Place :=
  match h : place.before with
  | [] => none
  | c :: before =>
      some
        { before
          after := c :: place.after
          offset := place.offset - 1
          left := place.left + 1
          offset_eq := by simp [place.offset_eq, h]
          left_eq := by simp [place.left_eq] }

/-- The place `count` characters earlier. -/
def back : Nat → Place → Option Place
  | 0, place => some place
  | count + 1, place => place.previous?.bind (back count)

/-- The place after the next character, if a test accepts that. -/
def step (test : CharTest) (place : Place) : Option Place :=
  match place.next? with
  | some (c, later) => if test.accepts c then some later else none
  | none => none

/-- The places in front of and behind each of the next characters that a test accepts, up to `room`
of them, the farthest place first. -/
def stepsFrom (test : CharTest) (earlier : List Place) : Nat → Place → List Place
  | 0, place => place :: earlier
  | room + 1, place =>
      match place.step test with
      | some later => stepsFrom test (place :: earlier) room later
      | none => place :: earlier

/-- The places that a test reaches in up to `most` steps, the farthest first and the place itself
last. -/
def steps (test : CharTest) (most : Option Nat) (place : Place) : List Place :=
  stepsFrom test [] (most.getD place.left) place

/-- The text from an earlier place to this one. From a later place it is empty. -/
def textSince (place start : Place) : List Char :=
  start.after.take (place.offset - start.offset)

/-- The place after a text, compared character by character. -/
def skip (fold : Fold) (place : Place) : List Char → Option Place
  | [] => some place
  | expected :: text =>
      match place.next? with
      | some (c, later) =>
          if fold.lower c.toNat = fold.lower expected.toNat then later.skip fold text else none
      | none => none

/-- Whether the characters around a place differ in being word characters. -/
def atBoundary (asciiOnly : Bool) (place : Place) : Bool :=
  let isWordAt (side : List Char) : Bool :=
    (side.head?.map fun c => CharClass.word.holds asciiOnly c.toNat).getD false
  isWordAt place.before != isWordAt place.after

/-- Whether the whole text is empty. -/
def inEmptyText (place : Place) : Bool :=
  place.before.isEmpty && place.after.isEmpty

end Place

/-- Whether a condition holds at a place. An empty text has neither boundaries nor places that are
none. -/
def Anchor.holds (anchor : Anchor) (place : Place) : Bool :=
  match anchor with
  | .textStart => place.before.isEmpty
  | .lineStart => place.before.isEmpty || place.before.head? == some '\n'
  | .textEnd => place.after.isEmpty
  | .finalEnd => place.after.isEmpty || place.after == ['\n']
  | .lineEnd => place.after.isEmpty || place.after.head? == some '\n'
  | .boundary asciiOnly => !place.inEmptyText && place.atBoundary asciiOnly
  | .noBoundary asciiOnly => !place.inEmptyText && !place.atBoundary asciiOnly

end RoutePattern
