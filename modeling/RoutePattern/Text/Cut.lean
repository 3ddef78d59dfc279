/-!
# Cutting a text

`cut` takes a text apart at the first place where a character stands, and `stretches` takes it apart
at every such place.
-/

namespace RoutePattern

/-- The text in front of the first place of a character, and the text behind it, if there is such a
place. -/
def cut (mark : Char) : List Char → List Char × Option (List Char)
  | [] => ([], none)
  | c :: rest =>
      if c = mark then ([], some rest)
      else
        let (before, after) := cut mark rest
        (c :: before, after)

/-- The stretches of a text in front of, between and behind the places of a character. `current` is
the stretch in progress, latest character first. -/
def stretchesFrom (mark : Char) (current : List Char) : List Char → List (List Char)
  | [] => [current.reverse]
  | c :: rest =>
      if c = mark then current.reverse :: stretchesFrom mark [] rest
      else stretchesFrom mark (c :: current) rest

/-- The stretches of a text in front of, between and behind the places of a character. -/
def stretches (mark : Char) (text : List Char) : List (List Char) :=
  stretchesFrom mark [] text

end RoutePattern
