import RoutePattern.Expr.Basic

/-!
# Putting alternatives together

The alternatives of a group become one list of expressions. What all of them begin with stands in
front once, and alternatives that are single characters and sets become one set.
-/

namespace RoutePattern.Alternation

/-- Whether an expression may be taken out of alternatives that all begin with it: a test on a
character, a condition on the place, or a reference. -/
def isSimple : Expr → Bool
  | .char _ | .anchor _ | .backref _ _ _ => true
  | _ => false

/-- What a list of expressions and all the others begin with, and what is left of each. -/
def splitLead : List Expr → List (List Expr) → List Expr × List (List Expr)
  | [], others => ([], [] :: others)
  | e :: rest, others =>
      if isSimple e && others.all (fun other => other.head? == some e) then
        let (lead, tails) := splitLead rest (others.map List.tail)
        (e :: lead, tails)
      else ([], (e :: rest) :: others)

/-- The members of a list that is a single character or set. -/
def members? : List Expr → Option (List Member)
  | [.char (.literal code false _)] => some [.code code]
  | [.char (.set members false _)] => some members
  | _ => none

/-- The members of all the lists, if each is a single character or set. -/
def allMembers? : List (List Expr) → Option (List Member)
  | [] => some []
  | branch :: rest => do return (← members? branch) ++ (← allMembers? rest)

/-- A choice among lists of expressions, the first ones first. -/
def choice : List (List Expr) → Expr
  | [] => .never
  | branch :: rest => .either (.ofList branch) (choice rest)

/-- The alternatives of a group as one list of expressions. -/
def ofBranches (fold : Fold) : List (List Expr) → List Expr
  | [] => []
  | [branch] => branch
  | first :: others =>
      let (lead, tails) := splitLead first others
      match allMembers? tails with
      | some members => lead ++ [.char (.set members.eraseDups false fold)]
      | none => lead ++ [choice tails]

end RoutePattern.Alternation
