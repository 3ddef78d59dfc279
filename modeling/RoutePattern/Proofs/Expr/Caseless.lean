import Mathlib.Logic.Basic
import RoutePattern.Proofs.Expr.Uniform

/-!
# Expressions without regard to case

`caseless` forgets how characters compare, in expressions, in flags and in groups that are being
read. Widths, and what an expression asks for, stay. Alternatives are put together in the same way,
too: what is compared there are tests of one group, which differ after case has been forgotten if
they did before (`Alternation.caseless_ofBranches`).
-/

namespace RoutePattern

/-! ## Expressions -/

/-- A test that compares characters as they are. -/
def CharTest.caseless : CharTest → CharTest
  | any lineFeed => any lineFeed
  | literal code negated _ => literal code negated .keep
  | set members negated _ => set members negated .keep

/-- An expression that compares characters as they are. -/
def Expr.caseless : Expr → Expr
  | empty => empty
  | never => never
  | char test => char test.caseless
  | anchor place => anchor place
  | seq first second => seq first.caseless second.caseless
  | either first second => either first.caseless second.caseless
  | group number body => group number body.caseless
  | loop greed least most body => loop greed least most body.caseless
  | atomic body => atomic body.caseless
  | ahead positive body => ahead positive body.caseless
  | behind positive width body => behind positive width body.caseless
  | backref number width _ => backref number width .keep
  | ifGroup number yes no => ifGroup number yes.caseless no.caseless

namespace Expr

/-- There is nothing more to forget. -/
theorem caseless_caseless (e : Expr) : e.caseless.caseless = e.caseless := by
  induction e with
  | char test => cases test <;> rfl
  | empty | never | anchor | backref => rfl
  | seq _ _ ihfirst ihsecond => exact congrArg₂ seq ihfirst ihsecond
  | either _ _ ihfirst ihsecond => exact congrArg₂ either ihfirst ihsecond
  | group number _ ih => exact congrArg (group number) ih
  | loop greed least most _ ih => exact congrArg (loop greed least most) ih
  | atomic _ ih => exact congrArg atomic ih
  | ahead positive _ ih => exact congrArg (ahead positive) ih
  | behind positive width _ ih => exact congrArg (behind positive width) ih
  | ifGroup number _ _ ihyes ihno => exact congrArg₂ (ifGroup number) ihyes ihno

/-- The width has nothing to do with case. -/
@[simp] theorem width_caseless (e : Expr) : e.caseless.width = e.width := by
  induction e with
  | empty | never | char | anchor | ahead | behind | backref => rfl
  | seq _ _ ihfirst ihsecond => exact congrArg₂ Width.followedBy ihfirst ihsecond
  | either _ second ihfirst ihsecond =>
      -- A branch that never matches does not count.
      cases second with
      | never => exact ihfirst
      | _ => exact congrArg₂ Width.orElse ihfirst ihsecond
  | group _ _ ih | atomic _ ih => exact ih
  | loop _ least most _ ih => exact congrArg (Width.times · least most) ih
  | ifGroup _ _ _ ihyes ihno => exact congrArg₂ Width.orElse ihyes ihno

/-- What an expression asks for has nothing to do with case. -/
theorem demandFault?_caseless (template : Bool) (e : Expr) :
    e.caseless.demandFault? template = e.demandFault? template := by
  induction e with
  | empty | never | char | anchor | backref => rfl
  | seq _ _ ihfirst ihsecond | either _ _ ihfirst ihsecond | ifGroup _ _ _ ihfirst ihsecond =>
      exact congrArg₂ Option.or ihfirst ihsecond
  | group _ _ ih | atomic _ ih | ahead _ _ ih => exact ih
  | loop greed _ _ _ ih =>
      exact congrArg (fun fault => if template then some (.repetitionInTemplate greed) else fault) ih
  | behind _ width _ ih =>
      exact congrArg (fun fault => if width.most ≠ width.least then some .behindNotFixed else fault)
        ih

/-- How far an expression looks back has nothing to do with case. -/
theorem looksTooFar_caseless (e : Expr) : e.caseless.looksTooFar = e.looksTooFar := by
  induction e with
  | empty | never | char | anchor | backref => rfl
  | seq _ _ ihfirst ihsecond | either _ _ ihfirst ihsecond | ifGroup _ _ _ ihfirst ihsecond =>
      exact congrArg₂ or ihfirst ihsecond
  | group _ _ ih | loop _ _ _ _ ih | atomic _ ih | ahead _ _ ih => exact ih
  | behind _ width _ ih => exact congrArg (decide (behindLimit ≤ width.least) || ·) ih

/-- The expressions of a list in a row. -/
theorem caseless_ofList (items : List Expr) :
    (ofList items).caseless = ofList (items.map caseless) := by
  induction items with
  | nil => rfl
  | cons e rest ih =>
      cases rest with
      | nil => rfl
      | cons next later => exact congrArg (seq e.caseless) ih

/-- Only the same test and the same reference become the same, where both compare characters in the
same way. -/
theorem caseless_eq_iff {fold : Fold} {e other : Expr} (hsimple : Alternation.isSimple e = true)
    (he : e.KeepsTo fold) (hother : other.KeepsTo fold) :
    other.caseless = e.caseless ↔ other = e := by
  refine ⟨fun h => ?_, fun h => by rw [h]⟩
  cases e with
  | char test =>
      cases other with
      | char found =>
          have h : found.caseless = test.caseless := (char.injEq ..).mp h
          cases test <;> cases found <;> simp_all [CharTest.caseless, KeepsTo, CharTest.KeepsTo]
      | _ => cases h
  | anchor place =>
      cases other with
      | anchor => exact h
      | _ => cases h
  | backref number width own =>
      cases other with
      | backref =>
          cases h
          rw [KeepsTo] at he hother
          rw [he, hother]
      | _ => cases h
  | _ => simp [Alternation.isSimple] at hsimple

end Expr

namespace Alternation

open RoutePattern.Expr

variable {fold : Fold} {first : List Expr} {others branches : List (List Expr)}

/-- What may be taken out of alternatives has nothing to do with case. -/
theorem isSimple_caseless (e : Expr) : isSimple e.caseless = isSimple e := by
  cases e <;> rfl

/-- Whether an expression may be taken out of alternatives has nothing to do with case, if the
alternatives compare characters in the same way. -/
theorem leads_caseless {e : Expr} (he : e.KeepsTo fold)
    (hothers : ∀ other ∈ others, ∀ e ∈ other, e.KeepsTo fold) :
    (isSimple e.caseless &&
        (others.map (·.map caseless)).all fun other => other.head? == some e.caseless) =
      (isSimple e && others.all fun other => other.head? == some e) := by
  rw [isSimple_caseless]
  cases hsimple : isSimple e with
  | false => rfl
  | true =>
      rw [Bool.true_and, Bool.true_and, List.all_map, Bool.eq_iff_iff, List.all_eq_true,
        List.all_eq_true]
      refine forall₂_congr fun other hother => ?_
      cases other with
      | nil => simp
      | cons first rest =>
          simpa using caseless_eq_iff hsimple he (hothers _ hother first List.mem_cons_self)

/-- What alternatives begin with, and what is left of each, is the same up to case. -/
theorem splitLead_caseless (hfirst : ∀ e ∈ first, e.KeepsTo fold)
    (hothers : ∀ other ∈ others, ∀ e ∈ other, e.KeepsTo fold) :
    splitLead (first.map caseless) (others.map (·.map caseless)) =
      ((splitLead first others).1.map caseless,
        (splitLead first others).2.map (·.map caseless)) := by
  induction first generalizing others with
  | nil => rfl
  | cons e rest ih =>
      obtain ⟨he, hrest⟩ := List.forall_mem_cons.mp hfirst
      rw [List.map_cons, splitLead, splitLead, leads_caseless he hothers]
      split
      · have htails : ∀ other ∈ others.map List.tail, ∀ e ∈ other, e.KeepsTo fold := by
          intro tail htail e he
          obtain ⟨other, hother, rfl⟩ := List.mem_map.mp htail
          exact hothers other hother e (List.mem_of_mem_tail he)
        have htail : (others.map (·.map caseless)).map List.tail =
            (others.map List.tail).map (·.map caseless) := by
          simp [Function.comp_def]
        rw [htail, ih hrest htails]
        rfl
      · rfl

/-- The members of a set have nothing to do with case. -/
theorem members?_caseless (branch : List Expr) :
    members? (branch.map caseless) = members? branch := by
  match branch with
  | [] => rfl
  | [e] =>
      cases e with
      | char test =>
          cases test with
          | any => rfl
          | literal _ negated _ => cases negated <;> rfl
          | set _ negated _ => cases negated <;> rfl
      | _ => rfl
  | _ :: _ :: _ => simp [members?]

/-- The members of alternatives have nothing to do with case. -/
theorem allMembers?_caseless (branches : List (List Expr)) :
    allMembers? (branches.map (·.map caseless)) = allMembers? branches := by
  induction branches with
  | nil => rfl
  | cons branch rest ih => rw [List.map_cons, allMembers?, allMembers?, members?_caseless, ih]

/-- A choice is made among alternatives that are the same up to case. -/
theorem caseless_choice (branches : List (List Expr)) :
    (choice branches).caseless = choice (branches.map (·.map caseless)) := by
  induction branches with
  | nil => rfl
  | cons branch rest ih => exact congrArg₂ either (caseless_ofList branch) ih

/-- Alternatives that compare characters in the same way are put together in the same way once case
is forgotten. -/
theorem caseless_ofBranches (h : ∀ branch ∈ branches, ∀ e ∈ branch, e.KeepsTo fold) :
    (ofBranches fold branches).map caseless = ofBranches .keep (branches.map (·.map caseless)) := by
  match branches with
  | [] => rfl
  | [branch] => rfl
  | first :: second :: rest =>
      obtain ⟨hfirst, hothers⟩ := List.forall_mem_cons.mp h
      have hsplit := splitLead_caseless hfirst hothers
      rw [List.map_cons] at hsplit
      simp only [ofBranches, List.map_cons, hsplit, allMembers?_caseless]
      split
      · rw [List.map_append]
        rfl
      · rw [List.map_append, List.map_singleton, caseless_choice]

end Alternation

/-! ## Groups that are being read -/

/-- The flags without the one to ignore case. -/
def Flags.caseless (flags : Flags) : Flags :=
  { flags with ignoreCase := false }

/-- A term that compares characters as they are. -/
def Term.caseless : Term → Term
  | item e => item e.caseless
  | bare items => bare (items.map Expr.caseless)

/-- A group that compares characters as they are. -/
def Frame.caseless (frame : Frame) : Frame :=
  { frame with
    branches := frame.branches.map (·.map Expr.caseless)
    terms := frame.terms.map Term.caseless
    flags := frame.flags.caseless }

/-- A flag is set in the same way. -/
theorem Flags.caseless_put (flags : Flags) (value : Bool) (letter : Char) :
    (flags.caseless.put value letter).caseless = (flags.put value letter).caseless := by
  unfold put
  split <;> rfl

/-- Flags are changed in the same way. -/
theorem Flags.caseless_change (flags : Flags) (on off : List Char) :
    (flags.caseless.change on off).caseless = (flags.change on off).caseless := by
  have hfold (value : Bool) (letters : List Char) {first second : Flags}
      (h : first.caseless = second.caseless) :
      (letters.foldl (·.put value ·) first).caseless =
        (letters.foldl (·.put value ·) second).caseless := by
    induction letters generalizing first second with
    | nil => exact h
    | cons letter rest ih =>
        refine ih ?_
        rw [← caseless_put first, ← caseless_put second, h]
  exact hfold false off (hfold true on rfl)

/-- There is nothing more to forget in a term. -/
theorem Term.caseless_caseless (term : Term) : term.caseless.caseless = term.caseless := by
  cases term <;> simp [caseless, Expr.caseless_caseless, Function.comp_def]

/-- The expressions of a term. -/
theorem Term.items_caseless (term : Term) : term.caseless.items = term.items.map Expr.caseless := by
  cases term <;> rfl

namespace Frame

variable {frame : Frame}

/-- There is nothing more to forget in a group. -/
theorem caseless_caseless (frame : Frame) : frame.caseless.caseless = frame.caseless := by
  simp [caseless, Expr.caseless_caseless, Term.caseless_caseless, Flags.caseless, Function.comp_def]

/-- The current branch. -/
theorem branch_caseless (frame : Frame) :
    frame.caseless.branch = frame.branch.map Expr.caseless := by
  simp [caseless, branch, ← List.map_reverse, List.flatMap_map, List.map_flatMap,
    Term.items_caseless]

/-- All branches. -/
theorem allBranches_caseless (frame : Frame) :
    frame.caseless.allBranches = frame.allBranches.map (·.map Expr.caseless) := by
  rw [allBranches, allBranches, branch_caseless, List.map_reverse]
  rfl

/-- The content of a group that keeps to its flags. -/
theorem items_caseless (h : ExprReader.Uniform frame.flags.fold frame.branches frame.terms) :
    frame.caseless.items = frame.items.map Expr.caseless := by
  rw [items, items, Alternation.caseless_ofBranches h.allBranches, allBranches_caseless]
  rfl

/-- The content of a group that keeps to its flags, as one expression. -/
theorem body_caseless (h : ExprReader.Uniform frame.flags.fold frame.branches frame.terms) :
    frame.caseless.body = frame.body.caseless := by
  rw [body, body, items_caseless h, Expr.caseless_ofList]

/-- The term of a group that keeps to its flags. -/
theorem term_caseless (h : ExprReader.Uniform frame.flags.fold frame.branches frame.terms) :
    frame.caseless.term = frame.term.caseless := by
  unfold term
  rw [body_caseless h, items_caseless h, allBranches_caseless,
    show frame.caseless.kind = frame.kind from rfl]
  split
  case h_6 => rw [Expr.width_caseless]; rfl
  case h_7 =>
    match frame.allBranches with
    | [] => rfl
    | [yes] => simp [Term.caseless, Expr.caseless, Expr.caseless_ofList]
    | yes :: no :: rest => simp [Term.caseless, Expr.caseless, Expr.caseless_ofList]
  all_goals rfl

end Frame

end RoutePattern
