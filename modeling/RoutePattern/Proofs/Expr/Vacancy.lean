import RoutePattern.Proofs.Expr.Ordering

/-!
# Choices with an empty alternative

Expressions in a row are `Vacant` if there are none, or only a choice with such a row among its
alternatives. Putting alternatives together never takes a vacant one out of the choice
(`vacant_ofBranches`), and a vacant row passes anywhere without reading. So every search for it ends
at the beginning of the text: `Expression.search_of_vacant` is the main result.
-/

namespace RoutePattern

open Alternation

/-- There is nothing in a row, or nothing but a choice with such an alternative. -/
inductive Vacant : List Expr → Prop
  | nothing : Vacant []
  | choice {branch : List Expr} {branches : List (List Expr)} (hmem : branch ∈ branches)
      (hbranch : Vacant branch) : Vacant [choice branches]

namespace Vacant

variable {branch : List Expr} {branches : List (List Expr)}

/-! ## Putting alternatives together -/

/-- A vacant row begins with nothing that might be taken out of alternatives. -/
theorem not_isSimple (h : Vacant branch) : ∀ e, branch.head? = some e → isSimple e = false := by
  cases h with
  | nothing => simp
  | @choice _ branches _ _ =>
      cases branches <;> simp [Alternation.choice, isSimple]

/-- A vacant row is no single character or set. -/
theorem members?_eq_none (h : Vacant branch) : members? branch = none := by
  cases h with
  | nothing => rfl
  | @choice _ branches _ _ => cases branches <;> rfl

/-- Alternatives with a vacant one among them are no characters and sets. -/
theorem allMembers?_eq_none (hmem : branch ∈ branches) (h : Vacant branch) :
    allMembers? branches = none := by
  induction branches with
  | nil => simp at hmem
  | cons first rest ih =>
      rcases List.mem_cons.mp hmem with rfl | hmem
      · simp [allMembers?, h.members?_eq_none]
      · simp [allMembers?, ih hmem]

/-- Alternatives with a vacant one among them begin with nothing in common. -/
theorem splitLead_eq_nil {first : List Expr} {others : List (List Expr)}
    (hmem : branch ∈ first :: others) (h : Vacant branch) :
    splitLead first others = ([], first :: others) := by
  rcases hsplit : splitLead first others with ⟨lead, tails⟩
  obtain ⟨htails, hsimple⟩ := splitLead_eq hsplit
  cases lead with
  | nil => simpa using htails.symm
  | cons e lead =>
      rw [htails] at hmem
      obtain ⟨tail, _, rfl⟩ := List.mem_map.mp hmem
      have hnot := h.not_isSimple e rfl
      simp [hsimple e List.mem_cons_self] at hnot

/-- Alternatives with a vacant one among them are vacant when they are put together. -/
theorem ofBranches (fold : Fold) (hmem : branch ∈ branches) (h : Vacant branch) :
    Vacant (Alternation.ofBranches fold branches) := by
  match branches with
  | [] => simp at hmem
  | [only] =>
      obtain rfl := List.mem_singleton.mp hmem
      exact h
  | first :: second :: rest =>
      rw [Alternation.ofBranches, splitLead_eq_nil hmem h]
      · simp only [allMembers?_eq_none hmem h, List.nil_append]
        exact .choice hmem h
      · simp

/-! ## Matching anywhere -/

/-- A vacant row asks for no character. -/
theorem width_eq_zero (h : Vacant branch) : (Expr.ofList branch).width.least = 0 := by
  induction h with
  | nothing => rfl
  | @choice branch branches hmem _ ih =>
      show (Alternation.choice branches).width.least = 0
      induction branches with
      | nil => simp at hmem
      | cons first rest ihrest =>
          obtain ⟨hfirst, hrest⟩ := Expr.width_either_le (.ofList first) (Alternation.choice rest)
          rw [Alternation.choice]
          rcases List.mem_cons.mp hmem with rfl | hmem
          · omega
          · have hne : Alternation.choice rest ≠ .never := by
              cases rest with
              | nil => simp at hmem
              | cons => simp [Alternation.choice]
            have := hrest hne
            have := ihrest hmem
            omega

/-- A vacant row begins with no test. -/
theorem lead_eq_none (h : Vacant branch) : (Expr.ofList branch).lead none = none := by
  cases h with
  | nothing => rfl
  | @choice _ branches _ _ => cases branches <;> rfl

/-- A vacant row matches anywhere. -/
theorem run_succeeds (h : Vacant branch) (looped : Bool) (next : Option CharTest) (p : Place)
    (memory : Memory) (k : Continuation) (hk : ∀ q later, (k q later).Succeeds) :
    ((Expr.ofList branch).run looped next p memory k).Succeeds := by
  induction h generalizing looped next p memory with
  | nothing => exact hk p memory
  | @choice branch branches hmem hvacant ih =>
      show ((Alternation.choice branches).run looped next p memory k).Succeeds
      induction branches generalizing next memory with
      | nil => simp at hmem
      | cons first rest ihrest =>
          rw [Alternation.choice, Expr.run, Matching.orElse]
          refine Attempt.Succeeds.orElse ?_ _
          rcases List.mem_cons.mp hmem with rfl | hmem
          · rw [hvacant.lead_eq_none]
            exact Attempt.Succeeds.orElse (ih looped none p (memory.moveTo p)) _
          · exact Attempt.succeeds_orElse _ fun later => ihrest hmem none _

end Vacant

/-- A search for a vacant row ends at the beginning of the text. -/
theorem Expression.search_of_vacant {expression : Expression} {items : List Expr} {high : Nat}
    (hexpr : expression.expr = .ofList items) (hvacant : Vacant items)
    (hnumbered : expression.expr.Numbered false 0 high) (horderly : expression.expr.Orderly)
    (text : String) : ∃ found, expression.search text = .ok (some found) ∧ found.index = 0 := by
  have hwidth : expression.expr.width.least = 0 := hexpr ▸ hvacant.width_eq_zero
  have htest : expression.expr.searchTest? expression.flags.asciiOnly = none := by
    rw [Expr.searchTest?, if_pos hwidth]
  have hrun := hvacant.run_succeeds false none (.start text.toList) { cursor := .start text.toList }
    Matching.accept fun _ _ => trivial
  rw [← hexpr] at hrun
  cases hattempt : expression.expr.run false none (.start text.toList)
      { cursor := .start text.toList } Matching.accept with
  | failed later =>
      rw [hattempt] at hrun
      exact hrun.elim
  | found memory =>
      have hordered := Expr.ordered_of_run (k := Matching.accept) hnumbered horderly
        (fun _ _ => rfl) hattempt
      exact search_of_run (by omega) (by simp [htest]) hattempt (hasCrossedGroup_of_ordered hordered)

end RoutePattern
