import RoutePattern.Proofs.Expr.Move

/-!
# How the characters of a group are compared

All tests and references at the top of a group compare characters as the flags of the group say.
Only a group with flags of its own may hold others, and it is one term of the group around it.
`run_tidy` says that reading keeps it so.
-/

namespace RoutePattern

/-- A choice is not taken out of alternatives. -/
theorem Alternation.keepsTo_choice (fold : Fold) (branches : List (List Expr)) :
    (choice branches).KeepsTo fold := by
  cases branches <;> trivial

/-- Alternatives are put together to expressions that compare characters as they do. -/
theorem Alternation.keepsTo_ofBranches {fold : Fold} {branches : List (List Expr)}
    (h : ∀ branch ∈ branches, ∀ e ∈ branch, e.KeepsTo fold) :
    ∀ e ∈ ofBranches fold branches, e.KeepsTo fold :=
  forall_mem_ofBranches fold (fun _ _ _ _ => rfl) (fun tails _ => keepsTo_choice fold tails) h

namespace ExprReader

/-- The tests and references at the top of finished branches and of the terms of the current one
compare characters in the given way. -/
structure Uniform (fold : Fold) (branches : List (List Expr)) (terms : List Term) : Prop where
  branches : ∀ branch ∈ branches, ∀ e ∈ branch, e.KeepsTo fold
  terms : ∀ term ∈ terms, ∀ e ∈ term.items, e.KeepsTo fold

namespace Uniform

variable {fold : Fold} {branches : List (List Expr)} {term other : Term} {terms : List Term}
  {frame : Frame}

/-- Nothing has been read. -/
theorem nil : Uniform fold [] [] :=
  ⟨by simp, by simp⟩

/-- One more term. -/
theorem cons (h : Uniform fold branches terms) (hterm : ∀ e ∈ term.items, e.KeepsTo fold) :
    Uniform fold branches (term :: terms) :=
  ⟨h.branches, List.forall_mem_cons.mpr ⟨hterm, h.terms⟩⟩

/-- Another term in place of the last one. -/
theorem replace (h : Uniform fold branches (term :: terms))
    (hother : ∀ e ∈ other.items, e.KeepsTo fold) : Uniform fold branches (other :: terms) :=
  ⟨h.branches, List.forall_mem_cons.mpr ⟨hother, (List.forall_mem_cons.mp h.terms).2⟩⟩

/-- The current branch as a list of expressions. -/
theorem branch (h : Uniform fold frame.branches frame.terms) :
    ∀ e ∈ frame.branch, e.KeepsTo fold := by
  intro e he
  obtain ⟨term, hterm, he⟩ := List.mem_flatMap.mp he
  exact h.terms term (List.mem_reverse.mp hterm) e he

/-- All branches. -/
theorem allBranches (h : Uniform fold frame.branches frame.terms) :
    ∀ branch ∈ frame.allBranches, ∀ e ∈ branch, e.KeepsTo fold := by
  intro branch hbranch
  rcases List.mem_cons.mp (List.mem_reverse.mp hbranch) with rfl | hbranch
  · exact h.branch
  · exact h.branches branch hbranch

/-- The term that a finished group stands for. What is inside of it comes to the top only if it is a
plain group. -/
theorem term_items (h : Uniform frame.flags.fold frame.branches frame.terms)
    (hbare : frame.kind = .bare → frame.flags.fold = fold) :
    ∀ e ∈ frame.term.items, e.KeepsTo fold := by
  unfold Frame.term
  split
  case h_2 hkind => exact hbare hkind ▸ Alternation.keepsTo_ofBranches h.allBranches
  case h_7 => split <;> exact List.forall_mem_singleton.mpr trivial
  all_goals exact List.forall_mem_singleton.mpr trivial

end Uniform

/-- Going on inside of a group keeps to its flags. -/
theorem Edit.uniform {frame : Frame} {branches : List (List Expr)} {terms : List Term}
    (h : Edit frame branches terms)
    (hframe : Uniform frame.flags.fold frame.branches frame.terms) :
    Uniform frame.flags.fold branches terms := by
  induction h with
  | keep => exact hframe
  | char test htest _ ih => exact ih.cons (List.forall_mem_singleton.mpr htest)
  | anchor place _ ih => exact ih.cons (List.forall_mem_singleton.mpr trivial)
  | again least most hterms =>
      rw [hterms] at hframe
      exact hframe.replace (List.forall_mem_singleton.mpr trivial)
  | order other hterms =>
      rw [hterms] at hframe
      exact hframe.replace (List.forall_mem_singleton.mpr trivial)
  | bar => exact ⟨List.forall_mem_cons.mpr ⟨hframe.branch, hframe.branches⟩, by simp⟩

/-- The open groups keep to their flags, and a plain group has the flags of the one around it. -/
def AllUniform : Frame → List Frame → Prop
  | frame, [] => Uniform frame.flags.fold frame.branches frame.terms
  | frame, parent :: rest => Uniform frame.flags.fold frame.branches frame.terms ∧
      (frame.kind = .bare → frame.flags = parent.flags) ∧ AllUniform parent rest

namespace AllUniform

variable {frame : Frame} {outer : List Frame}

/-- The innermost group keeps to its flags. -/
theorem uniform (h : AllUniform frame outer) :
    Uniform frame.flags.fold frame.branches frame.terms := by
  cases outer with
  | nil => exact h
  | cons parent rest => exact h.1

/-- The innermost group may be read on if it keeps to its flags. -/
theorem edit (h : AllUniform frame outer) {branches : List (List Expr)} {terms : List Term}
    (hframe : Uniform frame.flags.fold branches terms) :
    AllUniform { frame with branches, terms } outer := by
  cases outer with
  | nil => exact hframe
  | cons parent rest => exact ⟨hframe, h.2⟩

end AllUniform

variable {taken : Option Piece} {reader later : ExprReader}

/-- All open groups of a reader keep to their flags. -/
def Tidy (reader : ExprReader) : Prop :=
  AllUniform reader.frame reader.outer

/-- A reader is tidy at the start. -/
theorem start_tidy (flags : Flags) : (start flags).Tidy :=
  Uniform.nil

/-- A move leaves a reader tidy. -/
theorem Move.tidy (h : Move taken reader later) (hreader : reader.Tidy) : later.Tidy := by
  cases h with
  | stay pending branches terms _ hedit => exact hreader.edit (hedit.uniform hreader.uniform)
  | refer => exact hreader.edit (hreader.uniform.cons (List.forall_mem_singleton.mpr rfl))
  | enter kind flags bound conditions _ _ _ hflags => exact ⟨.nil, hflags, hreader⟩
  | capture => exact ⟨.nil, nofun, hreader⟩
  | leave parent rest houter =>
      rw [Tidy, houter] at hreader
      obtain ⟨hframe, hflags, hparent⟩ := hreader
      have hafter : AllUniform { parent with terms := reader.frame.term :: parent.terms } rest :=
        hparent.edit (hparent.uniform.cons (hframe.term_items fun hbare => by rw [hflags hbare]))
      unfold close
      dsimp only
      split <;> exact hafter
  | setFlags on later h =>
      unfold ExprReader.setFlags at h
      split at h
      · next hstart =>
        cases h
        simp only [Bool.and_eq_true, List.isEmpty_iff] at hstart
        obtain ⟨⟨houter, hbranches⟩, hterms⟩ := hstart
        dsimp only [Tidy]
        rw [houter, hbranches, hterms]
        exact Uniform.nil
      · cases h

/-- A step leaves a reader tidy. -/
theorem step_tidy {piece : Piece} (hreader : reader.Tidy) (h : reader.step piece = .ok later) :
    later.Tidy := by
  obtain ⟨settled, hsettle, haccept⟩ := step_eq_ok.mp h
  exact (accept_move haccept).tidy ((settle_move hsettle).tidy hreader)

/-- Reading leaves a reader tidy. -/
theorem run_tidy {pieces : List Piece} (hreader : reader.Tidy) (h : reader.run pieces = .ok later) :
    later.Tidy := by
  induction pieces generalizing reader with
  | nil => exact Except.ok.inj ((run_nil reader).symm.trans h) ▸ hreader
  | cons piece rest ih =>
      obtain ⟨_, middle, hstep, hrest⟩ := run_cons.mp h
      exact ih (step_tidy hreader hstep) hrest

end ExprReader

end RoutePattern
