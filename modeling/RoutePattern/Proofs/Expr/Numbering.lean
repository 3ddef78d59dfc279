import RoutePattern.Proofs.Expr.Alternatives
import RoutePattern.Proofs.Expr.Move

/-!
# The numbers of the groups

`Expr.Numbered` says that the capture groups of an expression have numbers in a range, in the order in
which they are passed, a group in front of those inside of it. Reading numbers them so:
`Expression.read_numbered` is the main result. A reader keeps the ranges of the groups that are open
one inside of the other (`ExprReader.Nested`), and every edit and every move preserves them.
-/

namespace RoutePattern

namespace Expr

variable {e : Expr} {looped : Bool} {low middle high low' high' : Nat}

/-- The groups of an expression have numbers above `low` and up to `high`. Outside of repetitions they
have them in order, and a group has a lower number than those inside of it. The widths of references
are within the limit. -/
def Numbered : Expr → Bool → Nat → Nat → Prop
  | seq first second, looped, low, high =>
      if looped then first.Numbered true low high ∧ second.Numbered true low high
      else ∃ middle, first.Numbered false low middle ∧ second.Numbered false middle high
  | either first second, looped, low, high | ifGroup _ first second, looped, low, high =>
      first.Numbered looped low high ∧ second.Numbered looped low high
  | group number body, looped, low, high => low < number ∧ body.Numbered looped number high
  | loop _ _ _ body, _, low, high => body.Numbered true low high
  | atomic body, looped, low, high | ahead _ body, looped, low, high
  | behind _ _ body, looped, low, high => body.Numbered looped low high
  | backref _ width _, _, low, high => low ≤ high ∧ width.least < countLimit
  | _, _, low, high => low ≤ high

namespace Numbered

/-- A range of numbers ends where it begins or later. -/
theorem le (h : e.Numbered looped low high) : low ≤ high := by
  induction e generalizing looped low high with
  | empty | never | char | anchor => exact h
  | seq first second ihfirst ihsecond =>
      rw [Numbered] at h
      split at h
      · exact ihfirst h.1
      · obtain ⟨middle, hfirst, hsecond⟩ := h
        exact Nat.le_trans (ihfirst hfirst) (ihsecond hsecond)
  | either first second ih | ifGroup _ first second ih => exact ih h.1
  | group number body ih => exact Nat.le_of_lt (Nat.lt_of_lt_of_le h.1 (ih h.2))
  | loop _ _ _ body ih | atomic body ih | ahead _ body ih | behind _ _ body ih => exact ih h
  | backref => exact h.1

/-- A larger range of numbers will do. -/
theorem widen (h : e.Numbered looped low high) (hlow : low' ≤ low) (hhigh : high ≤ high') :
    e.Numbered looped low' high' := by
  induction e generalizing looped low high low' high' with
  | empty | never | char | anchor => exact Nat.le_trans hlow (Nat.le_trans h hhigh)
  | seq first second ihfirst ihsecond =>
      rw [Numbered] at h ⊢
      split at h
      · next hlooped =>
        rw [if_pos hlooped]
        exact ⟨ihfirst h.1 hlow hhigh, ihsecond h.2 hlow hhigh⟩
      · next hlooped =>
        obtain ⟨middle, hfirst, hsecond⟩ := h
        rw [if_neg hlooped]
        exact ⟨middle, ihfirst hfirst hlow (Nat.le_refl _), ihsecond hsecond (Nat.le_refl _) hhigh⟩
  | either first second ihfirst ihsecond | ifGroup _ first second ihfirst ihsecond =>
      exact ⟨ihfirst h.1 hlow hhigh, ihsecond h.2 hlow hhigh⟩
  | group number body ih =>
      exact ⟨Nat.lt_of_le_of_lt hlow h.1, ih h.2 (Nat.le_refl _) hhigh⟩
  | loop _ _ _ body ih | atomic body ih | ahead _ body ih | behind _ _ body ih =>
      exact ih h hlow hhigh
  | backref => exact ⟨Nat.le_trans hlow (Nat.le_trans h.1 hhigh), h.2⟩

/-- What is numbered in order is also numbered inside of a repetition. -/
theorem inLoop (h : e.Numbered false low high) : e.Numbered true low high := by
  induction e generalizing low high with
  | empty | never | char | anchor | loop | backref => exact h
  | seq first second ihfirst ihsecond =>
      obtain ⟨middle, hfirst, hsecond⟩ := h
      exact ⟨(ihfirst hfirst).widen (Nat.le_refl low) hsecond.le,
        (ihsecond hsecond).widen hfirst.le (Nat.le_refl high)⟩
  | either first second ihfirst ihsecond | ifGroup _ first second ihfirst ihsecond =>
      exact ⟨ihfirst h.1, ihsecond h.2⟩
  | group number body ih => exact ⟨h.1, ih h.2⟩
  | atomic body ih | ahead _ body ih | behind _ _ body ih => exact ih h

/-- The least length of what is numbered is within the limit. -/
theorem width_lt (h : e.Numbered looped low high) : e.width.least < countLimit := by
  have hwithin (least most : Nat) : (Width.within least most).least < countLimit := by
    simp only [Width.within, countLimit]
    omega
  induction e generalizing looped low high with
  | empty | never | char | anchor | ahead | behind => exact hwithin _ _
  | seq | loop => exact hwithin _ _
  | either first second ih =>
      exact Nat.lt_of_le_of_lt (width_either_le first second).1 (ih h.1)
  | ifGroup _ first second ih => exact Nat.lt_of_le_of_lt (Nat.min_le_left _ _) (ih h.1)
  | group number body ih => exact ih h.2
  | atomic body ih => exact ih h
  | backref => exact h.2

end Numbered

/-- In a row of expressions the numbers of the first one come first. -/
theorem numbered_ofList_cons {rest : List Expr} :
    (ofList (e :: rest)).Numbered false low high ↔
      ∃ middle, e.Numbered false low middle ∧ (ofList rest).Numbered false middle high := by
  cases rest with
  | nil =>
      refine ⟨fun h => ⟨high, h, Nat.le_refl high⟩, ?_⟩
      rintro ⟨middle, h, hle⟩
      exact h.widen (Nat.le_refl low) hle
  | cons next rest => rfl

/-- In two rows of expressions the numbers of the first row come first. -/
theorem numbered_ofList_append {first second : List Expr} :
    (ofList (first ++ second)).Numbered false low high ↔
      ∃ middle, (ofList first).Numbered false low middle ∧
        (ofList second).Numbered false middle high := by
  induction first generalizing low with
  | nil =>
      refine ⟨fun h => ⟨low, Nat.le_refl low, h⟩, ?_⟩
      rintro ⟨middle, hle, h⟩
      exact h.widen hle (Nat.le_refl high)
  | cons e rest ih =>
      simp only [List.cons_append, numbered_ofList_cons, ih]
      constructor
      · rintro ⟨inner, he, middle, hrest, hsecond⟩
        exact ⟨middle, ⟨inner, he, hrest⟩, hsecond⟩
      · rintro ⟨middle, ⟨inner, he, hrest⟩, hsecond⟩
        exact ⟨inner, he, middle, hrest, hsecond⟩

/-- Every expression in a row has its numbers in the range of the row. -/
theorem numbered_of_mem {items : List Expr} (h : (ofList items).Numbered false low high)
    (he : e ∈ items) : e.Numbered false low high := by
  induction items generalizing low with
  | nil => simp at he
  | cons first rest ih =>
      obtain ⟨middle, hfirst, hrest⟩ := numbered_ofList_cons.mp h
      rcases List.mem_cons.mp he with rfl | he
      · exact hfirst.widen (Nat.le_refl low) hrest.le
      · exact (ih hrest he).widen hfirst.le (Nat.le_refl high)

/-- Tests, conditions on the place and references have no groups, so they need no numbers. -/
theorem numbered_of_isSimple {lead : List Expr} (hsimple : ∀ e ∈ lead, Alternation.isSimple e = true)
    (h : (ofList lead).Numbered false low high) (count : Nat) :
    (ofList lead).Numbered false count count := by
  induction lead with
  | nil => exact Nat.le_refl count
  | cons e rest ih =>
      obtain ⟨hfirst, hrest⟩ := List.forall_mem_cons.mp hsimple
      have hnumbered := numbered_of_mem h List.mem_cons_self
      obtain ⟨middle, he, hall⟩ := numbered_ofList_cons.mp h
      refine numbered_ofList_cons.mpr ⟨count, ?_, ih hrest (hall.widen he.le (Nat.le_refl high))⟩
      cases e with
      | char | anchor => exact Nat.le_refl count
      | backref => exact ⟨Nat.le_refl count, hnumbered.2⟩
      | _ => simp [Alternation.isSimple] at hfirst

/-- A choice among rows of expressions has its numbers in the range of each of them. -/
theorem numbered_choice {branches : List (List Expr)} (hle : low ≤ high)
    (h : ∀ branch ∈ branches, (ofList branch).Numbered false low high) :
    (Alternation.choice branches).Numbered false low high :=
  @Alternation.choice_of_branches (Numbered · false low high) hle (fun _ _ => And.intro) branches h

/-- Alternatives put together have their numbers in the range of each of them. -/
theorem numbered_ofBranches (fold : Fold) {branches : List (List Expr)} (hle : low ≤ high)
    (h : ∀ branch ∈ branches, (ofList branch).Numbered false low high) :
    (ofList (Alternation.ofBranches fold branches)).Numbered false low high := by
  unfold Alternation.ofBranches
  split
  · exact hle
  · exact h _ (by simp)
  · next first others _ =>
    cases hsplit : Alternation.splitLead first others with
    | mk lead tails =>
        obtain ⟨hbranches, hsimple⟩ := Alternation.splitLead_eq hsplit
        rw [hbranches] at h
        have htails (tail : List Expr) (htail : tail ∈ tails) :
            (ofList tail).Numbered false low high := by
          obtain ⟨middle, hlead, hrest⟩ := numbered_ofList_append.mp (h _ (List.mem_map_of_mem htail))
          exact hrest.widen hlead.le (Nat.le_refl high)
        have hlead : (ofList lead).Numbered false low low := by
          obtain ⟨tail, htail⟩ := Alternation.exists_mem_of_splitLead hsplit
          obtain ⟨middle, hlead, _⟩ := numbered_ofList_append.mp (h _ (List.mem_map_of_mem htail))
          exact numbered_of_isSimple hsimple hlead low
        dsimp only
        split
        · exact numbered_ofList_append.mpr ⟨low, hlead, hle⟩
        · exact numbered_ofList_append.mpr ⟨low, hlead, numbered_choice hle htails⟩

end Expr

open RoutePattern.Expr

/-! ## Groups that are being read -/

/-- A term as a single expression is the row of its expressions. -/
theorem Term.body_eq (term : Term) : term.body = .ofList term.items := by
  cases term <;> rfl

/-- Finished branches and the terms of the current one have their numbers in a range. -/
structure NumberedBranches (branches : List (List Expr)) (terms : List Term) (low high : Nat) :
    Prop where
  branches : ∀ branch ∈ branches, (ofList branch).Numbered false low high
  terms : (ofList (terms.reverse.flatMap Term.items)).Numbered false low high

namespace NumberedBranches

variable {branches : List (List Expr)} {terms : List Term} {term other : Term}
  {frame : Frame} {low middle high : Nat}

/-- Before anything has been read a range may end where it begins. -/
theorem start (low : Nat) : NumberedBranches [] [] low low :=
  ⟨by simp, Nat.le_refl low⟩

/-- A range of numbers ends where it begins or later. -/
theorem le (h : NumberedBranches branches terms low high) : low ≤ high :=
  h.terms.le

/-- One more term may have further numbers. -/
theorem cons (h : NumberedBranches branches terms low middle)
    (hterm : (ofList term.items).Numbered false middle high) :
    NumberedBranches branches (term :: terms) low high where
  branches branch hbranch := (h.branches branch hbranch).widen (Nat.le_refl low) hterm.le
  terms := by
    rw [List.reverse_cons, List.flatMap_append, numbered_ofList_append]
    exact ⟨middle, h.terms, by simpa using hterm⟩

/-- The last term may be replaced by one that needs no more numbers. -/
theorem replace (h : NumberedBranches branches (term :: terms) low high)
    (hterm : ∀ low, (ofList term.items).Numbered false low high →
      (ofList other.items).Numbered false low high) :
    NumberedBranches branches (other :: terms) low high where
  branches := h.branches
  terms := by
    have hall := h.terms
    rw [List.reverse_cons, List.flatMap_append, numbered_ofList_append] at hall ⊢
    obtain ⟨middle, hfront, hlast⟩ := hall
    exact ⟨middle, hfront, by simpa using hterm middle (by simpa using hlast)⟩

/-- Every branch has its numbers in the range. -/
theorem allBranches (h : NumberedBranches frame.branches frame.terms low high) :
    ∀ branch ∈ frame.allBranches, (ofList branch).Numbered false low high := by
  intro branch hbranch
  simp only [Frame.allBranches, List.mem_reverse, List.mem_cons] at hbranch
  obtain rfl | hbranch := hbranch
  · exact h.terms
  · exact h.branches branch hbranch

/-- The content of a group has its numbers in the range. -/
theorem body (h : NumberedBranches frame.branches frame.terms low high) :
    frame.body.Numbered false low high :=
  numbered_ofBranches _ h.le h.allBranches

end NumberedBranches

namespace ExprReader

variable {taken : Option Piece} {reader later : ExprReader} {frame : Frame} {low count high : Nat}

/-- Going on inside of a group keeps the range of its numbers. -/
theorem Edit.numbered {branches : List (List Expr)} {terms : List Term}
    (h : Edit frame branches terms)
    (hframe : NumberedBranches frame.branches frame.terms low high) :
    NumberedBranches branches terms low high := by
  induction h with
  | keep => exact hframe
  | char test _ _ ih => exact ih.cons (Nat.le_refl high)
  | anchor place _ ih => exact ih.cons (Nat.le_refl high)
  | @again term earlier least most hterms =>
      rw [hterms] at hframe
      refine hframe.replace fun middle hterm => ?_
      show term.body.Numbered true middle high
      rw [term.body_eq]
      exact hterm.inLoop
  | order other hterms =>
      rw [hterms] at hframe
      exact hframe.replace fun middle hterm => hterm
  | bar => exact ⟨List.forall_mem_cons.mpr ⟨hframe.terms, hframe.branches⟩, hframe.le⟩

/-- Where the numbers inside of a group begin if there are some groups in front of it. -/
def innerLow (kind : GroupKind) (count : Nat) : Nat :=
  match kind with
  | .capture number => number
  | _ => count

/-- The groups that are open have their numbers in ranges one inside of the other, the innermost one
up to a number. -/
def Nested : Frame → List Frame → Nat → Prop
  | frame, [], high => NumberedBranches frame.branches frame.terms 0 high
  | frame, parent :: rest, high => ∃ count,
      (∀ number, frame.kind = .capture number → count < number) ∧
        NumberedBranches frame.branches frame.terms (innerLow frame.kind count) high ∧
          Nested parent rest count

/-- The innermost group may have further branches and terms in its range. -/
theorem Nested.extend {outer : List Frame} {other : Frame} (h : Nested frame outer count)
    (hkind : other.kind = frame.kind)
    (hextend : ∀ low, NumberedBranches frame.branches frame.terms low count →
      NumberedBranches other.branches other.terms low high) : Nested other outer high := by
  cases outer with
  | nil => exact hextend 0 h
  | cons parent rest =>
      obtain ⟨before, hbefore, hframe, hrest⟩ := h
      rw [← hkind] at hbefore hframe
      exact ⟨before, hbefore, hextend _ hframe, hrest⟩

/-- A finished group stands for a term with the numbers behind those in front of it. -/
theorem numbered_term (hcount : ∀ number, frame.kind = .capture number → count < number)
    (h : NumberedBranches frame.branches frame.terms (innerLow frame.kind count) high) :
    (ofList frame.term.items).Numbered false count high := by
  have hbody := h.body
  have hbranches := h.allBranches
  cases hkind : frame.kind with
  | capture number =>
      rw [hkind] at hbody
      simp only [Frame.term, hkind]
      exact ⟨hcount number hkind, hbody⟩
  | bare | atomic | ahead | behind =>
      rw [hkind] at hbody
      simp only [Frame.term, hkind]
      exact hbody
  | condition number =>
      rw [hkind] at hbody hbranches
      simp only [Frame.term, hkind]
      split
      · next yes heq =>
        rw [heq] at hbranches
        exact ⟨hbranches yes (by simp), hbody.le⟩
      · next yes no rest heq =>
        rw [heq] at hbranches
        exact ⟨hbranches yes (by simp), hbranches no (by simp)⟩
      · exact hbody.le
  | _ =>
      -- What is left is a group with flags of its own.
      rw [hkind] at hbody
      simp only [Frame.term, hkind]
      exact ⟨high, hbody, Nat.le_refl high⟩

/-- The groups that are open and those that have been met have their numbers in order, and the widths
of finished groups are within the limit. -/
structure Numbered (reader : ExprReader) : Prop where
  nested : Nested reader.frame reader.outer reader.opened
  closed : ∀ number width, reader.closed.lookup number = some width → width.least < countLimit

/-- A move keeps the numbers in order. -/
theorem Move.numbered (h : Move taken reader later) (hreader : reader.Numbered) :
    later.Numbered := by
  obtain ⟨hnested, hclosed⟩ := hreader
  cases h with
  | stay pending branches terms _ hedit =>
      exact ⟨hnested.extend rfl fun low hframe => hedit.numbered hframe, hclosed⟩
  | refer hlookup =>
      refine ⟨hnested.extend rfl fun low hframe => hframe.cons ?_, hclosed⟩
      exact ⟨Nat.le_refl _, hclosed _ _ hlookup⟩
  | enter kind flags bound conditions hkind =>
      refine ⟨⟨reader.opened, fun number hcapture => ?_, ?_, hnested⟩, hclosed⟩
      · rw [show kind = .capture number from hcapture] at hkind
        simp [GroupKind.isCapture] at hkind
      · have hinner : innerLow kind reader.opened = reader.opened := by
          cases kind with
          | capture number => simp [GroupKind.isCapture] at hkind
          | _ => rfl
        show NumberedBranches [] [] (innerLow kind reader.opened) reader.opened
        rw [hinner]
        exact .start reader.opened
  | capture names =>
      refine ⟨⟨reader.opened, ?_, .start (reader.opened + 1), hnested⟩, hclosed⟩
      rintro number hcapture
      cases hcapture
      exact Nat.lt_succ_self reader.opened
  | leave parent rest houter =>
      rw [houter] at hnested
      obtain ⟨count, hcount, hframe, hparent⟩ := hnested
      have hterm := numbered_term hcount hframe
      have hafter : Nested { parent with terms := reader.frame.term :: parent.terms } rest
          reader.opened :=
        hparent.extend rfl fun low hbefore => hbefore.cons hterm
      unfold close
      dsimp only
      split
      · next number _ =>
        refine ⟨hafter, fun other width hlookup => ?_⟩
        rw [List.lookup_cons] at hlookup
        split at hlookup
        · cases hlookup
          exact hframe.body.width_lt
        · exact hclosed other width hlookup
      · exact ⟨hafter, hclosed⟩
      · exact ⟨hafter, hclosed⟩
  | setFlags on later h =>
      unfold ExprReader.setFlags at h
      split at h
      · cases h
        exact ⟨hnested.extend rfl fun low hframe => hframe, hclosed⟩
      · simp at h

/-- Reading keeps the numbers in order. -/
theorem run_numbered {pieces : List Piece} (hreader : reader.Numbered)
    (h : reader.run pieces = .ok later) : later.Numbered := by
  induction pieces generalizing reader with
  | nil =>
      rw [run_nil] at h
      cases h
      exact hreader
  | cons piece rest ih =>
      obtain ⟨_, middle, hstep, hrest⟩ := run_cons.mp h
      obtain ⟨settled, hsettle, haccept⟩ := step_eq_ok.mp hstep
      have hsettled := (settle_move hsettle).numbered hreader
      exact ih ((accept_move haccept).numbered hsettled) hrest

end ExprReader

/-- The groups of an expression that has been read have the numbers from one on, in order. -/
theorem Expression.read_numbered {source : String} {flags : Flags} {expression : Expression}
    (h : Expression.read source flags = .ok expression) :
    expression.expr.Numbered false 0 expression.groups := by
  obtain ⟨reading, done, hrun, hfinish, _, _, rfl⟩ := Expression.read_eq_ok.mp h
  obtain ⟨hsettle, _, houter, _⟩ := ExprReader.finish_eq_ok.mp hfinish
  have hstart : (ExprReader.start flags).Numbered := ⟨.start 0, by simp [ExprReader.start]⟩
  have hdone := (ExprReader.settle_move hsettle).numbered (ExprReader.run_numbered hstart hrun)
  have hnested := hdone.nested
  rw [houter] at hnested
  exact NumberedBranches.body hnested

end RoutePattern
