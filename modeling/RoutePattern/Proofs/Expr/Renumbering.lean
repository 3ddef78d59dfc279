import RoutePattern.Proofs.Expr.Passage

/-!
# Groups behind other groups

An expression whose groups get other numbers, because further groups come in front of them, is the
same in all other ways. `Expr.shift` renumbers the groups and `shiftMarks` says where their marks
are then. What a search begins with does not change (`lead_shift`), and noting a mark behind others
notes it behind them (`putMark_shiftMarks`).
-/

namespace RoutePattern

/-! ## Marks behind other marks -/

/-- Marks once there are as many groups more in front of theirs, which have no marks. Where nothing
has been noted, there is nothing to be passed over. -/
def shiftMarks (count : Nat) : Marks → Marks
  | [] => []
  | mark :: rest => List.replicate (2 * count) none ++ mark :: rest

/-- Some marks stand behind the ones that are passed over. -/
theorem shiftMarks_of_ne_nil {marks : Marks} (h : marks ≠ []) (count : Nat) :
    shiftMarks count marks = List.replicate (2 * count) none ++ marks := by
  cases marks with
  | nil => exact absurd rfl h
  | cons mark rest => rfl

/-- Without further groups the marks are the same. -/
@[simp]
theorem shiftMarks_zero (marks : Marks) : shiftMarks 0 marks = marks := by
  cases marks <;> rfl

/-- Forgetting the marks beyond some earlier ones leaves the same marks behind other ones. -/
theorem take_shiftMarks (count : Nat) (marks earlier : Marks) :
    (shiftMarks count marks).take (shiftMarks count earlier).length =
      shiftMarks count (marks.take earlier.length) := by
  cases earlier with
  | nil => simp [shiftMarks]
  | cons first rest =>
      cases marks with
      | nil => simp [shiftMarks]
      | cons mark others =>
          simp only [shiftMarks, List.length_append, List.length_replicate, List.length_cons,
            List.take_succ_cons]
          rw [List.take_append, List.take_of_length_le (by simp), List.length_replicate,
            Nat.add_sub_cancel_left, List.take_succ_cons]

/-- The marks in front are blank. -/
theorem markAt_shiftMarks_of_lt {count number : Nat} (h : number < 2 * count) (marks : Marks) :
    markAt (shiftMarks count marks) number = none := by
  cases marks with
  | nil => rfl
  | cons mark rest => simp [markAt, shiftMarks, List.getElem?_append_left, h]

/-- The marks behind the ones in front are as before. -/
theorem markAt_shiftMarks (count number : Nat) (marks : Marks) :
    markAt (shiftMarks count marks) (2 * count + number) = markAt marks number := by
  cases marks with
  | nil => rfl
  | cons mark rest => simp [markAt, shiftMarks, List.getElem?_append_right]

/-- Noting a mark behind others notes it behind them. -/
theorem putMark_shiftMarks (count : Nat) (marks : Marks) (number : Nat) (place : Place) :
    putMark (shiftMarks count marks) (2 * count + number) place =
      shiftMarks count (putMark marks number place) := by
  have hnoted : putMark marks number place ≠ [] := by
    intro h
    have hlength := length_putMark marks number place
    rw [h, List.length_nil] at hlength
    omega
  rw [shiftMarks_of_ne_nil hnoted]
  cases marks with
  | nil =>
      simp [putMark, Memory.mark, shiftMarks, ← List.append_assoc,
        List.replicate_append_replicate]
  | cons mark rest =>
      rw [shiftMarks_of_ne_nil (by simp)]
      generalize mark :: rest = marks
      unfold putMark Memory.mark
      dsimp only
      rw [List.length_append, List.length_replicate]
      by_cases hlt : number < marks.length
      · rw [if_pos (Nat.add_lt_add_left hlt _), if_pos hlt, List.set_append_right _ _ (by simp)]
        simp
      · rw [if_neg (by omega), if_neg hlt, Nat.add_sub_add_left]
        simp only [List.append_assoc]

/-! ## Expressions -/

namespace Expr

/-- An expression with other groups in front of its own. -/
def shift (count : Nat) : Expr → Expr
  | empty => empty
  | never => never
  | char test => char test
  | anchor place => anchor place
  | seq first second => seq (first.shift count) (second.shift count)
  | either first second => either (first.shift count) (second.shift count)
  | group number body => group (count + number) (body.shift count)
  | loop greed least most body => loop greed least most (body.shift count)
  | atomic body => atomic (body.shift count)
  | ahead positive body => ahead positive (body.shift count)
  | behind positive width body => behind positive width (body.shift count)
  | backref number width fold => backref (count + number) width fold
  | ifGroup number yes no => ifGroup (count + number) (yes.shift count) (no.shift count)

/-- Without capture groups and references there is nothing to renumber. -/
theorem shift_of_captures {e : Expr} (h : e.Unreferring) (hcaptures : e.captures = [])
    (count : Nat) : e.shift count = e := by
  induction e with
  | empty | never | char | anchor => rfl
  | seq first second ihfirst ihsecond | either first second ihfirst ihsecond =>
      obtain ⟨hfirst, hsecond⟩ := List.append_eq_nil_iff.mp hcaptures
      rw [shift, ihfirst h.1 hfirst, ihsecond h.2 hsecond]
  | group number body => simp [captures] at hcaptures
  | loop _ _ _ body ih | atomic body ih | ahead _ body ih | behind _ _ body ih =>
      rw [shift, ih h hcaptures]
  | backref | ifGroup => exact h.elim

/-- No groups in front change nothing. -/
@[simp]
theorem shift_zero (e : Expr) : e.shift 0 = e := by
  induction e with
  | empty | never | char | anchor => rfl
  | seq first second ihfirst ihsecond | either first second ihfirst ihsecond =>
      rw [shift, ihfirst, ihsecond]
  | group number body ih => rw [shift, ih, Nat.zero_add]
  | loop _ _ _ body ih | atomic body ih | ahead _ body ih | behind _ _ body ih => rw [shift, ih]
  | backref => rw [shift, Nat.zero_add]
  | ifGroup number yes no ihyes ihno => rw [shift, ihyes, ihno, Nat.zero_add]

/-- Expressions in a row are renumbered one by one. -/
theorem shift_ofList (count : Nat) (items : List Expr) :
    (ofList items).shift count = ofList (items.map (shift count)) := by
  fun_induction ofList items with
  | case1 => rfl
  | case2 e => rfl
  | case3 e rest hne ih =>
      cases rest with
      | nil => exact absurd rfl hne
      | cons second others => exact congrArg (seq (e.shift count)) ih

/-- Renumbering keeps the test that an expression begins with. -/
theorem lead_shift (count : Nat) (e : Expr) (after : Option CharTest) :
    (e.shift count).lead after = e.lead after := by
  induction e generalizing after with
  | seq first second ihfirst ihsecond =>
      show (first.shift count).lead ((second.shift count).lead after) = _
      rw [ihsecond, ihfirst]
      rfl
  | _ => rfl

/-- Renumbering keeps the test that is all there is to an expression. -/
theorem soleTest?_shift (count : Nat) (e : Expr) :
    (e.shift count).soleTest? = e.soleTest? := by
  fun_induction soleTest? e with
  | case1 test => rfl
  | case2 e ih => exact ih
  | case3 e hchar hseq =>
      cases e with
      | char test => exact absurd rfl (hchar test)
      | seq first second =>
          cases second with
          | empty => exact absurd rfl (hseq first)
          | _ => rfl
      | _ => rfl

end Expr

end RoutePattern
