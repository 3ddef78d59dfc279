import RoutePattern.Proofs.Expr.Move
import RoutePattern.Proofs.Expr.Opening
import RoutePattern.Proofs.Expr.Set

/-!
# Tests that ignore case

A test that ignores case sees nothing of a character but its lower-case form
(`CharTest.accepts_of_lowerCode`). A set that lists characters accepts these if it ignores case, too,
but for upper-case letters of the supplementary planes: it compares the lower-case form of a character
with them (`CharTest.accepts_listed`).
-/

namespace RoutePattern

/-! ## Lower-case forms -/

/-- Lower-case forms of the supplementary planes are there, too. -/
theorem supplementary_lowerCode {n : Nat} (h : Member.firstSupplementary ≤ n) :
    Member.firstSupplementary ≤ lowerCode n := by
  have hruns : ∀ run ∈ lowerRuns, Member.firstSupplementary ≤ run.last →
      Member.firstSupplementary ≤ run.first ∧ 0 ≤ run.shift := by decide +kernel
  by_cases hsame : lowerCode n = n
  · rwa [hsame]
  · obtain ⟨run, hrun, hholds, hlower⟩ := exists_run_of_lowerCode hsame
    simp only [CaseRun.holds, Bool.and_eq_true, decide_eq_true_eq] at hholds
    have hshift := hruns run hrun (by omega)
    omega

namespace CharTest

/-- A code point equals itself. -/
theorem sameCode_self (fold : Fold) (n : Nat) : sameCode fold n n = true := by
  unfold sameCode
  split <;> simp

/-- Where case is ignored, comparing code points with another one is comparing their lower-case
forms. -/
theorem sameCode_of_lowerCode {n x y : Nat} (h : lowerCode x = lowerCode y) :
    sameCode .unicode n x = sameCode .unicode n y := by
  unfold sameCode
  split
  · rw [show Fold.unicode.lower x = Fold.unicode.lower y from h]
  · next hcased =>
    have hplain : isCased n = false := by simpa [Fold.cased] using hcased
    rw [Bool.eq_iff_iff, beq_iff_eq, beq_iff_eq, ← lowerCode_eq_iff hplain, h,
      lowerCode_eq_iff hplain]

/-- What equals a code point does so, too, where case is ignored. -/
theorem sameCode_unicode {fold : Fold} (hfold : fold ≠ .ascii) {n x : Nat}
    (h : sameCode fold n x = true) : sameCode .unicode n x = true := by
  cases fold with
  | keep =>
      obtain rfl : x = n := by simpa [sameCode, Fold.cased] using h
      exact sameCode_self .unicode x
  | ascii => exact absurd rfl hfold
  | unicode => exact h

/-- A member that does not make its set ignore case has no case. -/
theorem isPlain_of_folds {member : Member} (h : member.folds .unicode = false) :
    member.isPlain .unicode = true := by
  cases member <;> simp_all [Member.folds, Member.isPlain]

/-- Where case is ignored, the members of a set are compared with the lower-case form. -/
theorem amongMembers_unicode {members : List Member}
    (hbroad : ∀ member ∈ members, member.takeClass false = member) (x : Nat) :
    amongMembers .unicode members x = members.any (·.holdsFolded .unicode (lowerCode x)) := by
  unfold amongMembers
  split
  · rfl
  · next hfolds =>
    rw [foldsMembers, Bool.not_eq_true, List.any_eq_false] at hfolds
    rw [Bool.eq_iff_iff, List.any_eq_true, List.any_eq_true]
    refine exists_congr fun member => and_congr_right fun hmem => ?_
    have hplain := isPlain_of_folds (by simpa using hfolds member hmem)
    rw [Member.holdsFolded_lowerCode hplain (hbroad member hmem)]

/-- A test that ignores case does not tell characters with one lower-case form from each other. -/
theorem accepts_of_lowerCode {test : CharTest} (hbroad : test.isBroad = true)
    (hkeeps : test.KeepsTo .unicode) {c d : Char} (h : lowerCode c.toNat = lowerCode d.toNat) :
    test.accepts c = test.accepts d := by
  cases test with
  | any lineFeed =>
      have hfeed (x : Char) : (x = '\n') = (lowerCode x.toNat = '\n'.toNat) := by
        rw [lowerCode_eq_iff (by decide +kernel), Char.toNat_inj]
      simp only [accepts, bne, Bool.beq_eq_decide_eq, hfeed, h]
  | literal n negated fold =>
      obtain rfl : fold = .unicode := hkeeps
      rw [accepts, accepts, sameCode_of_lowerCode h]
  | set members negated fold =>
      obtain rfl : fold = .unicode := hkeeps
      simp only [isBroad, Bool.and_eq_true, List.all_eq_true, beq_iff_eq] at hbroad
      rw [accepts, accepts, amongMembers_unicode hbroad.2, amongMembers_unicode hbroad.2, h]

/-! ## Sets that list characters -/

/-- A set of given characters compares characters in the way it was read. -/
theorem keepsTo_test (fold : Fold) (negated : Bool) (members : List Member) :
    (SetReader.test fold negated members).KeepsTo fold := by
  unfold SetReader.test
  split <;> rfl

/-- Each of some characters may be listed in a set that ignores case: if it is one of the
supplementary planes, its lower-case form is listed as well, or it is the only one. -/
def Listable (chars : List Char) : Prop :=
  ∀ c ∈ chars, Member.firstSupplementary ≤ c.toNat →
    (∃ d ∈ chars, d.toNat = lowerCode c.toNat) ∨ ∀ d ∈ chars, d = c

-- Only the listed characters are tested. There are too many to run through all of them.
instance (chars : List Char) : Decidable (Listable chars) :=
  decidable_of_iff ((chars.all fun c => Nat.blt c.toNat Member.firstSupplementary ||
      (chars.any (fun d => d.toNat == lowerCode c.toNat) || chars.all (· == c))) = true) <| by
    simp only [Listable, List.all_eq_true, List.any_eq_true, Bool.or_eq_true, Nat.blt_eq,
      beq_iff_eq, ← Nat.not_lt, Decidable.imp_iff_not_or, Decidable.not_not]

/-- What is in a list over and over is in it once without duplicates. -/
theorem eraseDups_eq_singleton {α : Type} [BEq α] [LawfulBEq α] {a : α} {items : List α}
    (hmem : a ∈ items) (h : ∀ b ∈ items, b = a) : items.eraseDups = [a] := by
  cases items with
  | nil => simp at hmem
  | cons b rest =>
      obtain ⟨rfl, hrest⟩ := List.forall_mem_cons.mp h
      have hnone : rest.filter (fun c => !c == b) = [] := by
        simpa using hrest
      rw [List.eraseDups_cons, hnone]
      rfl

/-- Where case is ignored, a set of characters that may be listed accepts them. -/
theorem accepts_listed {chars : List Char} (h : Listable chars) {c : Char} (hmem : c ∈ chars) :
    (SetReader.test .unicode false (chars.map fun c => .code c.toNat)).accepts c = true := by
  let members : List Member := chars.map fun c => .code c.toNat
  have hcode {d : Char} (hd : d ∈ chars) : .code d.toNat ∈ members.eraseDups :=
    List.mem_eraseDups.mpr (List.mem_map.mpr ⟨d, hd, rfl⟩)
  show (SetReader.test .unicode false members).accepts c = true
  unfold SetReader.test
  split
  · next n heq =>
    have hone := hcode hmem
    rw [heq, List.mem_singleton, Member.code.injEq] at hone
    rw [accepts, ← hone, sameCode_self]
    rfl
  · next unique hlong =>
    have hbroad : ∀ member ∈ members.eraseDups, member.takeClass false = member := by
      intro member hmember
      obtain ⟨d, _, rfl⟩ := List.mem_map.mp (List.mem_eraseDups.mp hmember)
      rfl
    rw [accepts, amongMembers_unicode hbroad, Bool.false_bne, List.any_eq_true]
    by_cases hbasic : c.toNat < Member.firstSupplementary
    · refine ⟨_, hcode hmem, ?_⟩
      rw [Member.holdsFolded, if_neg (Nat.not_le.mpr hbasic)]
      simp [Fold.lower]
    · rcases h c hmem (Nat.not_lt.mp hbasic) with ⟨d, hd, hlower⟩ | hall
      · refine ⟨_, hcode hd, ?_⟩
        rw [Member.holdsFolded, if_pos
          (hlower ▸ supplementary_lowerCode (Nat.not_lt.mp hbasic)), hlower, beq_self_eq_true]
      · -- A character that is alone in a set is not read as a set.
        refine absurd (eraseDups_eq_singleton (List.mem_map_of_mem hmem) ?_) (hlong c.toNat)
        rw [List.forall_mem_map]
        exact fun d hd => by rw [hall d hd]

end CharTest

end RoutePattern
